import DocumentRest.FilePath
import DocumentRest.System

namespace DocumentRest

inductive Directory
  | empty
  | file (name : String) (content : List UInt8) (others : Directory)
  | directory (name : String) (inner others : Directory)
  deriving DecidableEq, Repr

inductive Node
  | file (content : List UInt8)
  | directory (inner : Directory)
  deriving DecidableEq, Repr

def Node.kind : Node → System.Kind
  | .file _ => .file
  | .directory _ => .directory

namespace Directory

def find? (name : String) : Directory → Option Node
  | .empty => none
  | .file other content others => if other = name then some (.file content) else others.find? name
  | .directory other inner others =>
    if other = name then some (.directory inner) else others.find? name

def add (name : String) (node : Node) (others : Directory) : Directory :=
  match node with
  | .file content => .file name content others
  | .directory inner => .directory name inner others

def put (name : String) (node : Node) : Directory → Directory
  | .empty => add name node .empty
  | .file other content others =>
    if other = name then add name node others else .file other content (others.put name node)
  | .directory other inner others =>
    if other = name then add name node others else .directory other inner (others.put name node)

end Directory

inductive Place
  /-- Inside the directory: what is there, and the names on the way, each with the directory that it
  is looked up in. The last one comes first. -/
  | inside (node : Option Node) (way : List (String × Directory))
  | outside (names : List String)
  | above
  deriving DecidableEq, Repr

namespace Place

def start (d : Directory) : Place := .inside (some (.directory d)) []

def kind? : Place → Option System.Kind
  | .inside node _ => node.map Node.kind
  | .outside names => System.kind? names
  | .above => some .directory

def ofNames (d : Directory) (names : List String) : Place :=
  match System.link? names with
  | some .working => start d
  | some (.names names) => .outside names
  | none => .outside names

def below (d : Directory) (name : String) : Place → Place
  | .inside (some (.directory inner)) way => .inside (inner.find? name) ((name, inner) :: way)
  | .inside _ way => .inside none way
  | .outside names => ofNames d (names ++ [name])
  | .above => .above

def parent : Place → Place
  | .inside _ ((_, outer) :: way) => .inside (some (.directory outer)) way
  | .inside _ [] => .above
  | .outside names => .outside names.dropLast
  | .above => .above

end Place

namespace Directory

/-- Put a node where nothing is yet. This is possible only inside the directory. -/
def insertAt (node : Node) : Place → Except FileError Directory
  | .inside none ((name, inner) :: way) =>
    .ok (way.foldl (fun inner (name, outer) => outer.put name (.directory inner))
      (inner.put name node))
  | .outside names => .error (System.refusal (node.kind = .directory) names)
  | _ => .error .missing

def maxNameLength : Nat := 255

def follow (d : Directory) (place : Place) (segment : String) : Except FileError Place :=
  match place.kind? with
  | none => .error .missing
  | some .directory =>
    if segment = "/" then .ok (.outside [])
    else if segment = "." then .ok place
    else if segment = ".." then .ok place.parent
    else if maxNameLength < segment.utf8ByteSize then .error .nameTooLong
    else .ok (place.below d segment)
  | some _ => .error .noDirectory

def followAll (d : Directory) (segments : List String) : Except FileError Place :=
  segments.foldlM d.follow (.start d)

def isDirectory (d : Directory) (segments : List String) : Bool :=
  match d.followAll segments with
  | .ok place => place.kind? = some .directory
  | .error _ => false

def make (d : Directory) (segments : List String) : Except FileError Directory := do
  let place ← d.followAll segments
  if place.kind?.isSome then throw .alreadyThere else insertAt (.directory .empty) place

def ensure (d : Directory) (segments : List String) : Except FileError Directory :=
  match d.make segments with
  | .ok d => .ok d
  | .error e => if d.isDirectory segments then .ok d else .error e

/-- The path that a path lies in. A dot counts as a segment only at its start. -/
def enclosing (segments : List String) : List String :=
  (segments.take 1 ++ (segments.drop 1).filter (· ≠ ".")).dropLast

/-- Make a directory and all that it lies in. There are no more than `fuel` of them. -/
def ensureAll (d : Directory) :
    (fuel : Nat) → (segments : List String) → Except FileError Directory
  | _, [] => .ok d
  | 0, _ => .error .missing
  | fuel + 1, segments =>
    match d.ensure segments with
    | .error .missing => do (← d.ensureAll fuel (enclosing segments)).ensure segments
    | outcome => outcome

def openFile (d : Directory) (path : FilePath) : Except FileError Directory := do
  path.check
  let place ← d.followAll path.segments
  match place, place.kind? with
  | _, none => insertAt (.file []) place
  | .inside .., some .directory => throw .isDirectory
  | _, some _ => return d

inductive Source
  | content (bytes : List UInt8)
  | input
  deriving DecidableEq, Repr

/-- Read a file. Of those in the system, none but the input of the program is of use. -/
def read (d : Directory) (path : FilePath) : Except FileError Source := do
  path.check
  let place ← d.followAll path.segments
  if path.endsInSlash && place.kind? ≠ some .directory then throw .noDirectory
  match place, place.kind? with
  | .inside (some (.file content)) _, _ => return .content content
  | _, some .input => return .input
  | _, some .directory => throw .isDirectory
  | _, _ => throw .missing

def openLog (d : Directory) (path : FilePath) (name : String) : Except FileError Directory := do
  path.check
  let segments := path.segments
  (← d.ensureAll (segments.length + 1) segments).openFile (path.join name)

def ofFile (path : FilePath) (content : List UInt8) : Directory :=
  match (path.segments.filter (· ≠ ".")).reverse with
  | [] => .empty
  | name :: above =>
    above.foldl (fun inner name => .directory name inner .empty) (.file name content .empty)

def pathsBehind (path : String) : Directory → List String
  | .empty => []
  | .file name _ others => (path ++ name) :: others.pathsBehind path
  | .directory name inner others =>
    inner.pathsBehind (path ++ name ++ "/") ++ others.pathsBehind path

def filePaths (d : Directory) : List String := (d.pathsBehind "").mergeSort fun a b => a ≤ b

end Directory

end DocumentRest
