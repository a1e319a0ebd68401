import DocumentRest.File

namespace DocumentRest

structure FilePath where
  text : String
  deriving DecidableEq, Repr

namespace FilePath

def isAbsolute (p : FilePath) : Bool := p.text.toList.head? = some '/'

def endsInSlash (p : FilePath) : Bool := p.text.toList.getLast? = some '/'

/-- The segments of a path, none of them empty. The first one of an absolute path is a slash. -/
def segments (p : FilePath) : List String :=
  (if p.isAbsolute then ["/"] else []) ++
    ((p.text.toList.splitOn '/').filter (!·.isEmpty)).map .ofList

def join (p : FilePath) (name : String) : FilePath :=
  ⟨if p.text.isEmpty || p.endsInSlash then p.text ++ name else p.text ++ "/" ++ name⟩

def lengthBound : Nat := 4096

def fault? (p : FilePath) : Option FileError :=
  if '\x00' ∈ p.text.toList then some .zeroInPath
  else if lengthBound ≤ p.text.utf8ByteSize then some .nameTooLong
  else none

def check (p : FilePath) : Except FileError Unit :=
  match p.fault? with
  | some e => .error e
  | none => .ok ()

end FilePath

end DocumentRest
