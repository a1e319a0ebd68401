import DocumentRest.Program
import DocumentRest.Offline

namespace DocumentRest.Main

open Program

def fileError : IO.Error → FileError
  | .permissionDenied _ code _ => if code = 1 then .notPermitted else .accessDenied
  | .noFileOrDirectory .. => .missing
  | .alreadyExists .. => .alreadyThere
  | .inappropriateType _ code _ => if code = 21 then .isDirectory else .noDirectory
  | .invalidArgument _ 36 _ => .nameTooLong
  | _ => .missing

def attempt {α : Type} (action : IO α) : IO (Except FileError α) := do
  try return .ok (← action)
  catch e => return .error (fileError e)

def readFile (path : FilePath) : IO (Except FileError (List UInt8)) :=
  attempt do return (← IO.FS.readBinFile path.text).toList

def pathText : List String → String
  | "/" :: segments => "/" ++ "/".intercalate segments
  | segments => "/".intercalate segments

def isDirectory (path : String) : IO Bool := do
  match ← attempt (IO.FS.realPath path) with
  | .ok place => place.isDir
  | .error _ => return false

def ensure (path : String) : IO (Except FileError Unit) := do
  match ← attempt (IO.FS.createDir path) with
  | .ok _ => return .ok ()
  | .error e => if ← isDirectory path then return .ok () else return .error e

partial def ensureAll (segments : List String) : IO (Except FileError Unit) := do
  if segments.isEmpty then return .ok ()
  match ← ensure (pathText segments) with
  | .error .missing =>
    match ← ensureAll (Directory.enclosing segments) with
    | .ok _ => ensure (pathText segments)
    | .error e => return .error e
  | outcome => return outcome

def openLog (path : FilePath) : IO (Except FileError Unit) := do
  let file := path.join logName
  if let some e := path.fault? then return .error e
  match ← ensureAll path.segments with
  | .error e => return .error e
  | .ok _ =>
    if let some e := file.fault? then return .error e
    attempt do
      let handle ← IO.FS.Handle.mk (pathText file.segments) .append
      handle.flush

def put (text : String) : IO Unit := do
  let output ← IO.getStdout
  output.putStr text
  output.flush

def fail (message : String) : IO UInt32 := do
  (← IO.getStderr).putStrLn (fatalText message)
  return 1

partial def readLine (input : IO.FS.Stream) (line : List UInt8) : IO (List UInt8) := do
  match (← input.read 1).toList with
  | [] => return line.reverse
  | b :: _ => if b = 10 then return (b :: line).reverse else readLine input (b :: line)

def leave (c : Console) : IO UInt32 := do
  put (finish Transport.offline c).2
  return 0

partial def serve (input : IO.FS.Stream) (c : Console) : IO UInt32 := do
  put prompt
  match ← readLine input [] with
  | [] => leave c
  | line =>
    match lineText line with
    | .error fault => fail fault.message
    | .ok text =>
      match turn Transport.offline c text with
      | .leave => leave c
      | .next c shown => do
        put shown
        serve input c

end DocumentRest.Main

open DocumentRest DocumentRest.Main in
def main (arguments : List String) : IO UInt32 := do
  let config := Program.config (← readFile (Program.configPath arguments))
  match ← openLog ⟨config.log.directory⟩ with
  | .error e => fail e.message
  | .ok _ =>
    let (c, shown) := Program.start Transport.offline config
    put shown
    serve (← IO.getStdin) c
