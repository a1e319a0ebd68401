import DocumentRest.Console
import DocumentRest.Directory

namespace DocumentRest.Program

def defaultConfigPath : FilePath := ⟨"config.json"⟩

def logName : String := "orientdb-console.log"

def prompt : String := "orientdb> "

def banner (config : Config) : String :=
  "OrientDB console for " ++ config.databasePath ++ "\nType 'help' for commands.\n"

def configPath (arguments : List String) : FilePath :=
  (arguments.head?.map FilePath.mk).getD defaultConfigPath

/-- The configuration in a file. One that cannot be loaded stands for the defaults. -/
def config (content : Except FileError (List UInt8)) : Config :=
  match Config.load content with
  | .ok config => config
  | .error _ => {}

def lines : List UInt8 → List (List UInt8)
  | [] => []
  | b :: bytes =>
    if b = 10 then [b] :: lines bytes
    else
      match lines bytes with
      | [] => [[b]]
      | l :: ls => (b :: l) :: ls

def unended (line : List UInt8) : List UInt8 :=
  if line.getLast? = some 10 then
    let line := line.dropLast
    if line.getLast? = some 13 then line.dropLast else line
  else line

/-- The text of a line. What ends the line is taken away first, so that a character can be cut off
by it. -/
def lineText (line : List UInt8) : Except Text.Utf8Fault String := Text.ofUtf8 (unended line)

/-- The console before the first line, with what it has shown. It has connected if there are
credentials. -/
def start (t : Transport) (config : Config) : Console × String :=
  let c := Console.new (.ofConfig config) config.query
  match config.credentials with
  | none => (c, banner config)
  | some credentials =>
    let (c, text) := c.execute t (.connect (some credentials))
    (c, banner config ++ text ++ "\n")

inductive Turn
  | leave
  | next (console : Console) (shown : String)

def turn (t : Transport) (c : Console) (line : String) : Turn :=
  match Command.parse line with
  | .ok (some .quit) => .leave
  | outcome =>
    let (c, reaction) := c.react t outcome
    .next c reaction.shown

inductive Stop
  | left
  | unreadable (fault : Text.Utf8Fault)
  deriving DecidableEq, Repr

/-- Where the lines have led a console, what it has shown, and how they ended. There is a prompt
before every line, and before the end of the input. -/
structure Dialogue where
  console : Console
  shown : String
  stop : Stop

def converse (t : Transport) (c : Console) : List (List UInt8) → Dialogue
  | [] => ⟨c, prompt, .left⟩
  | line :: lines =>
    match lineText line with
    | .error fault => ⟨c, prompt, .unreadable fault⟩
    | .ok text =>
      match turn t c text with
      | .leave => ⟨c, prompt, .left⟩
      | .next c shown =>
        let d := converse t c lines
        { d with shown := prompt ++ shown ++ d.shown }

def finish (t : Transport) (c : Console) : Console × String :=
  if c.client.isOpen then
    let (c, text) := c.execute t .disconnect
    (c, text ++ "\n")
  else (c, "")

def fatalText (message : String) : String := "Error: " ++ message

structure Run where
  console : Console
  shown : String
  fatal : Option String

def exitCode (fatal : Option String) : Nat := if fatal.isSome then 1 else 0

def run (t : Transport) (config : Config) (input : List UInt8) : Run :=
  let (c, opening) := start t config
  let d := converse t c (lines input)
  match d.stop with
  | .unreadable fault => ⟨d.console, opening ++ d.shown, some (fatalText fault.message)⟩
  | .left =>
    let (c, closing) := finish t d.console
    ⟨c, opening ++ d.shown ++ closing, none⟩

structure Outcome where
  shown : String
  fatal : Option String
  directory : Directory

def configIn (d : Directory) (arguments : List String) (input : List UInt8) :
    Config × List UInt8 :=
  match d.read (configPath arguments) with
  | .ok .input => (config (.ok input), [])
  | .ok (.content bytes) => (config (.ok bytes), input)
  | .error e => (config (.error e), input)

def runIn (t : Transport) (d : Directory) (arguments : List String) (input : List UInt8) :
    Outcome :=
  let (config, input) := configIn d arguments input
  match d.openLog ⟨config.log.directory⟩ logName with
  | .error e => ⟨"", some (fatalText e.message), d⟩
  | .ok d =>
    let r := run t config input
    ⟨r.shown, r.fatal, d⟩

end DocumentRest.Program
