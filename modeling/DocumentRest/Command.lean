import DocumentRest.Credentials
import DocumentRest.Text.Blank

namespace DocumentRest

inductive Verb
  | connect
  | query
  | select
  | load
  | classInfo
  | createClass
  | cluster
  | command
  | server
  | schema
  | roles
  | users
  | limit
  | fetchPlan
  | raw
  | status
  | disconnect
  | help
  | quit
  deriving DecidableEq, Repr

def Verb.ofWord? : String → Option Verb
  | "connect" => some .connect
  | "query" => some .query
  | "select" => some .select
  | "load" => some .load
  | "class" => some .classInfo
  | "create-class" => some .createClass
  | "cluster" => some .cluster
  | "command" => some .command
  | "server" => some .server
  | "schema" => some .schema
  | "roles" => some .roles
  | "users" => some .users
  | "limit" => some .limit
  | "fetchplan" => some .fetchPlan
  | "raw" => some .raw
  | "status" => some .status
  | "disconnect" => some .disconnect
  | "help" | "?" => some .help
  | "quit" | "exit" => some .quit
  | _ => none

inductive Form
  | connect
  | query
  | load
  | classInfo
  | createClass
  | cluster
  | command
  | limit
  | fetchPlan
  | raw
  deriving DecidableEq, Repr

def Form.text : Form → String
  | .connect => "connect [user password]"
  | .query => "query <sql>"
  | .load => "load <rid> [fetchplan]"
  | .classInfo => "class <name>"
  | .createClass => "create-class <name>"
  | .cluster => "cluster <name>"
  | .command => "command <sql>"
  | .limit => "limit <n|->"
  | .fetchPlan => "fetchplan <plan|->"
  | .raw => "raw on|off"

inductive UsageError
  | misused (form : Form)
  | unknownVerb (word : String)
  deriving DecidableEq, Repr

def UsageError.message : UsageError → String
  | .misused form => "usage: " ++ form.text
  | .unknownVerb word => "unknown command '" ++ word ++ "', type 'help'"

inductive Command
  | connect (credentials : Option Credentials)
  | query (sql : String)
  | load (rid : String) (fetchPlan : Option String)
  | classInfo (name : String)
  | createClass (name : String)
  | cluster (name : String)
  | command (sql : String)
  | server
  | schema
  | roles
  | users
  | limit (value : Option String)
  | fetchPlan (value : Option String)
  | raw (on : Bool)
  | status
  | disconnect
  | help
  | quit
  deriving DecidableEq, Repr

namespace Command

def name : Command → String
  | connect _ => "connect"
  | query _ => "query"
  | load .. => "load"
  | classInfo _ => "class"
  | createClass _ => "create-class"
  | cluster _ => "cluster"
  | command _ => "command"
  | server => "server"
  | schema => "schema"
  | roles => "roles"
  | users => "users"
  | limit _ => "limit"
  | fetchPlan _ => "fetchplan"
  | raw _ => "raw"
  | status => "status"
  | disconnect => "disconnect"
  | help => "help"
  | quit => "quit"

def textArgument (form : Form) (rest : List Char) : Except UsageError String :=
  if rest.isEmpty then .error (.misused form) else .ok (.ofList rest)

def wordArgument (form : Form) (rest : List Char) : Except UsageError String :=
  if rest.any Text.isBlank then .error (.misused form) else textArgument form rest

/-- The new value of a setting, which `-` clears. -/
def settingArgument (form : Form) (rest : List Char) : Except UsageError (Option String) :=
  (wordArgument form rest).map fun value => if value = "-" then none else some value

def connectArguments : List (List Char) → Except UsageError Command
  | [] => .ok (connect none)
  | [user, password] => .ok (connect (some ⟨.ofList user, .ofList password⟩))
  | _ => .error (.misused .connect)

def loadArguments : List (List Char) → Except UsageError Command
  | [rid] => .ok (load (.ofList rid) none)
  | [rid, plan] => .ok (load (.ofList rid) (some (.ofList plan)))
  | _ => .error (.misused .load)

def rawArgument (rest : List Char) : Except UsageError Command :=
  if rest = "on".toList then .ok (raw true)
  else if rest = "off".toList then .ok (raw false)
  else .error (.misused .raw)

/-- The command of a verb and the trimmed text behind it, where `line` is the whole of the two. -/
def ofVerb (line rest : List Char) : Verb → Except UsageError Command
  | .connect => connectArguments (Text.words rest)
  | .query => (textArgument .query rest).map query
  | .select => .ok (query (.ofList line))
  | .load => loadArguments (Text.words rest)
  | .classInfo => (wordArgument .classInfo rest).map classInfo
  | .createClass => (wordArgument .createClass rest).map createClass
  | .cluster => (wordArgument .cluster rest).map cluster
  | .command => (textArgument .command rest).map command
  | .server => .ok server
  | .schema => .ok schema
  | .roles => .ok roles
  | .users => .ok users
  | .limit => (settingArgument .limit rest).map limit
  | .fetchPlan => (settingArgument .fetchPlan rest).map fetchPlan
  | .raw => rawArgument rest
  | .status => .ok status
  | .disconnect => .ok disconnect
  | .help => .ok help
  | .quit => .ok quit

def ofTrimmed (line : List Char) : Except UsageError Command :=
  let (word, rest) := Text.firstWord line
  let verb := String.ofList (word.map Char.toLower)
  match Verb.ofWord? verb with
  | some v => ofVerb line rest v
  | none => .error (.unknownVerb verb)

def isComment (line : List Char) : Bool := "--".toList.isPrefixOf line

/-- Read a line. Blank lines and those that start with `--` hold no command. -/
def parse (line : String) : Except UsageError (Option Command) :=
  let line := Text.trim line.toList
  if line.isEmpty || isComment line then .ok none else (ofTrimmed line).map some

def arguments : Command → List String
  | connect (some credentials) => [credentials.username, credentials.password]
  | query text | classInfo text | createClass text | cluster text | command text => [text]
  | load rid none => [rid]
  | load rid (some plan) => [rid, plan]
  | limit value | fetchPlan value => [value.getD "-"]
  | raw on => [if on then "on" else "off"]
  | _ => []

/-- The line that a command is written as: its name and its arguments, with single spaces between.
-/
def line (c : Command) : String := " ".intercalate (c.name :: c.arguments)

end Command

end DocumentRest
