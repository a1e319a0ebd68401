import DocumentRest.Client
import DocumentRest.Command

namespace DocumentRest

structure Console where
  conversation : Conversation
  limit : Option String
  fetchPlan : Option String

def helpText : String :=
"Commands:
  connect [user password]     open the database
  query <sql>                 run a query (lines starting with 'select' also work)
  load <rid> [fetchplan]      load a record, e.g. load #5:0
  class <name>                show class information
  create-class <name>         create a class
  cluster <name>              browse a cluster
  command <sql>               execute a SQL command
  server                      show server information
  schema | roles | users      read from the session descriptor
  limit <n|->                 set or clear the query limit
  fetchplan <plan|->          set or clear the query fetch plan
  raw on|off                  keep responses as raw text
  status                      show connection state
  disconnect                  close the database
  help                        show this text
  quit                        leave the console"

def settingText (value : Option String) : String := value.getD "-"

def errorText (message : String) : String := "!! " ++ message

def Reply.text (database : String) : Reply → String
  | opened _ => "Connected to " ++ database
  | body b => b.pretty
  | closed _ => "Disconnected"
  | field (some v) => v.pretty
  | field none => "(none)"
  | structured on => "raw responses " ++ if on then "off" else "on"

namespace Console

def new (client : Client) (settings : QuerySettings) : Console :=
  ⟨{ client }, settings.limit, settings.fetchPlan⟩

def client (c : Console) : Client := c.conversation.client

def operation? (c : Console) : Command → Option Operation
  | .connect credentials => some (.connect credentials)
  | .query sql => some (.query sql c.limit c.fetchPlan)
  | .load rid fetchPlan => some (.load rid fetchPlan)
  | .classInfo name => some (.classInfo name)
  | .createClass name => some (.createClass name)
  | .cluster name => some (.browseCluster name)
  | .command sql => some (.executeCommand sql)
  | .server => some .serverInfo
  | .schema => some (.field .classes)
  | .roles => some (.field .roles)
  | .users => some (.field .users)
  | .raw on => some (.setStructured !on)
  | .disconnect => some .close
  | .limit _ | .fetchPlan _ | .status | .help | .quit => none

def status (c : Console) : String :=
  "server: " ++ c.client.path.serverUrl ++
  "\ndatabase: " ++ c.client.path.database ++
  "\nopen: " ++ toString c.client.isOpen ++
  "\nlimit: " ++ settingText c.limit ++
  "\nfetchplan: " ++ settingText c.fetchPlan ++
  "\nlast error: " ++ settingText (c.client.lastError.map (·.message))

def adjust (c : Console) : Command → Console × String
  | .limit value => ({ c with limit := value }, "limit = " ++ settingText value)
  | .fetchPlan value => ({ c with fetchPlan := value }, "fetchplan = " ++ settingText value)
  | .status => (c, c.status)
  | .help => (c, helpText)
  | _ => (c, "")

/-- Carry out a command. Gives the text to be shown. -/
def execute (t : Transport) (c : Console) (command : Command) : Console × String :=
  match c.operation? command with
  | none => c.adjust command
  | some op =>
    let (conversation, outcome) := c.conversation.perform t op
    let text :=
      match outcome with
      | .ok reply => reply.text c.client.path.database
      | .error e => errorText e.message
    ({ c with conversation }, text)

inductive Reaction
  | idle
  | misused (e : UsageError)
  | executed (command : Command) (text : String)

def Reaction.shown : Reaction → String
  | idle => ""
  | misused e => errorText e.message ++ "\n"
  | executed _ text => text ++ "\n"

def react (t : Transport) (c : Console) : Except UsageError (Option Command) → Console × Reaction
  | .error e => (c, .misused e)
  | .ok none => (c, .idle)
  | .ok (some command) =>
    let (c, text) := c.execute t command
    (c, .executed command text)

structure Step where
  reaction : Reaction
  exchanges : List Exchange
  console : Console

def run (t : Transport) (c : Console) : List String → List Step
  | [] => []
  | line :: lines =>
    let (d, reaction) := c.react t (Command.parse line)
    ⟨reaction, d.conversation.journal.drop c.conversation.journal.length, d⟩ :: run t d lines

end Console

end DocumentRest
