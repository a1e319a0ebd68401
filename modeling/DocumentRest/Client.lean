import DocumentRest.Config
import DocumentRest.Exchange

namespace DocumentRest

structure Client where
  path : DatabasePath
  structured : Bool := true
  credentials : Option Credentials := none
  session : Option Body := none
  lastQuery : Option Body := none
  lastCommand : Option Body := none
  lastError : Option ClientError := none

inductive SessionField
  | classes
  | roles
  | users
  deriving DecidableEq, Repr

def SessionField.key : SessionField → String
  | .classes => "classes"
  | .roles => "roles"
  | .users => "users"

inductive Operation
  | connect (credentials : Option Credentials)
  | query (sql : String) (limit fetchPlan : Option String)
  | load (rid : String) (fetchPlan : Option String)
  | classInfo (name : String)
  | createClass (name : String)
  | browseCluster (name : String)
  | executeCommand (sql : String)
  | serverInfo
  | close
  | field (f : SessionField)
  | setStructured (on : Bool)
  deriving DecidableEq

inductive Reply
  | opened (session : Body)
  | body (b : Body)
  /-- The answer to the disconnect request or, if there was no session, the last body of a
  command. -/
  | closed (last : Option Body)
  | field (v : Option Json.Value)
  | structured (on : Bool)

namespace Client

def ofPath (path : String) : Client := { path := .parse path }

def ofConfig (config : Config) : Client :=
  { path := .parse config.databasePath, structured := config.structured }

def isOpen (c : Client) : Bool := c.session.isSome

def request (c : Client) (endpoint : Endpoint) (credentials : Option Credentials) : Request :=
  ⟨endpoint.method, endpoint.url c.path, credentials⟩

def withBody (c : Client) (b : Option Body) : Family → Client
  | .connect => { c with session := b }
  | .query => { c with lastQuery := b }
  | .command => { c with lastCommand := b }

def record (c : Client) (family : Family) : Except ClientError Body → Client
  | .ok b => { c.withBody (some b) family with lastError := none }
  | .error e => { c.withBody none family with lastError := some e }

def sessionField (c : Client) (f : SessionField) : Except ClientError (Option Json.Value) :=
  match c.session with
  | none => .error .databaseClosed
  | some (.structured v) => .ok (v.field? f.key)
  | some (.raw text) =>
    match Body.field f.key (.raw text) with
    | .ok v => .ok v
    | .error _ => .error (.requestFailed .connect text)

end Client

/-- A client with all the exchanges it has had. -/
structure Conversation where
  client : Client
  journal : List Exchange := []

namespace Conversation

def send (t : Transport) (c : Conversation) (endpoint : Endpoint)
    (credentials : Option Credentials) : Conversation × Except ClientError Body :=
  let request := c.client.request endpoint credentials
  let answer := t (c.journal.map (·.request)) request
  let e : Exchange := ⟨endpoint, c.client.structured, request, answer⟩
  (⟨c.client.record endpoint.family e.outcome, c.journal ++ [e]⟩, e.outcome)

/-- Open a session. Its credentials are kept if that succeeds, and otherwise there are none. -/
def connect (t : Transport) (c : Conversation) (credentials : Option Credentials) :
    Conversation × Except ClientError Body :=
  let (c, outcome) := c.send t .connect credentials
  let kept :=
    match outcome with
    | .ok _ => credentials
    | .error _ => none
  ({ c with client := { c.client with credentials := kept } }, outcome)

/-- Open a session without credentials if there is none. Whether it succeeds does not matter. -/
def ensureOpen (t : Transport) (c : Conversation) : Conversation :=
  if c.client.isOpen then c else (c.connect t none).1

def call (t : Transport) (c : Conversation) (endpoint : Endpoint) :
    Conversation × Except ClientError Body :=
  c.send t endpoint c.client.credentials

/-- End the session, whatever the server answers. Without a session nothing is sent. -/
def close (t : Transport) (c : Conversation) : Conversation × Except ClientError Reply :=
  if c.client.isOpen then
    let (c, outcome) := c.call t .disconnect
    ({ c with client := { c.client with session := none, credentials := none } },
      outcome.map fun b => .closed (some b))
  else (c, .ok (.closed c.client.lastCommand))

def field (c : Conversation) (f : SessionField) : Conversation × Except ClientError Reply :=
  match c.client.sessionField f with
  | .ok v => (c, .ok (.field v))
  | .error e => ({ c with client := { c.client with lastError := some e } }, .error e)

def setStructured (c : Conversation) (on : Bool) : Conversation :=
  { c with client := { c.client with structured := on } }

def request (t : Transport) (c : Conversation) (endpoint : Endpoint) :
    Conversation × Except ClientError Reply :=
  let (c, outcome) := (c.ensureOpen t).call t endpoint
  (c, outcome.map .body)

def perform (t : Transport) (c : Conversation) :
    Operation → Conversation × Except ClientError Reply
  | .connect credentials =>
    let (c, outcome) := c.connect t credentials
    (c, outcome.map .opened)
  | .query sql limit fetchPlan => c.request t (.query sql limit fetchPlan)
  | .load rid fetchPlan => c.request t (.document rid fetchPlan)
  | .classInfo name => c.request t (.classInfo name)
  | .createClass name => c.request t (.createClass name)
  | .browseCluster name => c.request t (.cluster name)
  | .executeCommand sql => c.request t (.command sql)
  | .serverInfo => c.request t .server
  | .close => c.close t
  | .field f => c.field f
  | .setStructured on => (c.setStructured on, .ok (.structured on))

structure Step where
  operation : Operation
  outcome : Except ClientError Reply
  exchanges : List Exchange
  client : Client

def run (t : Transport) (c : Conversation) : List Operation → List Step
  | [] => []
  | op :: ops =>
    let (d, outcome) := c.perform t op
    ⟨op, outcome, d.journal.drop c.journal.length, d.client⟩ :: run t d ops

end Conversation

end DocumentRest
