import DocumentRest.Credentials
import DocumentRest.File
import DocumentRest.Json.Record

namespace DocumentRest

structure LogSettings where
  directory : String := "./logs"
  filter : String := "orientdb_console=info,orientdb_rs=debug,orientdb_core=debug"
  deriving DecidableEq, Repr

structure QuerySettings where
  limit : Option String := none
  fetchPlan : Option String := none
  deriving DecidableEq, Repr

structure Config where
  databasePath : String := "http://localhost:2480/demo"
  username : Option String := none
  password : Option String := none
  structured : Bool := true
  timeout : Option UInt64 := none
  log : LogSettings := {}
  query : QuerySettings := {}
  deriving DecidableEq

inductive LoadError
  | file (e : FileError)
  | noText
  | json (e : Json.Error)

def LoadError.message : LoadError → String
  | file e => e.message
  | noText => "stream did not contain valid UTF-8"
  | json e => e.message

def LogSettings.toJson (l : LogSettings) : Json.Value :=
  .object [("log_dir", .string l.directory), ("filter", .string l.filter)]

def LogSettings.schema : Json.Schema LogSettings where
  title := "struct LoggingConfig"
  blank := {}
  required := false
  fields := [
    Json.field "log_dir" Json.readString fun l a => { l with directory := a },
    Json.field "filter" Json.readString fun l a => { l with filter := a }]

def QuerySettings.toJson (q : QuerySettings) : Json.Value :=
  .object [("default_limit", .optional (q.limit.map .string)),
    ("default_fetch_plan", .optional (q.fetchPlan.map .string))]

def QuerySettings.schema : Json.Schema QuerySettings where
  title := "struct ConsoleConfig"
  blank := {}
  required := false
  fields := [
    Json.field "default_limit" (Json.readOptional Json.readString) fun q a => { q with limit := a },
    Json.field "default_fetch_plan" (Json.readOptional Json.readString)
      fun q a => { q with fetchPlan := a }]

namespace Config

def toJson (c : Config) : Json.Value :=
  .object [("database_path", .string c.databasePath),
    ("username", .optional (c.username.map .string)),
    ("password", .optional (c.password.map .string)),
    ("structured_responses", .bool c.structured),
    ("timeout_secs", .optional (c.timeout.map fun n => .integer n.toNat)),
    ("logging", c.log.toJson),
    ("console", c.query.toJson)]

def schema : Json.Schema Config where
  title := "struct Config"
  blank := {}
  required := false
  fields := [
    Json.field "database_path" Json.readString fun c a => { c with databasePath := a },
    Json.field "username" (Json.readOptional Json.readString) fun c a => { c with username := a },
    Json.field "password" (Json.readOptional Json.readString) fun c a => { c with password := a },
    Json.field "structured_responses" Json.readBool fun c a => { c with structured := a },
    Json.field "timeout_secs" (Json.readOptional Json.readUInt64)
      fun c a => { c with timeout := a },
    Json.field "logging" LogSettings.schema.read fun c a => { c with log := a },
    Json.field "console" QuerySettings.schema.read fun c a => { c with query := a }]

def ofJson (text : String) : Except Json.Error Config := Json.readText schema.read text

def load (content : Except FileError (List UInt8)) : Except LoadError Config := do
  let bytes ← content.mapError .file
  let text ← (Text.ofUtf8 bytes).mapError fun _ => .noText
  (ofJson text).mapError .json

/-- The credentials of the first session, which takes both a user name and a password. -/
def credentials (c : Config) : Option Credentials :=
  match c.username, c.password with
  | some user, some password => some ⟨user, password⟩
  | _, _ => none

end Config

end DocumentRest
