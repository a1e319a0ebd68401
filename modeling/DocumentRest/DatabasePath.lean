import DocumentRest.Json.Record

namespace DocumentRest

def splitLast? {α : Type} [DecidableEq α] (sep : α) : List α → Option (List α × List α)
  | [] => none
  | a :: s =>
    match splitLast? sep s with
    | some (before, behind) => some (a :: before, behind)
    | none => if a = sep then some ([], s) else none

structure DatabasePath where
  serverUrl : String
  database : String
  deriving DecidableEq, Repr

namespace DatabasePath

/-- Split a path at its last slash. A path without a slash is a bare database name. -/
def parse (path : String) : DatabasePath :=
  match splitLast? '/' path.toList with
  | some (server, name) => ⟨.ofList server, .ofList name⟩
  | none => ⟨"", path⟩

def display (p : DatabasePath) : String := p.serverUrl ++ "/" ++ p.database

def toJson (p : DatabasePath) : Json.Value :=
  .object [("server_url", .string p.serverUrl), ("database", .string p.database)]

def schema : Json.Schema DatabasePath where
  title := "struct DatabasePath"
  blank := ⟨"", ""⟩
  required := true
  fields := [
    Json.field "server_url" Json.readString fun p a => { p with serverUrl := a },
    Json.field "database" Json.readString fun p a => { p with database := a }]

def ofJson (text : String) : Except Json.Error DatabasePath := Json.readText schema.read text

end DatabasePath

end DocumentRest
