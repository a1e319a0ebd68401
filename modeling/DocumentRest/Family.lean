import DocumentRest.Json.Record

namespace DocumentRest

inductive Family
  | connect
  | query
  | command
  deriving DecidableEq, Repr

namespace Family

def name : Family → String
  | connect => "Connect"
  | query => "Query"
  | command => "Command"

def toJson (f : Family) : Json.Value := .string f.name

def ofJson (text : String) : Except Json.Error Family :=
  Json.readText (Json.readName ([connect, query, command].map fun f => (f.name, f))) text

end Family

end DocumentRest
