import DocumentRest.Json.Reader

namespace DocumentRest

inductive Body
  | structured (value : Json.Value)
  | raw (text : String)

namespace Body

def ofText (structured : Bool) (text : String) : Except Json.Error Body :=
  if structured then (Json.Value.parse text).map .structured else .ok (.raw text)

/-- The value of a body. The text of a raw body is parsed only now. -/
def value : Body → Except Json.Error Json.Value
  | structured v => .ok v
  | raw text => Json.Value.parse text

def field (key : String) (b : Body) : Except Json.Error (Option Json.Value) :=
  b.value.map (·.field? key)

def pretty : Body → String
  | structured v => v.pretty
  | raw text => text

def toJson : Body → Json.Value
  | structured v => v
  | raw text => .string text

end Body

end DocumentRest
