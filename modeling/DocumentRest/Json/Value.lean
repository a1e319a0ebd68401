namespace DocumentRest.Json

inductive Number
  | integer (n : Int)
  | float (x : Float)
  deriving Inhabited

inductive Scalar
  | null
  | bool (b : Bool)
  | number (n : Number)
  | string (s : String)
  deriving Inhabited

inductive Value
  | scalar (a : Scalar)
  | array (items : List Value)
  | object (members : List (String × Value))
  deriving Inhabited

/-- Put a member in its place among members that are sorted by key. It takes the place of a member
that has its key already. -/
def insertMember {α : Type} (key : String) (a : α) : List (String × α) → List (String × α)
  | [] => [(key, a)]
  | (k, b) :: r =>
    if key = k then (key, a) :: r
    else if key < k then (key, a) :: (k, b) :: r
    else (k, b) :: insertMember key a r

namespace Value

def null : Value := scalar .null

def bool (b : Bool) : Value := scalar (.bool b)

def integer (n : Int) : Value := scalar (.number (.integer n))

def string (s : String) : Value := scalar (.string s)

def optional : Option Value → Value
  | some v => v
  | none => null

def field? (key : String) : Value → Option Value
  | object members => members.lookup key
  | _ => none

end Value

end DocumentRest.Json
