import DocumentRest.Json.Container

namespace DocumentRest.Json

variable {α : Type}

def addMember (value : Reader Value) (key : String) (ms : List (String × Value)) :
    Reader (List (String × Value)) := fun s => do
  let r ← colon s
  let (v, r) ← value r
  return (insertMember key v ms, r)

/-- Read a value. What it contains is read by `inner`, without which it may not be a container. -/
def valueWith (inner : Option (Reader Value)) : Reader Value := fun s =>
  match skipSpace s, inner with
  | '[' :: r, some value => do
    let (vs, r) ← items .whenRead value r
    return (.array vs, r)
  | '\x7b' :: r, some value => do
    let (ms, r) ← members .whenRead stringRest (addMember value) [] r
    return (.object ms, r)
  | '[' :: r, none => failAt .tooDeep ('[' :: r)
  | '\x7b' :: r, none => failAt .tooDeep ('\x7b' :: r)
  | r, _ => do
    let (a, r) ← scalar r
    return (.scalar a, r)

def Value.read : (depth : Nat) → Reader Value
  | 0 => valueWith none
  | depth + 1 => valueWith (some (Value.read depth))

def maxDepth : Nat := 127

def skipWith (inner : Reader Unit) : Reader Unit := fun s =>
  match skipSpace s with
  | '[' :: r => do
    let (_, r) ← items .whenSkipped inner r
    return ((), r)
  | '\x7b' :: r =>
    members .whenSkipped skipStringRest (fun _ _ s => do inner (← colon s)) () r
  | r => skipScalar r

def skipNested : (depth : Nat) → Reader Unit
  | 0 => skipScalar
  | depth + 1 => skipWith (skipNested depth)

/-- Skip a value. It is less nested than its text is long. -/
def skipValue : Reader Unit := fun s => skipNested (s.length + 1) s

def readText (read : Reader α) (text : String) : Except Error α :=
  let outcome := do
    let (a, r) ← read text.toList
    match skipSpace r with
    | [] => .ok a
    | r => failAt .trailingText r
  outcome.mapError (Failure.locate text.toList)

def Value.parse (text : String) : Except Error Value := readText (Value.read maxDepth) text

end DocumentRest.Json
