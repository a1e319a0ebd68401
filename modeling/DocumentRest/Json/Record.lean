import DocumentRest.Json.Reader

namespace DocumentRest.Json

variable {α σ : Type}

def scalarAs (wanted : String) (pick : Scalar → Except Cause α) : Reader α := fun s =>
  match skipSpace s with
  | '[' :: r => failBefore (.wrongType .sequence wanted) ('[' :: r)
  | '\x7b' :: r => failBefore (.wrongType .map wanted) ('\x7b' :: r)
  | r => do
    let (a, r) ← scalar r
    match pick a with
    | .ok b => return (b, r)
    | .error cause => failBefore cause r

def readString : Reader String :=
  scalarAs "a string" fun
    | .string s => .ok s
    | a => .error (.wrongType (.scalar a) "a string")

def readBool : Reader Bool :=
  scalarAs "a boolean" fun
    | .bool b => .ok b
    | a => .error (.wrongType (.scalar a) "a boolean")

/-- Read an integer from 0 to `2 ^ 64 - 1`. A larger one has been read as a float. -/
def readUInt64 : Reader UInt64 :=
  scalarAs "u64" fun a =>
    match a with
    | .number (.integer n) =>
      if n < 0 then .error (.wrongValue (.scalar a) "u64") else .ok (.ofNat n.toNat)
    | _ => .error (.wrongType (.scalar a) "u64")

def readNull : Reader Unit :=
  scalarAs "unit" fun
    | .null => .ok ()
    | a => .error (.wrongType (.scalar a) "unit")

def readOptional (read : Reader α) : Reader (Option α) := fun s =>
  match skipSpace s with
  | 'n' :: r => word none "ull".toList r
  | r => (read r).map fun (a, r) => (some a, r)

def nameRest (known : List (String × α)) : Reader α := fun s => do
  let (name, r) ← stringRest s
  match known.lookup name with
  | some a => return (a, r)
  | none => failBefore (.unknownName name (known.map (·.1))) r

/-- Read one of the known names, either by itself or as the one key of an object, with the value
`null`. -/
def readName (known : List (String × α)) : Reader α := fun s =>
  match skipSpace s with
  | [] => failBefore (.unfinished .value) []
  | '"' :: r => nameRest known r
  | '\x7b' :: r =>
    match skipSpace r with
    | [] => failBefore (.unfinished .object) []
    | '\x7d' :: r => failAt .noValue ('\x7d' :: r)
    | '"' :: r => do
      let (a, r) ← nameRest known r
      let (_, r) ← readNull (← colon r)
      match skipSpace r with
      | [] => failBefore (.unfinished .object) []
      | '\x7d' :: r => return (a, r)
      | r => failBefore .noValue r
    | r => failAt .noKey r
  | r => failAt .noValue r

structure Field (σ : Type) where
  name : String
  read : Reader (σ → σ)

def field (name : String) (read : Reader α) (set : σ → α → σ) : Field σ :=
  ⟨name, fun s => (read s).map fun (a, r) => ((set · a), r)⟩

/-- How a record of type `σ` is read. It starts out `blank`, and the fields that are `required`
must be there. -/
structure Schema (σ : Type) where
  title : String
  blank : σ
  fields : List (Field σ)
  required : Bool

structure Draft (σ : Type) where
  record : σ
  names : List String

namespace Schema

/-- Where a field that is named a second time is noticed: behind the space that follows its name,
and behind the brace if the object is closed there. -/
def behindName (s : List Char) : List Char :=
  match skipSpace s with
  | '\x7d' :: r => r
  | r => r

def addMember (schema : Schema σ) (key : String) (draft : Draft σ) : Reader (Draft σ) := fun s =>
  match schema.fields.find? (·.name = key) with
  | none => do
    let (_, r) ← skipValue (← colon s)
    return (draft, r)
  | some field =>
    if key ∈ draft.names then failBefore (.duplicateField key) (behindName s)
    else do
      let (set, r) ← field.read (← colon s)
      return (⟨set draft.record, key :: draft.names⟩, r)

def missing? (schema : Schema σ) (draft : Draft σ) : Option String :=
  if schema.required then (schema.fields.map (·.name)).find? (· ∉ draft.names) else none

def ofObject (schema : Schema σ) : Reader σ := fun s => do
  let (draft, r) ← members .whenRead stringRest schema.addMember ⟨schema.blank, []⟩ s
  match schema.missing? draft with
  | some name => failBefore (.missingField name) r
  | none => return (draft.record, r)

def arrayEnd (a : σ) : Reader σ := fun s =>
  match skipSpace s with
  | [] => failBefore (.unfinished .list) []
  | ']' :: r => .ok (a, r)
  | ',' :: r =>
    match skipSpace r with
    | ']' :: r => failAt .trailingComma (']' :: r)
    | r => failAt .trailingText r
  | r => failAt .trailingText r

def lengthText (schema : Schema σ) : String :=
  schema.title ++ " with " ++ toString schema.fields.length ++ " elements"

/-- Read on behind `count` items of an array, where `fields` are left to be read. -/
def moreItems (schema : Schema σ) : (count : Nat) → (fields : List (Field σ)) → σ → Reader σ
  | _, [], a, s => arrayEnd a s
  | count, field :: fields, a, s =>
    let item : Reader σ := fun r => do
      let (set, r) ← field.read r
      moreItems schema (count + 1) fields (set a) r
    match skipSpace s with
    | [] => failBefore (.unfinished .list) []
    | ']' :: r =>
      if schema.required then failBefore (.wrongLength count schema.lengthText) r else .ok (a, r)
    | ',' :: r =>
      if count = 0 then item (',' :: r)
      else
        match skipSpace r with
        | [] => failBefore (.unfinished .value) []
        | ']' :: r => failAt .trailingComma (']' :: r)
        | r => item r
    | r => if count = 0 then item r else failAt .noItemEnd r

def ofArray (schema : Schema σ) : Reader σ := schema.moreItems 0 schema.fields schema.blank

def read (schema : Schema σ) : Reader σ := fun s =>
  match skipSpace s with
  | '[' :: r => schema.ofArray r
  | '\x7b' :: r => schema.ofObject r
  | r => scalarAs schema.title (fun a => .error (.wrongType (.scalar a) schema.title)) r

end Schema

end DocumentRest.Json
