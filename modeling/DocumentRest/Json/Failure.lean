import DocumentRest.Json.Writer
import DocumentRest.Text.Quoted
import DocumentRest.Text.Utf8

namespace DocumentRest.Json

inductive Part
  | list
  | object
  | string
  | value

def Part.name : Part → String
  | list => "a list"
  | object => "an object"
  | string => "a string"
  | value => "a value"

inductive Found
  | scalar (a : Scalar)
  | sequence
  | map

def Found.text : Found → String
  | scalar .null => "null"
  | scalar (.bool b) => "boolean `" ++ toString b ++ "`"
  | scalar (.number (.integer n)) => "integer `" ++ .ofList (Number.integer n).text ++ "`"
  | scalar (.number (.float x)) => "floating point `" ++ .ofList (floatText x) ++ "`"
  | scalar (.string s) => "string " ++ Text.quoted s
  | sequence => "sequence"
  | map => "map"

inductive Cause
  | unfinished (part : Part)
  | noValue
  | noKey
  | noColon
  | noItemEnd
  | noMemberEnd
  | badWord
  | badNumber
  | badEscape
  /-- A trailing surrogate without a leading one, or a leading one before an escape that does not
  trail. -/
  | loneSurrogate
  | cutSurrogate
  | controlCharacter
  | outOfRange
  | trailingComma
  | trailingText
  | tooDeep
  | wrongType (found : Found) (wanted : String)
  | wrongValue (found : Found) (wanted : String)
  | wrongLength (length : Nat) (wanted : String)
  | unknownName (name : String) (known : List String)
  | missingField (name : String)
  | duplicateField (name : String)

def backquoted (s : String) : String := "`" ++ s ++ "`"

def Cause.text : Cause → String
  | unfinished part => "EOF while parsing " ++ part.name
  | noValue => "expected value"
  | noKey => "key must be a string"
  | noColon => "expected `:`"
  | noItemEnd => "expected `,` or `]`"
  | noMemberEnd => "expected `,` or `\x7d`"
  | badWord => "expected ident"
  | badNumber => "invalid number"
  | badEscape => "invalid escape"
  | loneSurrogate => "lone leading surrogate in hex escape"
  | cutSurrogate => "unexpected end of hex escape"
  | controlCharacter => "control character (\\u0000-\\u001F) found while parsing a string"
  | outOfRange => "number out of range"
  | trailingComma => "trailing comma"
  | trailingText => "trailing characters"
  | tooDeep => "recursion limit exceeded"
  | wrongType found wanted => "invalid type: " ++ found.text ++ ", expected " ++ wanted
  | wrongValue found wanted => "invalid value: " ++ found.text ++ ", expected " ++ wanted
  | wrongLength length wanted => "invalid length " ++ toString length ++ ", expected " ++ wanted
  | unknownName name known =>
    "unknown variant " ++ backquoted name ++ ", expected one of " ++
      ", ".intercalate (known.map backquoted)
  | missingField name => "missing field " ++ backquoted name
  | duplicateField name => "duplicate field " ++ backquoted name

inductive Kind
  | grammar
  | ending
  | content
  deriving DecidableEq, Repr

def Cause.kind : Cause → Kind
  | unfinished _ => .ending
  | wrongType .. | wrongValue .. | wrongLength .. | unknownName .. | missingField _
  | duplicateField _ => .content
  | _ => .grammar

/-- A cause, the text not read when it arose, and how many bytes of that text it reaches into. -/
structure Failure where
  cause : Cause
  rest : List Char
  reach : Nat

structure Position where
  line : Nat
  column : Nat
  deriving DecidableEq, Repr

/-- The position behind `n` bytes of a text. Columns count bytes. -/
def positionBehind (n : Nat) (text : List Char) : Position :=
  let before := (Text.utf8Bytes text).take n
  ⟨1 + before.count 10, (before.reverse.takeWhile (· ≠ 10)).length⟩

structure Error where
  cause : Cause
  position : Position

def Failure.locate (text : List Char) (f : Failure) : Error :=
  let n := (Text.utf8Bytes text).length - (Text.utf8Bytes f.rest).length + f.reach
  ⟨f.cause, positionBehind n text⟩

def Error.message (e : Error) : String :=
  s!"{e.cause.text} at line {e.position.line} column {e.position.column}"

/-- What reads a value off the start of a text also gives the text behind it. -/
abbrev Reader (α : Type) := List Char → Except Failure (α × List Char)

variable {α : Type}

def failBefore (cause : Cause) (s : List Char) : Except Failure α := .error ⟨cause, s, 0⟩

def failAt (cause : Cause) (s : List Char) : Except Failure α :=
  .error ⟨cause, s, if s.isEmpty then 0 else 1⟩

end DocumentRest.Json
