import DocumentRest.Json.Decimal
import DocumentRest.Json.Value

namespace DocumentRest.Json

def escapeLetter? (c : Char) : Option Char :=
  if c = '"' then some '"'
  else if c = '\\' then some '\\'
  else if c = '\x08' then some 'b'
  else if c = '\t' then some 't'
  else if c = '\n' then some 'n'
  else if c = '\x0c' then some 'f'
  else if c = '\r' then some 'r'
  else none

def escapeChar (c : Char) : List Char :=
  match escapeLetter? c with
  | some l => ['\\', l]
  | none =>
    if c.toNat < 0x20 then ['\\', 'u', '0', '0', (c.toNat / 16).digitChar, (c.toNat % 16).digitChar]
    else [c]

def writeString (s : String) : List Char := '"' :: s.toList.flatMap escapeChar ++ ['"']

def Number.text : Number → List Char
  | integer n => if n < 0 then '-' :: Nat.toDigits 10 n.natAbs else Nat.toDigits 10 n.natAbs
  | float x => floatText x

/-- Where a value stands: on the only line, or so many levels deep in a text of several lines. -/
inductive Layout
  | compact
  | indented (depth : Nat)

namespace Layout

def inner : Layout → Layout
  | compact => compact
  | indented depth => indented (depth + 1)

def newLine : Layout → List Char
  | compact => []
  | indented depth => '\n' :: List.replicate (2 * depth) ' '

def colon : Layout → List Char
  | compact => [':']
  | indented _ => [':', ' ']

end Layout

def Scalar.text : Scalar → List Char
  | null => "null".toList
  | bool true => "true".toList
  | bool false => "false".toList
  | number n => n.text
  | string s => writeString s

namespace Value

mutual

def write (l : Layout) : Value → List Char
  | scalar a => a.text
  | array [] => ['[', ']']
  | array (v :: vs) =>
    '[' :: l.inner.newLine ++ write l.inner v ++ writeItems l.inner vs ++ l.newLine ++ [']']
  | object [] => ['\x7b', '\x7d']
  | object ((k, v) :: ms) =>
    '\x7b' :: l.inner.newLine ++ writeString k ++ l.colon ++ write l.inner v ++
      writeMembers l.inner ms ++ l.newLine ++ ['\x7d']

def writeItems (l : Layout) : List Value → List Char
  | [] => []
  | v :: vs => ',' :: l.newLine ++ write l v ++ writeItems l vs

def writeMembers (l : Layout) : List (String × Value) → List Char
  | [] => []
  | (k, v) :: ms => ',' :: l.newLine ++ writeString k ++ l.colon ++ write l v ++ writeMembers l ms

end

def compact (v : Value) : String := .ofList (v.write .compact)

def pretty (v : Value) : String := .ofList (v.write (.indented 0))

end Value

end DocumentRest.Json
