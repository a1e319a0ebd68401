import DocumentRest.Text.Composition
import DocumentRest.Url.Domain.Direction
import DocumentRest.Url.Domain.Joining
import DocumentRest.Url.Punycode

namespace DocumentRest.Url.Domain

/-- A label, as it is meant and as it is written in ASCII. -/
structure Label where
  meaning : List Char
  text : List Char
  deriving DecidableEq, Repr

def isForbidden (c : Char) : Bool :=
  c.toNat ≤ 0x20 || c.toNat = 0x7F ||
    ['%', '#', '/', ':', '<', '>', '?', '@', '[', '\\', ']', '^', '|'].contains c

def settled? (s : List Char) : Option (List Char) :=
  (s.mapM mapped?).map (Text.composed ·.flatten)

def maxLength : Nat := 1000

def maxEncodedLength : Nat := 2000

/-- The label that Punycode stands for. It cannot be ASCII, nor stand for anything else. -/
def decoded? (s : List Char) : Option (List Char) := do
  if !s.all Punycode.isPlain || s.getLast? = some '-' || maxEncodedLength < s.length then none
  let label ← Punycode.decode? s
  if label.all Punycode.isPlain || settled? label ≠ some label then none else label

def isWellFormed (s : List Char) : Bool :=
  s.all Punycode.isPlain || !s.head?.any Text.isMark && joinersFit [] s && s.length ≤ maxLength

def meaning? : List Char → Option (List Char)
  | 'x' :: 'n' :: '-' :: '-' :: code => decoded? code
  | s => some s

def label? (s : List Char) : Option Label := do
  let meaning ← meaning? s
  if !isWellFormed meaning then none
  return ⟨meaning, if s.all Punycode.isPlain then s else ['x', 'n', '-', '-'] ++ Punycode.encode s⟩

def areDirected (labels : List Label) : Bool :=
  let directions := labels.map (·.meaning.map direction)
  !directions.any (·.any Direction.turns) || directions.all isDirected

def labels? (s : List Char) : Option (List Label) := do
  let s ← settled? s
  if s.any isForbidden then none
  let labels ← (s.splitOn '.').mapM label?
  if areDirected labels then labels else none

end DocumentRest.Url.Domain
