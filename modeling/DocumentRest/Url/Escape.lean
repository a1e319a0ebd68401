import DocumentRest.Text.Percent

namespace DocumentRest.Url

inductive Part
  | flat
  | path
  | query
  | networkQuery
  | fragment
  | user
  deriving DecidableEq, Repr

/-- The visible characters that a part holds only as escapes, and the space. Those that would end
the part are left out. -/
def Part.escaped : Part → List Char
  | .flat => []
  | .path => [' ', '"', '<', '>', '\x60', '\x7b', '\x7d']
  | .query => [' ', '"', '<', '>']
  | .networkQuery => [' ', '"', '<', '>', '\x27']
  | .fragment => [' ', '"', '<', '>', '\x60']
  | .user =>
    [' ', '"', '<', '>', '\x60', '\x7b', '\x7d', ':', ';', '=', '@', '[', '\\', ']', '^', '|']

def Part.escapeChar (p : Part) (c : Char) : List Char :=
  if c.toNat < 0x20 || 0x7E < c.toNat || p.escaped.contains c then
    (String.utf8EncodeChar c).flatMap Text.escapedByte
  else [c]

def Part.escape (p : Part) (s : List Char) : List Char := s.flatMap p.escapeChar

def hexValue? (c : Char) : Option Nat := Text.hexDigit? c.toUpper

/-- The bytes of a text with escapes. A percent sign that begins none stands for itself. -/
def unescape : List Char → List UInt8
  | [] => []
  | '%' :: a :: b :: s =>
    match hexValue? a, hexValue? b with
    | some high, some low => .ofNat (16 * high + low) :: unescape s
    | _, _ => 0x25 :: unescape (a :: b :: s)
  | c :: s => String.utf8EncodeChar c ++ unescape s

end DocumentRest.Url
