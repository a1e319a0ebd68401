import DocumentRest.Text.Unprintable

namespace DocumentRest.Text

/-- How one character stands in a quoted text, where `hidden` tells which characters are given by
their number. -/
def quotedChar (hidden : Char → Bool) (c : Char) : List Char :=
  if c = '"' then ['\\', '"']
  else if c = '\\' then ['\\', '\\']
  else if c = '\n' then ['\\', 'n']
  else if c = '\r' then ['\\', 'r']
  else if c = '\t' then ['\\', 't']
  else if c = '\x00' then ['\\', '0']
  else if hidden c then ['\\', 'u', '\x7b'] ++ Nat.toDigits 16 c.toNat ++ ['\x7d']
  else [c]

def quotedChars (hidden : Char → Bool) (s : List Char) : List Char :=
  '"' :: s.flatMap (quotedChar hidden) ++ ['"']

def quoted (s : String) : String := .ofList (quotedChars isUnprintable s.toList)

end DocumentRest.Text
