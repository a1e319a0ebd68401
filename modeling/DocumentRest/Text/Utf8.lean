namespace DocumentRest.Text

def utf8Bytes (s : List Char) : List UInt8 := s.flatMap String.utf8EncodeChar

/-- The first fault of a byte string that is not UTF-8, found behind `index` good bytes. -/
inductive Utf8Fault
  | invalid (length index : Nat)
  | incomplete (index : Nat)
  deriving DecidableEq, Repr

def Utf8Fault.message : Utf8Fault → String
  | .invalid length index => s!"invalid utf-8 sequence of {length} bytes from index {index}"
  | .incomplete index => s!"incomplete utf-8 byte sequence from index {index}"

def Utf8Fault.shift (n : Nat) : Utf8Fault → Utf8Fault
  | .invalid length index => .invalid length (n + index)
  | .incomplete index => .incomplete (n + index)

/-- What the first byte of a character tells: how many bytes follow it, its own part of the
character's number, and the bounds of the second byte. The bounds keep out overlong forms,
surrogates and numbers above `0x10FFFF`. -/
def leadByte? (b : Nat) : Option (Nat × Nat × Nat × Nat) :=
  if b < 0x80 then some (0, b, 0x80, 0xBF)
  else if b < 0xC2 then none
  else if b < 0xE0 then some (1, b - 0xC0, 0x80, 0xBF)
  else if b = 0xE0 then some (2, 0, 0xA0, 0xBF)
  else if b = 0xED then some (2, 13, 0x80, 0x9F)
  else if b < 0xF0 then some (2, b - 0xE0, 0x80, 0xBF)
  else if b = 0xF0 then some (3, 0, 0x90, 0xBF)
  else if b < 0xF4 then some (3, b - 0xF0, 0x80, 0xBF)
  else if b = 0xF4 then some (3, 4, 0x80, 0x8F)
  else none

/-- The number of a character from the part that its first bytes give and the bytes that continue
it, the first of which lies between `low` and `high`. `taken` counts the bytes before them. -/
def continued (taken : Nat) : (missing number low high : Nat) → List UInt8 →
    Except Utf8Fault (Nat × List UInt8)
  | 0, number, _, _, bytes => .ok (number, bytes)
  | _ + 1, _, _, _, [] => .error (.incomplete 0)
  | n + 1, number, low, high, b :: bytes =>
    if low ≤ b.toNat ∧ b.toNat ≤ high then
      continued (taken + 1) n (number * 64 + b.toNat % 64) 0x80 0xBF bytes
    else .error (.invalid taken 0)

def utf8Char (b : UInt8) (bytes : List UInt8) : Except Utf8Fault (Char × List UInt8) :=
  match leadByte? b.toNat with
  | none => .error (.invalid 1 0)
  | some (missing, number, low, high) =>
    (continued 1 missing number low high bytes).map fun (n, rest) => (.ofNat n, rest)

/-- The text of the bytes from `index` on. It reads at most `fuel` characters, which is all of
them if there are no more than `fuel` bytes. -/
def utf8Chars : (fuel index : Nat) → List UInt8 → Except Utf8Fault (List Char)
  | 0, _, _ | _, _, [] => .ok []
  | fuel + 1, index, b :: bytes =>
    match utf8Char b bytes with
    | .error fault => .error (fault.shift index)
    | .ok (c, rest) => (utf8Chars fuel (index + c.utf8Size) rest).map (c :: ·)

def ofUtf8 (bytes : List UInt8) : Except Utf8Fault String :=
  return .ofList (← utf8Chars bytes.length 0 bytes)

end DocumentRest.Text
