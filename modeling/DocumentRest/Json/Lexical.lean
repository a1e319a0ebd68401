import DocumentRest.Json.Numeral

namespace DocumentRest.Json

variable {α : Type}

def isSpace (c : Char) : Bool := c = ' ' || c = '\t' || c = '\n' || c = '\r'

def skipSpace (s : List Char) : List Char := s.dropWhile isSpace

def word (a : α) : List Char → Reader α
  | [], s => .ok (a, s)
  | _ :: _, [] => failBefore (.unfinished .value) []
  | l :: ls, c :: s => if c = l then word a ls s else failAt .badWord (c :: s)

def hexValue? (c : Char) : Option Nat :=
  if c.isDigit then some (c.toNat - '0'.toNat)
  else if 'a' ≤ c ∧ c ≤ 'f' then some (c.toNat - 'a'.toNat + 10)
  else if 'A' ≤ c ∧ c ≤ 'F' then some (c.toNat - 'A'.toNat + 10)
  else none

/-- The number that four hexadecimal digits make up. Four bytes are taken before they are looked
at. -/
def fourHex : Reader Nat := fun s =>
  let refused :=
    if (Text.utf8Bytes (s.take 4)).length < 4 then failBefore (.unfinished .string) []
    else .error ⟨.badEscape, s, 4⟩
  match s with
  | a :: b :: c :: d :: r =>
    match hexValue? a, hexValue? b, hexValue? c, hexValue? d with
    | some i, some j, some k, some l => .ok (((i * 16 + j) * 16 + k) * 16 + l, r)
    | _, _, _, _ => refused
  | _ => refused

def isLeadingSurrogate (n : Nat) : Bool := 0xD800 ≤ n && n ≤ 0xDBFF

def isTrailingSurrogate (n : Nat) : Bool := 0xDC00 ≤ n && n ≤ 0xDFFF

def trailingSurrogate : Reader Nat := fun s =>
  match s with
  | '\\' :: 'u' :: r => do
    let (n, r) ← fourHex r
    if isTrailingSurrogate n then return (n, r) else failBefore .loneSurrogate r
  | '\\' :: r => if r.isEmpty then failBefore (.unfinished .string) r else failAt .cutSurrogate r
  | _ => if s.isEmpty then failBefore (.unfinished .string) s else failAt .cutSurrogate s

/-- The character of an escape, from what stands behind its `\u`. A character above `0xFFFF` takes
two escapes, one for each surrogate. -/
def unicodeEscape : Reader Char := fun s => do
  let (n, r) ← fourHex s
  if isTrailingSurrogate n then failBefore .loneSurrogate r
  else if isLeadingSurrogate n then
    let (m, r) ← trailingSurrogate r
    return (.ofNat (0x10000 + (n - 0xD800) * 0x400 + (m - 0xDC00)), r)
  else return (.ofNat n, r)

def unescapeLetter? (l : Char) : Option Char :=
  if l = '"' || l = '\\' || l = '/' then some l
  else if l = 'b' then some '\x08'
  else if l = 'f' then some '\x0c'
  else if l = 'n' then some '\n'
  else if l = 'r' then some '\r'
  else if l = 't' then some '\t'
  else none

def stringChar : Reader Char := fun s =>
  match s with
  | [] => failBefore (.unfinished .string) []
  | '\\' :: [] => failBefore (.unfinished .string) []
  | '\\' :: 'u' :: r => unicodeEscape r
  | '\\' :: l :: r =>
    match unescapeLetter? l with
    | some c => .ok (c, r)
    | none => failAt .badEscape (l :: r)
  | c :: r => if c.toNat < 0x20 then failAt .controlCharacter s else .ok (c, r)

/-- Skip a character of a string. Surrogates need not be paired. -/
def skipStringChar : Reader Unit := fun s =>
  match s with
  | '\\' :: 'u' :: r => (fourHex r).map fun (_, r) => ((), r)
  | '\\' :: _ => (stringChar s).map fun (_, r) => ((), r)
  | c :: r => if c.toNat < 0x20 then failBefore .controlCharacter s else .ok ((), r)
  | [] => failBefore (.unfinished .string) []

def untilQuote (char : Reader α) : (fuel : Nat) → Reader (List α)
  | 0, s => failBefore (.unfinished .string) s
  | _ + 1, '"' :: r => .ok ([], r)
  | fuel + 1, s => do
    let (c, r) ← char s
    let (cs, r) ← untilQuote char fuel r
    return (c :: cs, r)

def stringRest : Reader String := fun s => do
  let (cs, r) ← untilQuote stringChar (s.length + 1) s
  return (.ofList cs, r)

def skipStringRest : Reader Unit := fun s => do
  let (_, r) ← untilQuote skipStringChar (s.length + 1) s
  return ((), r)

def scalar : Reader Scalar := fun s =>
  match s with
  | [] => failBefore (.unfinished .value) []
  | 'n' :: r => word .null "ull".toList r
  | 't' :: r => word (.bool true) "rue".toList r
  | 'f' :: r => word (.bool false) "alse".toList r
  | '"' :: r => (stringRest r).map fun (a, r) => (.string a, r)
  | '-' :: r => (unsignedNumeral true r).map fun (n, r) => (.number n, r)
  | _ =>
    if startsWithDigit s then (unsignedNumeral false s).map fun (n, r) => (.number n, r)
    else failAt .noValue s

def skipExponent (s : List Char) : Except Failure (List Char) :=
  let s :=
    match s with
    | '+' :: r | '-' :: r => r
    | _ => s
  if startsWithDigit s then .ok (dropDigits s) else failAt .badNumber s

def skipExponentOrEnd (s : List Char) : Except Failure (List Char) :=
  match s with
  | 'e' :: r | 'E' :: r => skipExponent r
  | _ => .ok s

def skipNumeral (s : List Char) : Except Failure (List Char) :=
  let behind (s : List Char) : Except Failure (List Char) :=
    match s with
    | '.' :: r =>
      if startsWithDigit r then skipExponentOrEnd (dropDigits r) else failAt .badNumber r
    | _ => skipExponentOrEnd s
  match s with
  | '0' :: r => if startsWithDigit r then failAt .badNumber r else behind r
  | _ => if startsWithDigit s then behind (dropDigits s) else failAt .badNumber s

def skipScalar : Reader Unit := fun s =>
  match s with
  | '"' :: r => skipStringRest r
  | '-' :: r => (skipNumeral r).map fun r => ((), r)
  | _ =>
    if startsWithDigit s then (skipNumeral s).map fun r => ((), r)
    else (scalar s).map fun (_, r) => ((), r)

end DocumentRest.Json
