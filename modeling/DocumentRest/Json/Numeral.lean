import DocumentRest.Json.Failure

namespace DocumentRest.Json

def digit? (c : Char) : Option Nat := if c.isDigit then some (c.toNat - '0'.toNat) else none

def startsWithDigit : List Char → Bool
  | c :: _ => c.isDigit
  | [] => false

/-- Append the leading digits of a text to the number `n` for as long as it stays within `limit`.
Gives the number, how many digits were appended, and the text behind them. -/
def takeDigits (limit : Nat) (n : Nat) : List Char → Nat × Nat × List Char
  | [] => (n, 0, [])
  | c :: s =>
    match digit? c with
    | some d =>
      if n * 10 + d ≤ limit then
        let (m, count, r) := takeDigits limit (n * 10 + d) s
        (m, count + 1, r)
      else (n, 0, c :: s)
    | none => (n, 0, c :: s)

def dropDigits (s : List Char) : List Char := s.dropWhile Char.isDigit

def maxSignificand : Nat := 0xFFFFFFFFFFFFFFFF

/-- The largest exponent that is told apart from any larger one. -/
def maxExponent : Nat := 0x7FFFFFFF

def powerOfTen (n : Nat) : Float := .ofScientific 1 false n

def divideByPower (x : Float) (n : Nat) : Float :=
  if n ≤ 308 then x / powerOfTen n
  else if x == 0 then x
  else divideByPower (x / powerOfTen 308) (n - 308)
termination_by n

/-- The float `significand * 10 ^ exponent`, unless it is too large for one. -/
def scaled? (significand : Nat) (exponent : Int) : Option Float :=
  let x := Float.ofScientific significand false 0
  if exponent < 0 then some (divideByPower x exponent.natAbs)
  else if exponent ≤ 308 then
    let y := x * powerOfTen exponent.natAbs
    if y.isInf then none else some y
  else if x == 0 then some x
  else none

def signed (negative : Bool) (x : Float) : Number := .float (if negative then -x else x)

def scaledNumber (negative : Bool) (significand : Nat) (exponent : Int) : Reader Number := fun s =>
  match scaled? significand exponent with
  | some x => .ok (signed negative x, s)
  | none => failBefore .outOfRange s

def exponentPart (negative : Bool) (significand : Nat) (exponent : Int) : Reader Number := fun s =>
  let (down, s) :=
    match s with
    | '+' :: r => (false, r)
    | '-' :: r => (true, r)
    | _ => (false, s)
  if s.isEmpty then failBefore (.unfinished .value) s
  else if !startsWithDigit s then failAt .badNumber s
  else
    let (n, _, r) := takeDigits maxExponent 0 s
    if startsWithDigit r then
      if significand = 0 || down then .ok (signed negative 0, dropDigits r)
      else failBefore .outOfRange r.tail
    else scaledNumber negative significand (if down then exponent - n else exponent + n) r

def exponentOrEnd (negative : Bool) (significand : Nat) (exponent : Int) : Reader Number := fun s =>
  match s with
  | 'e' :: r | 'E' :: r => exponentPart negative significand exponent r
  | _ => scaledNumber negative significand exponent s

/-- The number of a numeral, from what stands behind its point. Digits that no longer fit are left
out. -/
def fractionPart (negative : Bool) (significand : Nat) (exponent : Int) : Reader Number := fun s =>
  let (m, count, r) := takeDigits maxSignificand significand s
  if s.isEmpty then failBefore (.unfinished .value) s
  else if !startsWithDigit s then failAt .badNumber s
  else exponentOrEnd negative m (exponent - count) (dropDigits r)

def maxNegated : Nat := 0x8000000000000000

/-- The integer of a numeral that is only digits. Negative zero and what lies below the 64-bit
integers are floats. -/
def wholeNumber (negative : Bool) (n : Nat) : Number :=
  if !negative then .integer n
  else if n = 0 || maxNegated < n then signed true (.ofScientific n false 0)
  else .integer (-n)

def digitsThen (negative : Bool) (n : Nat) : Reader Number := fun s =>
  match s with
  | '.' :: r => fractionPart negative n 0 r
  | 'e' :: r | 'E' :: r => exponentPart negative n 0 r
  | _ =>
    if startsWithDigit s then
      -- each digit that does not fit counts as a factor of ten
      let r := dropDigits s
      let exponent := s.length - r.length
      match r with
      | '.' :: r => fractionPart negative n exponent r
      | _ => exponentOrEnd negative n exponent r
    else .ok (wholeNumber negative n, s)

def unsignedNumeral (negative : Bool) : Reader Number := fun s =>
  match s with
  | [] => failBefore (.unfinished .value) s
  | '0' :: r => if startsWithDigit r then failAt .badNumber r else digitsThen negative 0 r
  | _ =>
    if startsWithDigit s then
      let (n, _, r) := takeDigits maxSignificand 0 s
      digitsThen negative n r
    else failAt .badNumber s

end DocumentRest.Json
