namespace DocumentRest.Json

structure Decimal where
  digits : Nat
  exponent : Int
  deriving DecidableEq, Repr

/-- The positive number `value * 2 ^ scale` and, on the same scale, the bounds between which a
decimal reads back as it. The bounds themselves do so if `closed`. -/
structure Interval where
  low : Nat
  value : Nat
  high : Nat
  scale : Int
  closed : Bool

def fractionBound : Nat := 0x10000000000000

def signBit : Nat := 0x8000000000000000

/-- The interval of the finite float with the bits `b`, whose sign does not matter. The step to
the next smaller float is half as long where the exponent changes. -/
def Interval.ofBits (b : Nat) : Interval :=
  let field := b / fractionBound % 2048
  let fraction := b % fractionBound
  let m := if field = 0 then fraction else fraction + fractionBound
  let below := if fraction = 0 ∧ 1 < field then 1 else 2
  ⟨4 * m - below, 4 * m, 4 * m + 2, (max field 1 : Nat) - 1077, m % 2 = 0⟩

/-- The multiple of `10 ^ k` in an interval that is nearest to its value, the even one of two that
are equally near. -/
def Interval.multiple? (i : Interval) (k : Int) : Option Nat :=
  let unit := Nat.pow 2 (-i.scale).toNat * Nat.pow 10 k.toNat
  let factor := Nat.pow 2 i.scale.toNat * Nat.pow 10 (-k).toNat
  let within (c : Nat) : Bool :=
    let x := c * unit
    if i.closed then i.low * factor ≤ x && x ≤ i.high * factor
    else i.low * factor < x && x < i.high * factor
  let v := i.value * factor
  let c := v / unit
  let below := v - c * unit
  let above := (c + 1) * unit - v
  match within c, within (c + 1) with
  | true, true => some (if below < above ∨ below = above ∧ c % 2 = 0 then c else c + 1)
  | true, false => some c
  | false, true => some (c + 1)
  | false, false => none

def Interval.search (i : Interval) : (fuel : Nat) → (k : Int) → Decimal
  | 0, k => ⟨i.value, k⟩
  | fuel + 1, k =>
    match i.multiple? k with
    | some c => ⟨c, k⟩
    | none => i.search fuel (k - 1)

/-- The shortest decimal of an interval. The search starts at a power of ten above the interval,
and ends because seventeen digits always suffice. -/
def Interval.shortest (i : Interval) : Decimal :=
  i.search 25 (((i.value.log2 : Int) + i.scale + 2) * 30103 / 100000 + 1)

def isPositional (e : Int) : Bool := -5 ≤ e && e ≤ 15

/-- A decimal as JSON has it: a point with a digit on either side, or one digit before the point
and a power of ten that always has a sign. -/
def Decimal.text (d : Decimal) : List Char :=
  let ds := Nat.toDigits 10 d.digits
  let e := d.exponent + ds.length - 1
  if isPositional e then
    if 0 ≤ d.exponent then ds ++ List.replicate d.exponent.toNat '0' ++ ['.', '0']
    else if 0 ≤ e then ds.take (e.toNat + 1) ++ '.' :: ds.drop (e.toNat + 1)
    else '0' :: '.' :: List.replicate (-e - 1).toNat '0' ++ ds
  else
    let mantissa :=
      match ds with
      | a :: b :: r => a :: '.' :: b :: r
      | _ => ds
    mantissa ++ 'e' :: (if e < 0 then '-' else '+') :: Nat.toDigits 10 e.natAbs

def floatText (x : Float) : List Char :=
  let b := x.toBits.toNat
  let magnitude :=
    if b % signBit = 0 then ['0', '.', '0'] else (Interval.ofBits b).shortest.text
  if signBit ≤ b then '-' :: magnitude else magnitude

end DocumentRest.Json
