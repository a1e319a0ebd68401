import DocumentRest.Url.Escape

namespace DocumentRest.Url.Punycode

def digit (n : Nat) : Char := .ofNat (if n < 26 then 0x61 + n else 0x16 + n)

def digitValue? (c : Char) : Option Nat :=
  if c.isLower then some (c.toNat - 0x61) else if c.isDigit then some (c.toNat - 0x16) else none

/-- The digit at `position` is the last one of its number if it is smaller than this. -/
def threshold (bias position : Nat) : Nat := min 26 (max 1 (position - bias))

theorem threshold_pos (bias position : Nat) : 0 < threshold bias position := by
  unfold threshold
  omega

/-- How a bias follows from a delta, which is divided before. -/
def biasFrom (position delta : Nat) : Nat :=
  if 455 < delta then biasFrom (position + 36) (delta / 35)
  else position + 36 * delta / (delta + 38)
termination_by delta
decreasing_by omega

def adapt (first : Bool) (delta count : Nat) : Nat :=
  let delta := if first then delta / 700 else delta / 2
  biasFrom 0 (delta + delta / count)

def writeNumber (bias position value : Nat) : List Char :=
  let t := threshold bias position
  if value < t then [digit value]
  else
    digit (t + (value - t) % (36 - t)) ::
      writeNumber bias (position + 36) ((value - t) / (36 - t))
termination_by value
decreasing_by
  have hpos := threshold_pos bias position
  have hle := Nat.div_le_self (value - threshold bias position) (36 - threshold bias position)
  omega

def maxWeight : Nat := 0xFFFFFFFF

def readNumber (bias : Nat) : (position weight : Nat) → List Char → Option (Nat × List Char)
  | _, _, [] => none
  | position, weight, c :: s =>
    let t := threshold bias position
    match digitValue? c with
    | none => none
    | some n =>
      if n < t then some (n * weight, s)
      else if maxWeight < weight * (36 - t) then none
      else
        (readNumber bias (position + 36) (weight * (36 - t)) s).map fun (more, s) =>
          (n * weight + more, s)

theorem length_lt_of_readNumber {bias position weight value : Nat} {s rest : List Char}
    (h : readNumber bias position weight s = some (value, rest)) : rest.length < s.length := by
  induction s generalizing position weight value with
  | nil => simp [readNumber] at h
  | cons c s ih =>
    simp only [readNumber] at h
    split at h
    · contradiction
    · split at h
      · simp only [Option.some.injEq, Prod.mk.injEq] at h
        simp [← h.2]
      · split at h
        · contradiction
        · obtain ⟨⟨more, rest'⟩, hr, he⟩ := Option.map_eq_some_iff.1 h
          simp only [Prod.mk.injEq] at he
          have := ih (he.2 ▸ hr)
          simp only [List.length_cons]
          omega

structure Written where
  text : List Char := []
  delta : Nat := 0
  bias : Nat := 72
  count : Nat
  first : Bool := true

def Written.pass (number : Nat) (w : Written) (c : Char) : Written :=
  if c.toNat < number then { w with delta := w.delta + 1 }
  else if c.toNat = number then
    { text := w.text ++ writeNumber w.bias 36 w.delta
      delta := 0
      bias := adapt w.first w.delta (w.count + 1)
      count := w.count + 1
      first := false }
  else w

/-- Write the characters of a label with the given numbers, which are none below `start`. -/
def writeOthers (label : List Char) (w : Written) :
    (start : Nat) → (numbers : List Nat) → Written
  | _, [] => w
  | start, number :: numbers =>
    let w := { w with delta := w.delta + (number - start) * (w.count + 1) }
    let w := label.foldl (Written.pass number) w
    writeOthers label { w with delta := w.delta + 1 } (number + 1) numbers

def isPlain (c : Char) : Bool := c.toNat < 0x80

def encode (label : List Char) : List Char :=
  let plain := label.filter isPlain
  let numbers := ((label.filter (!isPlain ·)).map Char.toNat).mergeSort.eraseDups
  let others := writeOthers label { count := plain.length } 0x80 numbers
  (if plain.isEmpty then [] else plain ++ ['-']) ++ others.text

/-- Put into a label the characters that are not ASCII. The last one was put before `position`, and
has the number `number`. -/
def putOthers (bias number position : Nat) (first : Bool) (label s : List Char) :
    Option (List Char) :=
  if s.isEmpty then some label
  else
    match h : readNumber bias 36 1 s with
    | none => none
    | some (delta, rest) =>
      let count := label.length + 1
      let number := number + (position + delta) / count
      let position := (position + delta) % count
      if number.isValidChar then
        putOthers (adapt first delta count) number (position + 1) false
          (label.insertIdx position (.ofNat number)) rest
      else none
termination_by s.length
decreasing_by exact length_lt_of_readNumber h

def decode? (s : List Char) : Option (List Char) :=
  let digits := (s.reverse.takeWhile (· ≠ '-')).reverse
  putOthers 72 0x80 0 true (s.take (s.length - digits.length)).dropLast digits

end DocumentRest.Url.Punycode
