import DocumentRest.Proofs.Json.Grammar
import DocumentRest.Proofs.Json.Rounding
import DocumentRest.Proofs.Json.Scalars

namespace DocumentRest.Json

theorem digitChar_of_isDigit {c : Char} (h : c.isDigit = true) :
    c.toNat - '0'.toNat < 10 ∧ (c.toNat - '0'.toNat).digitChar = c := by
  have hlt : c.toNat < 128 := by
    simp only [Char.isDigit, Bool.and_eq_true, decide_eq_true_eq] at h
    exact Nat.lt_of_le_of_lt h.2 (by decide)
  have hall : ∀ n < 128, (Char.ofNat n).isDigit = true → n - '0'.toNat < 10 ∧
      (n - '0'.toNat).digitChar = Char.ofNat n := by decide
  have hc := hall c.toNat hlt
  rw [Char.ofNat_toNat] at hc
  exact hc h

section Magnitude

inductive ExponentSign : List Char → Bool → Prop
  | none : ExponentSign [] false
  | plus : ExponentSign ['+'] false
  | minus : ExponentSign ['-'] true

def signedValue (down : Bool) (t : List Char) : Int :=
  if down then -Nat.ofDigitChars 10 t 0 else Nat.ofDigitChars 10 t 0

inductive ExponentValue : List Char → Int → Prop
  | none : ExponentValue [] 0
  | digits {mark : Char} {sign t : List Char} {down : Bool} (hmark : mark = 'e' ∨ mark = 'E')
      (hsign : ExponentSign sign down) (h : IsDigits t) :
      ExponentValue (mark :: (sign ++ t)) (signedValue down t)

/-- The numeral is `m * 10 ^ (e + n)`, with the exponent `n`. Its first digits that fit in 64 bits
make up `m`; each digit left before the point counts as a factor of ten, and one left behind it for
nothing. -/
inductive Magnitude : List Char → (m : Nat) → (e n : Int) → Prop
  | mk {taken left fraction taken' left' exponent : List Char} {n : Int}
      (hwhole : WholeText (taken ++ left)) (hfits : Fits maxSignificand 0 taken left)
      (hfraction : FractionText fraction) (htail : fraction.tail = taken' ++ left')
      (hfits' : Fits maxSignificand (Nat.ofDigitChars 10 taken 0) taken' left')
      (hexponent : ExponentValue exponent n) :
      Magnitude (taken ++ left ++ (fraction ++ exponent)) (Nat.ofDigitChars 10 (taken ++ taken') 0)
        (left.length - taken'.length) n

/-- What is out of range: an exponent above 31 bits, unless of zero, and any number that is too large
for a float. An exponent that is as far below gives zero. -/
def Overflows (m : Nat) (e n : Int) : Prop :=
  if n.natAbs ≤ maxExponent then IsTooLarge m (e + n) else m ≠ 0 ∧ 0 < n

/-- A numeral without its sign that is beyond the floats. -/
def OutOfRange (t : List Char) : Prop := ∃ m e n, Magnitude t m e n ∧ Overflows m e n

theorem natAbs_signedValue (down : Bool) (t : List Char) :
    (signedValue down t).natAbs = Nat.ofDigitChars 10 t 0 := by
  rw [signedValue]
  split <;> omega

theorem overflows_of_le {down : Bool} {t : List Char} (h : Nat.ofDigitChars 10 t 0 ≤ maxExponent)
    (m : Nat) (e : Int) : Overflows m e (signedValue down t) ↔
      IsTooLarge m (if down then e - Nat.ofDigitChars 10 t 0 else e + Nat.ofDigitChars 10 t 0) := by
  have hsum : e + signedValue down t =
      if down then e - Nat.ofDigitChars 10 t 0 else e + Nat.ofDigitChars 10 t 0 := by
    rw [signedValue]
    split <;> omega
  rw [Overflows, natAbs_signedValue, if_pos h, hsum]

theorem overflows_of_lt {down : Bool} {t : List Char} (h : maxExponent < Nat.ofDigitChars 10 t 0)
    (m : Nat) (e : Int) : Overflows m e (signedValue down t) ↔ m ≠ 0 ∧ down = false := by
  have hpos : 0 < signedValue down t ↔ down = false := by
    cases down with
    | false =>
      rw [signedValue, if_neg Bool.false_ne_true]
      exact iff_of_true (by omega) rfl
    | true =>
      rw [signedValue, if_pos rfl]
      exact iff_of_false (by omega) Bool.noConfusion
  rw [Overflows, natAbs_signedValue, if_neg (Nat.not_le.mpr h), hpos]

theorem exists_exponentSign {sign : List Char} (h : sign = [] ∨ sign = ['+'] ∨ sign = ['-']) :
    ∃ down, ExponentSign sign down := by
  rcases h with rfl | rfl | rfl
  · exact ⟨_, .none⟩
  · exact ⟨_, .plus⟩
  · exact ⟨_, .minus⟩

theorem ExponentText.exists_value {t : List Char} (h : ExponentText t) : ∃ n, ExponentValue t n := by
  cases h with
  | none => exact ⟨0, .none⟩
  | digits hmark hsign h =>
    obtain ⟨down, hdown⟩ := exists_exponentSign hsign
    exact ⟨_, .digits hmark hdown h⟩

theorem ExponentValue.text {t : List Char} {n : Int} (h : ExponentValue t n) : ExponentText t := by
  cases h with
  | none => exact .none
  | digits hmark hsign h =>
    refine .digits hmark ?_ h
    cases hsign with
    | none => exact .inl rfl
    | plus => exact .inr (.inl rfl)
    | minus => exact .inr (.inr rfl)

theorem UnsignedText.exists_magnitude {t : List Char} (h : UnsignedText t) :
    ∃ m e n, Magnitude t m e n := by
  obtain ⟨hwhole, hfraction, hexponent⟩ := h
  rename_i whole fraction exponent
  obtain ⟨taken, left, rfl, hfits⟩ := exists_fits (Nat.zero_le maxSignificand) whole
  obtain ⟨taken', left', htail, hfits'⟩ := exists_fits hfits.1 fraction.tail
  obtain ⟨n, hn⟩ := hexponent.exists_value
  exact ⟨_, _, n, .mk hwhole hfits hfraction htail hfits' hn⟩

theorem ofDigitChars_lt {t : List Char} (ht : ∀ c ∈ t, c.isDigit = true) (n : Nat) :
    Nat.ofDigitChars 10 t n < (n + 1) * 10 ^ t.length := by
  induction t generalizing n with
  | nil =>
    rw [List.length_nil, Nat.pow_zero, Nat.mul_one, Nat.ofDigitChars_nil]
    exact Nat.lt_succ_self n
  | cons c t ih =>
    have hdigit := (digitChar_of_isDigit (ht c List.mem_cons_self)).1
    have hrest := ih (fun d hd => ht d (List.mem_cons_of_mem c hd)) (10 * n + (c.toNat - '0'.toNat))
    rw [Nat.ofDigitChars_cons]
    calc _ < (10 * n + (c.toNat - '0'.toNat) + 1) * 10 ^ t.length := hrest
      _ ≤ ((n + 1) * 10) * 10 ^ t.length := Nat.mul_le_mul_right _ (by omega)
      _ = (n + 1) * 10 ^ (t.length + 1) := by ring

section Range

variable {taken left taken' left' : List Char}

/-- What the digits that fit leave out is at most as much again. -/
theorem Fits.succ_mul_le (hdigits : ∀ c ∈ left, c.isDigit = true)
    (h : Fits maxSignificand 0 taken left) :
    (Nat.ofDigitChars 10 taken 0 + 1) * 10 ^ left.length ≤
      2 * (Nat.ofDigitChars 10 (taken ++ left) 0 + 1) := by
  have hwhole := mul_le_ofDigitChars left (Nat.ofDigitChars 10 taken 0)
  rw [← Nat.ofDigitChars_append] at hwhole
  cases left with
  | nil =>
    rw [List.append_nil, List.length_nil, Nat.pow_zero, Nat.mul_one]
    omega
  | cons c left =>
    have hlimit := h.2 c rfl
    have hdigit := (digitChar_of_isDigit (hdigits c List.mem_cons_self)).1
    have hmax : maxSignificand = 2 ^ 64 - 1 := rfl
    rw [Nat.ofDigitChars_append, Nat.ofDigitChars_cons, Nat.ofDigitChars_nil] at hlimit
    generalize Nat.ofDigitChars 10 taken 0 = m at *
    calc (m + 1) * 10 ^ (c :: left).length ≤ 2 * m * 10 ^ (c :: left).length :=
          Nat.mul_le_mul_right _ (by omega)
      _ = 2 * (m * 10 ^ (c :: left).length) := Nat.mul_assoc ..
      _ ≤ _ := by omega

/-- A numeral is in range if its whole part, times a power of ten that is no fraction, is at most
`10 ^ 307`. -/
theorem not_overflows_of_le (hleft : ∀ c ∈ left, c.isDigit = true)
    (htaken' : ∀ c ∈ taken', c.isDigit = true) (hfits : Fits maxSignificand 0 taken left)
    (hfits' : Fits maxSignificand (Nat.ofDigitChars 10 taken 0) taken' left') {n : Int}
    (h : (Nat.ofDigitChars 10 (taken ++ left) 0 + 1) * 10 ^ n.toNat ≤ 10 ^ 307) :
    ¬ Overflows (Nat.ofDigitChars 10 (taken ++ taken') 0) (left.length - taken'.length) n := by
  have hn : n.toNat ≤ 307 := by
    have hpower : 10 ^ n.toNat ≤ 10 ^ 307 := (Nat.le_mul_of_pos_left _ (Nat.succ_pos _)).trans h
    exact ten_pow_le_iff.mp hpower
  have hmax : maxExponent = 2 ^ 31 - 1 := rfl
  rw [Overflows]
  split
  · rw [Nat.ofDigitChars_append]
    by_cases hexponent : (left.length - taken'.length : Int) + n ≤ 0
    · exact not_isTooLarge_of_nonpos hfits'.1 hexponent
    · apply not_isTooLarge_of_le
      obtain ⟨k, hk⟩ := Int.eq_ofNat_of_zero_le (Int.not_le.mp hexponent).le
      rw [hk, Int.toNat_natCast]
      have hlt := ofDigitChars_lt htaken' (Nat.ofDigitChars 10 taken 0)
      have hsucc := hfits.succ_mul_le hleft
      generalize Nat.ofDigitChars 10 taken 0 = m at *
      calc Nat.ofDigitChars 10 taken' m * 10 ^ k ≤ (m + 1) * 10 ^ taken'.length * 10 ^ k :=
            Nat.mul_le_mul_right _ hlt.le
        _ = (m + 1) * 10 ^ (taken'.length + k) := by ring
        _ ≤ (m + 1) * 10 ^ (left.length + n.toNat) :=
            Nat.mul_le_mul_left _ (ten_pow_le_iff.mpr (by omega))
        _ = (m + 1) * 10 ^ left.length * 10 ^ n.toNat := by ring
        _ ≤ 2 * (Nat.ofDigitChars 10 (taken ++ left) 0 + 1) * 10 ^ n.toNat :=
            Nat.mul_le_mul_right _ hsucc
        _ = 2 * ((Nat.ofDigitChars 10 (taken ++ left) 0 + 1) * 10 ^ n.toNat) := Nat.mul_assoc ..
        _ ≤ 10 ^ 308 := by omega
  · omega

end Range

end Magnitude

end DocumentRest.Json
