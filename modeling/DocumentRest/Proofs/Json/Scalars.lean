import DocumentRest.Proofs.Json.Strings
import Mathlib.Algebra.Group.Nat.Defs

namespace DocumentRest.Json

variable {α : Type}

section Numerals

theorem startsWithDigit_of_endsNumeral {r : List Char} (h : EndsNumeral r) :
    startsWithDigit r = false := by
  cases r with
  | nil => rfl
  | cons c r =>
    have hc := h c rfl
    simp only [continuesNumeral, Bool.or_eq_false_iff] at hc
    exact hc.1.1.1

theorem digitsThen_of_endsNumeral {r : List Char} (h : EndsNumeral r) (negative : Bool) (n : Nat) :
    digitsThen negative n r = .ok (wholeNumber negative n, r) := by
  have hstart := startsWithDigit_of_endsNumeral h
  rw [digitsThen, hstart]
  · rfl
  · exact fun s hs => h.ne_cons rfl s hs
  · exact fun s hs => h.ne_cons rfl s hs
  · exact fun s hs => h.ne_cons rfl s hs

theorem mul_le_ofDigitChars (ds : List Char) (n : Nat) :
    n * 10 ^ ds.length ≤ Nat.ofDigitChars 10 ds n := by
  induction ds generalizing n with
  | nil => simp
  | cons c ds ih =>
    calc n * 10 ^ (ds.length + 1) = 10 * n * 10 ^ ds.length := by
          rw [Nat.pow_succ', ← Nat.mul_assoc, Nat.mul_comm n 10]
      _ ≤ (10 * n + (c.toNat - '0'.toNat)) * 10 ^ ds.length :=
          Nat.mul_le_mul_right _ (Nat.le_add_right ..)
      _ ≤ Nat.ofDigitChars 10 (c :: ds) n := Nat.ofDigitChars_cons ▸ ih _

theorem le_ofDigitChars (ds : List Char) (n : Nat) : n ≤ Nat.ofDigitChars 10 ds n :=
  Nat.le_trans (Nat.le_mul_of_pos_right n (Nat.pow_pos (by decide))) (mul_le_ofDigitChars ds n)

/-- The digits `taken` stay within `limit` behind those of `n`, and not one digit more of the text
`taken ++ left` does. -/
def Fits (limit n : Nat) (taken left : List Char) : Prop :=
  Nat.ofDigitChars 10 taken n ≤ limit ∧
    ∀ c ∈ left.head?, limit < Nat.ofDigitChars 10 (taken ++ [c]) n

theorem exists_fits {limit n : Nat} (hn : n ≤ limit) (t : List Char) :
    ∃ taken left, t = taken ++ left ∧ Fits limit n taken left := by
  induction t generalizing n with
  | nil => exact ⟨[], [], rfl, by rwa [Nat.ofDigitChars_nil], nofun⟩
  | cons c t ih =>
    by_cases hle : Nat.ofDigitChars 10 [c] n ≤ limit
    · obtain ⟨taken, left, rfl, htaken, hleft⟩ := ih hle
      refine ⟨c :: taken, left, rfl, ?_, fun d hd => ?_⟩
      · rwa [← List.singleton_append, Nat.ofDigitChars_append]
      · rw [← List.singleton_append, List.append_assoc, Nat.ofDigitChars_append]
        exact hleft d hd
    · refine ⟨[], c :: t, rfl, by rwa [Nat.ofDigitChars_nil], fun d hd => ?_⟩
      cases hd
      exact Nat.lt_of_not_le hle

theorem Fits.lt {limit n : Nat} {taken left : List Char} {c : Char}
    (h : Fits limit n taken (c :: left)) : limit < Nat.ofDigitChars 10 (taken ++ c :: left) n := by
  have hmore := le_ofDigitChars left (Nat.ofDigitChars 10 (taken ++ [c]) n)
  rw [← Nat.ofDigitChars_append, List.append_assoc, List.singleton_append] at hmore
  exact Nat.lt_of_lt_of_le (h.2 c rfl) hmore

theorem digit?_of_isDigit {c : Char} (h : c.isDigit = true) : digit? c = some (c.toNat - '0'.toNat) :=
  if_pos h

theorem Fits.takeDigits_eq {limit n : Nat} {taken left : List Char} (h : Fits limit n taken left)
    (hdigits : ∀ c ∈ taken ++ left, c.isDigit = true) {s : List Char}
    (hs : startsWithDigit s = false) :
    takeDigits limit n (taken ++ (left ++ s)) =
      (Nat.ofDigitChars 10 taken n, taken.length, left ++ s) := by
  induction taken generalizing n with
  | nil =>
    rw [Nat.ofDigitChars_nil]
    cases left with
    | nil =>
      cases s with
      | nil => rfl
      | cons c s =>
        have hc : digit? c = none := if_neg (by simpa [startsWithDigit] using hs)
        rw [List.nil_append, List.nil_append, takeDigits, hc]
        rfl
    | cons c left =>
      have hlimit := h.2 c rfl
      rw [List.nil_append, Nat.ofDigitChars_cons, Nat.ofDigitChars_nil] at hlimit
      rw [List.nil_append, List.cons_append, takeDigits,
        digit?_of_isDigit (hdigits c List.mem_cons_self)]
      dsimp only
      rw [if_neg (by omega)]
      rfl
  | cons c taken ih =>
    obtain ⟨htaken, hleft⟩ := h
    have hcomm : n * 10 + (c.toNat - '0'.toNat) = 10 * n + (c.toNat - '0'.toNat) := by omega
    rw [Nat.ofDigitChars_cons] at htaken
    have hle := Nat.le_trans (le_ofDigitChars taken _) htaken
    have hrest := ih ⟨htaken, fun d hd => by simpa [Nat.ofDigitChars_cons] using hleft d hd⟩
      fun d hd => hdigits d (List.mem_cons_of_mem c hd)
    rw [List.cons_append, takeDigits, digit?_of_isDigit (hdigits c List.mem_cons_self)]
    simp only [hcomm, if_pos hle, hrest, Nat.ofDigitChars_cons, List.length_cons]

theorem isDigit_of_mem_toDigits {n : Nat} {c : Char} (h : c ∈ Nat.toDigits 10 n) :
    c.isDigit = true :=
  Nat.isDigit_of_mem_toDigits (by decide) (by decide) h

theorem exists_toDigits_cons {n : Nat} (hn : n ≠ 0) :
    ∃ d ds, Nat.toDigits 10 n = d :: ds ∧ d ≠ '0' ∧ d.isDigit = true := by
  induction n using Nat.strongRecOn with
  | ind n ih =>
    by_cases h : n < 10
    · refine ⟨n.digitChar, [], Nat.toDigits_of_lt_base h, ?_, ?_⟩
      · simpa using hn
      · simpa using h
    · obtain ⟨d, ds, hd, hne, hdigit⟩ := ih (n / 10) (by omega) (by omega)
      refine ⟨d, ds ++ [(n % 10).digitChar], ?_, hne, hdigit⟩
      rw [Nat.toDigits_of_base_le (by decide) (by omega), hd, List.cons_append]

theorem unsignedNumeral_toDigits (negative : Bool) {n : Nat} (hn : n ≤ maxSignificand) :
    Reads (unsignedNumeral negative) (Nat.toDigits 10 n) (wholeNumber negative n) := by
  intro r hr
  by_cases h0 : n = 0
  · subst h0
    rw [Nat.toDigits_zero, List.singleton_append, unsignedNumeral,
      startsWithDigit_of_endsNumeral hr]
    exact digitsThen_of_endsNumeral hr negative 0
  · obtain ⟨d, ds, hd, hne, hdigit⟩ := exists_toDigits_cons h0
    have hvalue : Nat.ofDigitChars 10 (d :: ds) 0 = n := by rw [← hd, Nat.ofDigitChars_ten_toDigits]
    have hfits : Fits maxSignificand 0 (d :: ds) [] := ⟨hvalue.symm ▸ hn, nofun⟩
    have htake := hfits.takeDigits_eq (s := r)
      (fun c hc => isDigit_of_mem_toDigits (hd ▸ List.append_nil _ ▸ hc))
      (startsWithDigit_of_endsNumeral hr)
    rw [hvalue, List.nil_append] at htake
    rw [hd, List.cons_append, unsignedNumeral, startsWithDigit, hdigit, if_pos rfl,
      ← List.cons_append, htake]
    · exact digitsThen_of_endsNumeral hr negative n
    · exact fun hs => List.cons_ne_nil _ _ hs
    · exact fun s hs => hne (List.cons.inj hs).1

end Numerals

section Scalars

def IsInteger64 (n : Int) : Prop := -9223372036854775808 ≤ n ∧ n ≤ 18446744073709551615

def Number.Fits : Number → Prop
  | integer n => IsInteger64 n
  | float _ => True

def Scalar.Fits : Scalar → Prop
  | number n => n.Fits
  | _ => True

def Scalar.IsFloat : Scalar → Prop
  | number (.float _) => True
  | _ => False

theorem wholeNumber_natAbs {n : Int} (h : IsInteger64 n) :
    wholeNumber (decide (n < 0)) n.natAbs = .integer n := by
  obtain ⟨hlow, hhigh⟩ := h
  by_cases hneg : n < 0
  · have hnat : -(n.natAbs : Int) = n := by omega
    have hzero : n.natAbs ≠ 0 := by omega
    have hlimit : ¬ maxNegated < n.natAbs := by
      have hmax : maxNegated = 2 ^ 63 := rfl
      omega
    simp only [wholeNumber, hneg, decide_true, Bool.not_true, Bool.false_eq_true, if_false, hzero,
      decide_false, hlimit, Bool.or_self, hnat]
  · have hnat : (n.natAbs : Int) = n := by omega
    simp only [wholeNumber, hneg, decide_false, Bool.not_false, if_true, hnat]

theorem text_integer (n : Int) :
    (Number.integer n).text = (if n < 0 then ['-'] else []) ++ Nat.toDigits 10 n.natAbs := by
  rw [Number.text]
  split <;> rfl

theorem scalar_of_startsWithDigit {s : List Char} (h : startsWithDigit s = true) :
    scalar s = (unsignedNumeral false s).map fun (n, r) => (.number n, r) := by
  cases s with
  | nil => cases h
  | cons c s =>
    have hne {d : Char} (hd : d.isDigit = false) (s' : List Char) : c :: s ≠ d :: s' := by
      rintro ⟨⟩
      exact absurd h (by simp [startsWithDigit, hd])
    rw [scalar, if_pos h]
    · exact fun hs => List.cons_ne_nil _ _ hs
    all_goals exact fun s' hs => hne rfl s' hs

theorem reads_integer {n : Int} (h : IsInteger64 n) :
    Reads scalar (Number.integer n).text (.number (.integer n)) := by
  have hmax : n.natAbs ≤ maxSignificand := by
    have hvalue : maxSignificand = 2 ^ 64 - 1 := rfl
    obtain ⟨hlow, hhigh⟩ := h
    omega
  have hread := unsignedNumeral_toDigits (decide (n < 0)) hmax
  rw [wholeNumber_natAbs h] at hread
  intro r hr
  rw [text_integer]
  by_cases hneg : n < 0
  · rw [decide_eq_true hneg] at hread
    rw [if_pos hneg]
    exact hread.map Scalar.number r hr
  · have hstart : startsWithDigit (Nat.toDigits 10 n.natAbs ++ r) = true := by
      obtain ⟨d, ds, hd⟩ := List.exists_cons_of_ne_nil (Nat.toDigits_ne_nil (n := n.natAbs) (b := 10))
      rw [hd]
      exact isDigit_of_mem_toDigits (hd ▸ List.mem_cons_self)
    rw [decide_eq_false hneg] at hread
    rw [if_neg hneg, List.nil_append, scalar_of_startsWithDigit hstart]
    exact hread.map Scalar.number r hr

theorem reads_scalar {a : Scalar} (hfits : a.Fits) (hfloat : ¬ a.IsFloat) :
    Reads scalar a.text a := by
  cases a with
  | null => exact fun r _ => rfl
  | bool b =>
    cases b with
    | false => exact fun r _ => rfl
    | true => exact fun r _ => rfl
  | string s =>
    intro r _
    have hread := stringRest_escaped s r
    show scalar (writeString s ++ r) = _
    rw [writeString, List.append_assoc, List.cons_append, List.singleton_append, scalar, hread]
    rfl
  | number n =>
    cases n with
    | integer n => exact reads_integer hfits
    | float x => exact absurd trivial hfloat

def startsScalar (c : Char) : Bool := !isSpace c && c ≠ '[' && c ≠ ']' && c ≠ '\x7b'

theorem startsScalar_iff {c : Char} :
    startsScalar c = true ↔ isSpace c = false ∧ c ≠ '[' ∧ c ≠ ']' ∧ c ≠ '\x7b' := by
  simp only [startsScalar, Bool.and_eq_true, Bool.not_eq_true', decide_eq_true_eq, and_assoc]

theorem startsScalar_of_isDigit {c : Char} (h : c.isDigit = true) : startsScalar c = true := by
  have hne {d : Char} (hd : d.isDigit = false) : c ≠ d := by
    rintro rfl
    rw [h] at hd
    cases hd
  simp [startsScalar, isSpace, hne]

theorem exists_text_cons {a : Scalar} (hfloat : ¬ a.IsFloat) :
    ∃ c s, a.text = c :: s ∧ startsScalar c = true := by
  cases a with
  | null => exact ⟨'n', _, rfl, by decide⟩
  | bool b =>
    cases b with
    | false => exact ⟨'f', _, rfl, by decide⟩
    | true => exact ⟨'t', _, rfl, by decide⟩
  | string s => exact ⟨'"', _, rfl, by decide⟩
  | number n =>
    cases n with
    | float x => exact absurd trivial hfloat
    | integer n =>
      have htext : (Scalar.number (.integer n)).text = _ := text_integer n
      rw [htext]
      by_cases hneg : n < 0
      · exact ⟨'-', _, by rw [if_pos hneg]; rfl, by decide⟩
      · obtain ⟨d, ds, hd⟩ :=
          List.exists_cons_of_ne_nil (Nat.toDigits_ne_nil (n := n.natAbs) (b := 10))
        have hdigit : d.isDigit = true := isDigit_of_mem_toDigits (hd ▸ List.mem_cons_self)
        exact ⟨d, ds, by rw [if_neg hneg, hd]; rfl, startsScalar_of_isDigit hdigit⟩

end Scalars

section Given

theorem fits_signed (negative : Bool) (x : Float) : (signed negative x).Fits := trivial

theorem takeDigits_le (limit n : Nat) (s : List Char) (hn : n ≤ limit) :
    (takeDigits limit n s).1 ≤ limit := by
  induction s generalizing n with
  | nil => exact hn
  | cons c s ih =>
    rw [takeDigits]
    cases digit? c with
    | none => exact hn
    | some d =>
      dsimp only
      split
      · rename_i h
        exact ih _ h
      · exact hn

theorem fits_wholeNumber (negative : Bool) {n : Nat} (hn : n ≤ maxSignificand) :
    (wholeNumber negative n).Fits := by
  have hmax : maxSignificand = 2 ^ 64 - 1 := rfl
  have hneg : maxNegated = 2 ^ 63 := rfl
  unfold wholeNumber
  split
  · constructor <;> omega
  · split
    · exact trivial
    · rename_i h
      simp only [Bool.or_eq_true, decide_eq_true_eq, not_or] at h
      constructor <;> omega

theorem gives_scaledNumber (negative : Bool) (significand : Nat) (exponent : Int) :
    Gives (scaledNumber negative significand exponent) Number.Fits := by
  intro s a r h
  unfold scaledNumber at h
  split at h
  · cases h
    exact fits_signed _ _
  · cases h

theorem gives_exponentPart (negative : Bool) (significand : Nat) (exponent : Int) :
    Gives (exponentPart negative significand exponent) Number.Fits := by
  intro s a r h
  unfold exponentPart at h
  dsimp only at h
  split_ifs at h
  · cases h
  · cases h
  · cases h
    exact fits_signed _ _
  · cases h
  · exact gives_scaledNumber _ _ _ _ _ _ h
  · exact gives_scaledNumber _ _ _ _ _ _ h

theorem gives_exponentOrEnd (negative : Bool) (significand : Nat) (exponent : Int) :
    Gives (exponentOrEnd negative significand exponent) Number.Fits := by
  intro s a r h
  unfold exponentOrEnd at h
  split at h
  · exact gives_exponentPart _ _ _ _ _ _ h
  · exact gives_exponentPart _ _ _ _ _ _ h
  · exact gives_scaledNumber _ _ _ _ _ _ h

theorem gives_fractionPart (negative : Bool) (significand : Nat) (exponent : Int) :
    Gives (fractionPart negative significand exponent) Number.Fits := by
  intro s a r h
  unfold fractionPart at h
  dsimp only at h
  split_ifs at h
  · cases h
  · cases h
  · exact gives_exponentOrEnd _ _ _ _ _ _ h

theorem gives_digitsThen (negative : Bool) {n : Nat} (hn : n ≤ maxSignificand) :
    Gives (digitsThen negative n) Number.Fits := by
  intro s a r h
  unfold digitsThen at h
  split at h
  · exact gives_fractionPart _ _ _ _ _ _ h
  · exact gives_exponentPart _ _ _ _ _ _ h
  · exact gives_exponentPart _ _ _ _ _ _ h
  · split at h
    · dsimp only at h
      split at h
      · exact gives_fractionPart _ _ _ _ _ _ h
      · exact gives_exponentOrEnd _ _ _ _ _ _ h
    · cases h
      exact fits_wholeNumber negative hn

theorem gives_unsignedNumeral (negative : Bool) : Gives (unsignedNumeral negative) Number.Fits := by
  intro s a r h
  unfold unsignedNumeral at h
  split at h
  · cases h
  · split at h
    · cases h
    · exact gives_digitsThen negative (Nat.zero_le _) _ _ _ h
  · split at h
    · exact gives_digitsThen negative (takeDigits_le _ 0 s (Nat.zero_le _)) _ _ _ h
    · cases h

theorem eq_of_word {a b : α} {letters s r : List Char} (h : word a letters s = .ok (b, r)) :
    b = a := by
  induction letters generalizing s with
  | nil =>
    cases h
    rfl
  | cons l letters ih =>
    cases s with
    | nil => cases h
    | cons c s =>
      rw [word] at h
      split at h
      · exact ih h
      · cases h

theorem gives_scalar : Gives scalar Scalar.Fits := by
  have hnumber (negative : Bool) := (gives_unsignedNumeral negative).map (Q := Scalar.Fits)
    (f := Scalar.number) fun n hn => hn
  have htext : Gives stringRest fun _ => True := fun _ _ _ _ => trivial
  have hstring := htext.map (Q := Scalar.Fits) (f := Scalar.string) fun _ _ => trivial
  intro s a r h
  unfold scalar at h
  split at h
  · cases h
  · rw [eq_of_word h]
    exact trivial
  · rw [eq_of_word h]
    exact trivial
  · rw [eq_of_word h]
    exact trivial
  · exact hstring _ _ _ h
  · exact hnumber true _ _ _ h
  · split at h
    · exact hnumber false _ _ _ h
    · cases h

end Given

end DocumentRest.Json
