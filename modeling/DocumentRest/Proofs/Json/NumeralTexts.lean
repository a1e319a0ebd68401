import DocumentRest.Proofs.Json.NumeralRange
import DocumentRest.Proofs.Json.Settling
import Mathlib.Data.List.TakeWhile

namespace DocumentRest.Json

section Digits

theorem IsDigits.startsWithDigit {t : List Char} (h : IsDigits t) (s : List Char) :
    startsWithDigit (t ++ s) = true := by
  obtain ⟨hne, hdigits⟩ := h
  cases t with
  | nil => exact absurd rfl hne
  | cons c t => exact hdigits c List.mem_cons_self

theorem IsDigits.ne_zero_cons {t : List Char} (h : IsDigits t) (hzero : t.head? ≠ some '0')
    (s r : List Char) : t ++ s ≠ '0' :: r := by
  obtain ⟨c, t, rfl⟩ := List.exists_cons_of_ne_nil h.1
  rintro ⟨⟩
  exact hzero rfl

theorem WholeText.isDigit_of_mem {t : List Char} (h : WholeText t) {c : Char} (hc : c ∈ t) :
    c.isDigit = true := by
  rcases h with rfl | ⟨hdigits, _⟩
  · rw [List.mem_singleton.mp hc]
    rfl
  · exact hdigits.2 c hc

theorem FractionText.isDigit_of_mem_tail {t : List Char} (h : FractionText t) {c : Char}
    (hc : c ∈ t.tail) : c.isDigit = true := by
  cases h with
  | none => cases hc
  | digits h => exact h.2 c hc

theorem ne_cons_of_startsWithDigit {s : List Char} (h : startsWithDigit s = true) {c : Char}
    (hc : c.isDigit = false) (r : List Char) : s ≠ c :: r := by
  rintro rfl
  rw [startsWithDigit, hc] at h
  cases h

theorem dropDigits_append {t s : List Char} (ht : ∀ c ∈ t, c.isDigit = true)
    (hs : startsWithDigit s = false) : dropDigits (t ++ s) = s := by
  have hdrop : dropDigits s = s := by
    cases s with
    | nil => rfl
    | cons c s => exact List.dropWhile_cons_of_neg (by simpa [startsWithDigit] using hs)
  rw [dropDigits, List.dropWhile_append_of_pos ht]
  exact hdrop

theorem dropDigits_takeDigits (limit n : Nat) (s : List Char) :
    dropDigits (takeDigits limit n s).2.2 = dropDigits s := by
  induction s generalizing n with
  | nil => rfl
  | cons c s ih =>
    rw [takeDigits]
    cases hc : digit? c with
    | none => rfl
    | some d =>
      dsimp only
      split
      · have hdigit : c.isDigit = true := by
          by_contra hnot
          rw [digit?, if_neg hnot] at hc
          cases hc
        rw [dropDigits, dropDigits, List.dropWhile_cons_of_pos hdigit]
        exact ih _
      · rfl

theorem exists_digits {s : List Char} (h : startsWithDigit s = true) :
    ∃ t, s = t ++ dropDigits s ∧ IsDigits t := by
  refine ⟨s.takeWhile Char.isDigit, List.takeWhile_append_dropWhile.symm, ?_, ?_⟩
  · cases s with
    | nil => cases h
    | cons c s =>
      have hc : c.isDigit = true := h
      rw [List.takeWhile_cons_of_pos hc]
      exact List.cons_ne_nil _ _
  · exact fun c hc => List.mem_takeWhile_imp hc

theorem dropDigits_of_not {s : List Char} (h : ¬ startsWithDigit s = true) : dropDigits s = s :=
  dropDigits_append (t := []) (List.forall_mem_nil _) (Bool.eq_false_iff.mpr h)

/-- Digits behind those of a positive number make up those of a larger one. -/
theorem toDigits_ofDigitChars {t : List Char} (ht : ∀ c ∈ t, c.isDigit = true) {n : Nat}
    (hn : 0 < n) : Nat.toDigits 10 (Nat.ofDigitChars 10 t n) = Nat.toDigits 10 n ++ t := by
  induction t generalizing n with
  | nil => rw [Nat.ofDigitChars_nil, List.append_nil]
  | cons c t ih =>
    obtain ⟨hlt, hchar⟩ := digitChar_of_isDigit (ht c List.mem_cons_self)
    have hmore := ih (n := 10 * n + (c.toNat - '0'.toNat))
      (fun d hd => ht d (List.mem_cons_of_mem c hd)) (by omega)
    rw [Nat.ofDigitChars_cons, hmore, ← Nat.toDigits_append_toDigits (by decide) hn hlt,
      Nat.toDigits_of_lt_base hlt, hchar, List.append_assoc, List.singleton_append]

theorem toDigits_of_wholeText {t : List Char} (h : WholeText t) :
    Nat.toDigits 10 (Nat.ofDigitChars 10 t 0) = t := by
  obtain rfl | ⟨h, hzero⟩ := h
  · rfl
  obtain ⟨c, t, rfl⟩ := List.exists_cons_of_ne_nil h.1
  obtain ⟨hlt, hchar⟩ := digitChar_of_isDigit (h.2 c List.mem_cons_self)
  have hpos : 0 < c.toNat - '0'.toNat := by
    apply Nat.pos_of_ne_zero
    intro h0
    rw [h0] at hchar
    exact hzero (congrArg some hchar.symm)
  have hmore := toDigits_ofDigitChars (fun d hd => h.2 d (List.mem_cons_of_mem c hd)) hpos
  rw [Nat.ofDigitChars_cons, Nat.mul_zero, Nat.zero_add, hmore, Nat.toDigits_of_lt_base hlt, hchar,
    List.singleton_append]

end Digits

section Settling

def Number.IsFloat (n : Number) : Prop := ∃ x, n = float x

variable (negative : Bool) {m : Nat} (hm : m ≤ maxSignificand) (e : Int)

include hm in
theorem settles_scaledNumber :
    SettlesUnless (IsTooLarge m e) (scaledNumber negative m e) [] Number.IsFloat := by
  refine ⟨(scaled? m e).map (signed negative), ?_, fun n hn => ?_, fun r _ => ?_⟩
  · rw [Option.map_eq_none_iff, scaled?_eq_none_iff hm]
  · obtain ⟨x, _, rfl⟩ := Option.map_eq_some_iff.mp hn
    exact ⟨_, rfl⟩
  · show Comes (scaledNumber negative m e r) _ r
    unfold scaledNumber
    cases scaled? m e with
    | none => exact ⟨_, rfl⟩
    | some x => rfl

theorem exponentPart_eq {sign s : List Char} {down : Bool} (hsign : ExponentSign sign down)
    (hs : startsWithDigit s = true) : exponentPart negative m e (sign ++ s) =
      if startsWithDigit (takeDigits maxExponent 0 s).2.2 then
        if m = 0 || down then
          .ok (signed negative 0, dropDigits (takeDigits maxExponent 0 s).2.2)
        else failBefore .outOfRange (takeDigits maxExponent 0 s).2.2.tail
      else scaledNumber negative m
        (if down then e - (takeDigits maxExponent 0 s).1 else e + (takeDigits maxExponent 0 s).1)
        (takeDigits maxExponent 0 s).2.2 := by
  have hempty : s.isEmpty = false := by
    cases s with
    | nil => cases hs
    | cons c s => rfl
  cases hsign with
  | none =>
    rw [List.nil_append, exponentPart]
    · simp only [hempty, hs]
      rfl
    · exact fun r hr => ne_cons_of_startsWithDigit hs (by decide) r hr
    · exact fun r hr => ne_cons_of_startsWithDigit hs (by decide) r hr
  | plus =>
    simp only [exponentPart, List.cons_append, List.nil_append, hempty, hs]
    rfl
  | minus =>
    simp only [exponentPart, List.cons_append, List.nil_append, hempty, hs]
    rfl

include hm in
theorem settles_exponentPart {sign t : List Char} {down : Bool} (hsign : ExponentSign sign down)
    (ht : IsDigits t) : SettlesUnless (Overflows m e (signedValue down t))
      (exponentPart negative m e) (sign ++ t) Number.IsFloat := by
  obtain ⟨taken, left, rfl, hfits⟩ := exists_fits (Nat.zero_le maxExponent) t
  have heq {r : List Char} (hr : EndsNumeral r) :=
    exponentPart_eq negative (m := m) e hsign (ht.startsWithDigit r)
  have htake {r : List Char} (hr : EndsNumeral r) :=
    hfits.takeDigits_eq ht.2 (startsWithDigit_of_endsNumeral hr)
  cases left with
  | nil =>
    simp only [List.append_nil, List.nil_append] at heq htake ⊢
    rw [overflows_of_le hfits.1]
    refine (settles_scaledNumber negative hm _).congr fun r hr => ?_
    have hbehind := startsWithDigit_of_endsNumeral hr
    rw [List.append_assoc, heq hr, htake hr, hbehind]
    rfl
  | cons c left =>
    have hstart (r : List Char) : startsWithDigit (c :: left ++ r) = true :=
      ht.2 c (List.mem_append_right _ List.mem_cons_self)
    have hdrop {r : List Char} (hr : EndsNumeral r) : dropDigits (c :: left ++ r) = r :=
      dropDigits_append (fun d hd => ht.2 d (List.mem_append_right _ hd))
        (startsWithDigit_of_endsNumeral hr)
    refine ⟨if m = 0 || down then some (signed negative 0) else none, ?_, fun x hx => ?_,
      fun r hr => ?_⟩
    · rw [overflows_of_lt hfits.lt]
      cases down <;> simp
    · split at hx
      · cases hx
        exact ⟨_, rfl⟩
      · cases hx
    · rw [List.append_assoc, heq hr, List.append_assoc, htake hr, if_pos (hstart r), hdrop hr]
      split
      · rfl
      · exact ⟨_, rfl⟩

include hm in
theorem settles_exponentOrEnd {t : List Char} {n : Int} (ht : ExponentValue t n) :
    SettlesUnless (Overflows m e n) (exponentOrEnd negative m e) t Number.IsFloat := by
  cases ht with
  | none =>
    rw [Overflows, if_pos (by decide), Int.add_zero]
    refine (settles_scaledNumber negative hm e).congr fun r hr => ?_
    rw [List.nil_append, exponentOrEnd]
    · exact fun s hs => hr.ne_cons (by decide) s hs
    · exact fun s hs => hr.ne_cons (by decide) s hs
  | digits hmark hsign h =>
    refine (settles_exponentPart negative hm e hsign h).congr fun r hr => ?_
    rcases hmark with rfl | rfl <;> rfl

theorem ExponentText.not_startsWithDigit {t : List Char} (ht : ExponentText t) {r : List Char}
    (hr : EndsNumeral r) : startsWithDigit (t ++ r) = false := by
  cases ht with
  | none => exact startsWithDigit_of_endsNumeral hr
  | digits hmark => rcases hmark with rfl | rfl <;> rfl

theorem FractionText.not_startsWithDigit {t s : List Char} (ht : FractionText t)
    (hs : ExponentText s) {r : List Char} (hr : EndsNumeral r) :
    startsWithDigit (t ++ (s ++ r)) = false := by
  cases ht with
  | none => exact hs.not_startsWithDigit hr
  | digits => rfl

theorem ExponentText.ne_point {t : List Char} (ht : ExponentText t) {r : List Char}
    (hr : EndsNumeral r) (s : List Char) : t ++ r ≠ '.' :: s := by
  cases ht with
  | none => exact hr.ne_cons rfl s
  | digits hmark => rcases hmark with rfl | rfl <;> nofun

theorem settles_fractionPart {taken left exponent : List Char} {n : Int}
    (ht : IsDigits (taken ++ left)) (hfits : Fits maxSignificand m taken left)
    (hn : ExponentValue exponent n) :
    SettlesUnless (Overflows (Nat.ofDigitChars 10 taken m) (e - taken.length) n)
      (fractionPart negative m e) (taken ++ left ++ exponent) Number.IsFloat := by
  refine (settles_exponentOrEnd negative hfits.1 (e - taken.length) hn).congr fun r hr => ?_
  have hstart := ht.startsWithDigit (exponent ++ r)
  have hempty : (taken ++ left ++ (exponent ++ r)).isEmpty = false := by
    obtain ⟨c, t, ht⟩ := List.exists_cons_of_ne_nil ht.1
    rw [ht]
    rfl
  have hexponent := hn.text.not_startsWithDigit hr
  have htake := hfits.takeDigits_eq ht.2 hexponent
  have hdrop := dropDigits_append (fun c hc => ht.2 c (List.mem_append_right _ hc)) hexponent
  rw [← List.append_assoc] at htake
  rw [List.append_assoc, fractionPart, htake]
  simp only [hempty, hstart, hdrop]
  rfl

/-- Digits that do not fit are left out, and the number is as many times ten as large. -/
theorem digitsThen_append {left s : List Char} (hleft : IsDigits left)
    (hs : startsWithDigit s = false) :
    (∀ r, s = '.' :: r → digitsThen negative m (left ++ s) = fractionPart negative m left.length r) ∧
      ((∀ r, s ≠ '.' :: r) →
        digitsThen negative m (left ++ s) = exponentOrEnd negative m left.length s) := by
  have hstart := hleft.startsWithDigit s
  have hcount : (left ++ s).length - s.length = left.length := by
    rw [List.length_append]
    omega
  rw [digitsThen, if_pos hstart]
  · simp only [dropDigits_append hleft.2 hs, hcount]
    constructor
    · rintro r rfl
      rfl
    · intro hpoint
      split
      · exact absurd rfl (hpoint _)
      · rfl
  · exact fun r hr => ne_cons_of_startsWithDigit hstart (by decide) r hr
  · exact fun r hr => ne_cons_of_startsWithDigit hstart (by decide) r hr
  · exact fun r hr => ne_cons_of_startsWithDigit hstart (by decide) r hr

variable {left fraction taken' left' exponent : List Char} {n : Int}

include hm in
theorem settles_digitsThen_left (hleft : IsDigits left) (hfraction : FractionText fraction)
    (htail : fraction.tail = taken' ++ left') (hfits' : Fits maxSignificand m taken' left')
    (hn : ExponentValue exponent n) :
    SettlesUnless (Overflows (Nat.ofDigitChars 10 taken' m) (left.length - taken'.length) n)
      (digitsThen negative m) (left ++ (fraction ++ exponent)) Number.IsFloat := by
  cases hfraction with
  | none =>
    obtain ⟨rfl, rfl⟩ := List.append_eq_nil_iff.mp htail.symm
    rw [Nat.ofDigitChars_nil, List.length_nil, Int.natCast_zero, Int.sub_zero]
    refine (settles_exponentOrEnd negative hm left.length hn).congr fun r hr => ?_
    rw [List.nil_append, List.append_assoc]
    exact (digitsThen_append negative hleft (hn.text.not_startsWithDigit hr)).2 (hn.text.ne_point hr)
  | @digits t h =>
    obtain rfl : t = taken' ++ left' := htail
    refine (settles_fractionPart negative left.length h hfits' hn).congr fun r hr => ?_
    rw [List.append_assoc]
    exact (digitsThen_append negative hleft rfl).1 _ rfl

include hm in
theorem settles_digitsThen (hleft : ∀ c ∈ left, c.isDigit = true) (hfraction : FractionText fraction)
    (htail : fraction.tail = taken' ++ left') (hfits' : Fits maxSignificand m taken' left')
    (hn : ExponentValue exponent n) :
    SettlesUnless (Overflows (Nat.ofDigitChars 10 taken' m) (left.length - taken'.length) n)
      (digitsThen negative m) (left ++ (fraction ++ exponent)) fun x =>
        x.IsFloat ∨ x = wholeNumber negative m ∧ left = [] ∧ fraction = [] ∧ exponent = [] := by
  by_cases hne : left = []
  · subst hne
    cases hfraction with
    | @digits t h =>
      obtain rfl : t = taken' ++ left' := htail
      exact ((settles_fractionPart negative 0 h hfits' hn).congr fun r hr => rfl).imp
        fun x hx => .inl hx
    | none =>
      obtain ⟨rfl, rfl⟩ := List.append_eq_nil_iff.mp htail.symm
      rw [Nat.ofDigitChars_nil]
      cases hn with
      | digits hmark hsign h =>
        refine ((settles_exponentPart negative hm 0 hsign h).congr fun r hr => ?_).imp
          fun x hx => .inl hx
        rcases hmark with rfl | rfl <;> rfl
      | none =>
        have hrange : ¬ Overflows m 0 0 := by
          rw [Overflows, if_pos (by decide)]
          exact not_isTooLarge_of_nonpos hm (by decide)
        refine ⟨some (wholeNumber negative m), ?_, fun x hx => ?_, fun r hr => ?_⟩
        · exact iff_of_false (Option.some_ne_none _) hrange
        · cases hx
          exact .inr ⟨rfl, rfl, rfl, rfl⟩
        · exact digitsThen_of_endsNumeral hr negative m
  · exact (settles_digitsThen_left negative hm ⟨hne, hleft⟩ hfraction htail hfits' hn).imp
      fun x hx => .inl hx

theorem unsignedNumeral_append {taken left s : List Char} (hwhole : WholeText (taken ++ left))
    (hfits : Fits maxSignificand 0 taken left) (hs : startsWithDigit s = false) :
    unsignedNumeral negative (taken ++ (left ++ s)) =
      digitsThen negative (Nat.ofDigitChars 10 taken 0) (left ++ s) := by
  rcases hwhole with hzero | ⟨hdigits, hhead⟩
  · obtain ⟨rfl, rfl⟩ | ⟨rfl, rfl⟩ := List.append_eq_singleton_iff.mp hzero
    · exact absurd (hfits.2 '0' rfl) (by decide)
    · rw [List.nil_append, List.singleton_append, unsignedNumeral, hs]
      rfl
  · have hstart := hdigits.startsWithDigit s
    rw [← List.append_assoc, unsignedNumeral, if_pos hstart]
    · rw [List.append_assoc, hfits.takeDigits_eq hdigits.2 hs]
    · intro hnil
      rw [hnil] at hstart
      cases hstart
    · exact fun r hr => hdigits.ne_zero_cons hhead _ r hr

/-- What a numeral comes to behind its sign. It is an integer only if it is written like one. -/
theorem settles_magnitude {t : List Char} {e n : Int} (h : Magnitude t m e n) :
    SettlesUnless (Overflows m e n) (unsignedNumeral negative) t fun x =>
      x.IsFloat ∨ ∃ k ≤ maxSignificand, x = wholeNumber negative k ∧ t = Nat.toDigits 10 k := by
  obtain ⟨hwhole, hfits, hfraction, htail, hfits', hn⟩ := h
  rename_i taken left fraction taken' left' exponent
  rw [Nat.ofDigitChars_append]
  have hbehind {r : List Char} (hr : EndsNumeral r) :
      startsWithDigit (fraction ++ exponent ++ r) = false := by
    rw [List.append_assoc]
    exact hfraction.not_startsWithDigit hn.text hr
  have hleft (c : Char) (hc : c ∈ left) := hwhole.isDigit_of_mem (List.mem_append_right taken hc)
  refine ((settles_digitsThen negative hfits.1 hleft hfraction htail hfits' hn).imp
    fun x hx => ?_).congr fun r hr => ?_
  · obtain hfloat | ⟨hx, rfl, rfl, rfl⟩ := hx
    · exact .inl hfloat
    · refine .inr ⟨_, hfits.1, hx, ?_⟩
      rw [List.append_nil] at hwhole
      rw [toDigits_of_wholeText hwhole]
      simp
  · rw [List.append_assoc, List.append_assoc, List.append_assoc left]
    exact unsignedNumeral_append negative hwhole hfits (hbehind hr)

include negative in
theorem Magnitude.outOfRange_iff {t : List Char} {e n : Int} (h : Magnitude t m e n) :
    OutOfRange t ↔ Overflows m e n := by
  constructor
  · rintro ⟨m', e', n', h', hoverflows⟩
    by_contra hnot
    obtain ⟨x, hx⟩ := (settles_magnitude negative h).reads hnot
    exact (settles_magnitude negative h').not_reads hoverflows hx
  · exact fun hoverflows => ⟨m, e, n, h, hoverflows⟩

theorem settles_unsignedNumeral {t : List Char} (h : UnsignedText t) :
    SettlesUnless (OutOfRange t) (unsignedNumeral negative) t fun x =>
      x.IsFloat ∨ ∃ k ≤ maxSignificand, x = wholeNumber negative k ∧ t = Nat.toDigits 10 k := by
  obtain ⟨m, e, n, hmagnitude⟩ := h.exists_magnitude
  rw [hmagnitude.outOfRange_iff negative]
  exact settles_magnitude negative hmagnitude

/-- No fraction and no negative exponent is out of range behind a whole part that is not, and no power
of ten that leaves it below `10 ^ 307`. -/
theorem not_outOfRange_of_le {whole : List Char} (hwhole : WholeText whole)
    (hfraction : FractionText fraction) (hn : ExponentValue exponent n)
    (h : (Nat.ofDigitChars 10 whole 0 + 1) * 10 ^ n.toNat ≤ 10 ^ 307) :
    ¬ OutOfRange (whole ++ (fraction ++ exponent)) := by
  obtain ⟨taken, left, rfl, hfits⟩ := exists_fits (Nat.zero_le maxSignificand) whole
  obtain ⟨taken', left', htail, hfits'⟩ := exists_fits hfits.1 fraction.tail
  have hmagnitude := Magnitude.mk hwhole hfits hfraction htail hfits' hn
  have htaken' : ∀ c ∈ taken', c.isDigit = true := by
    intro c hc
    exact hfraction.isDigit_of_mem_tail (htail ▸ List.mem_append_left _ hc)
  rw [hmagnitude.outOfRange_iff false]
  exact not_overflows_of_le (fun c hc => hwhole.isDigit_of_mem (List.mem_append_right _ hc))
    htaken' hfits hfits' h

end Settling

section Sound

variable {negative : Bool} {m : Nat} {e : Int} {x : Number} {s r : List Char}

theorem eq_of_scaledNumber (h : scaledNumber negative m e s = .ok (x, r)) : s = r := by
  unfold scaledNumber at h
  split at h
  · cases h
    rfl
  · cases h

theorem exists_of_exponentPart (h : exponentPart negative m e s = .ok (x, r)) :
    ∃ sign t, s = sign ++ (t ++ r) ∧ (sign = [] ∨ sign = ['+'] ∨ sign = ['-']) ∧ IsDigits t := by
  have hsigned : ∃ sign s', s = sign ++ s' ∧ (sign = [] ∨ sign = ['+'] ∨ sign = ['-']) ∧
      startsWithDigit s' = true := by
    unfold exponentPart at h
    split at h
    rename_i down s' hsplit
    have hstart : startsWithDigit s' = true := by
      by_contra hnot
      split at h
      · cases h
      · rw [if_pos (by simpa using hnot)] at h
        cases h
    split at hsplit
    · cases hsplit
      exact ⟨['+'], s', rfl, .inr (.inl rfl), hstart⟩
    · cases hsplit
      exact ⟨['-'], s', rfl, .inr (.inr rfl), hstart⟩
    · cases hsplit
      exact ⟨[], s, rfl, .inl rfl, hstart⟩
  obtain ⟨sign, s', rfl, hsign, hstart⟩ := hsigned
  obtain ⟨down, hdown⟩ := exists_exponentSign hsign
  obtain ⟨t, ht, hdigits⟩ := exists_digits hstart
  have hdrop := dropDigits_takeDigits maxExponent 0 s'
  refine ⟨sign, t, ?_, hsign, hdigits⟩
  rw [exponentPart_eq negative e hdown hstart] at h
  split at h
  · split at h
    · cases h
      rw [hdrop, ← ht]
    · cases h
  · rename_i hbehind
    rw [← eq_of_scaledNumber h, ← dropDigits_of_not hbehind, hdrop, ← ht]

theorem exists_of_exponentOrEnd (h : exponentOrEnd negative m e s = .ok (x, r)) :
    ∃ t, s = t ++ r ∧ ExponentText t := by
  unfold exponentOrEnd at h
  split at h
  · obtain ⟨sign, t, rfl, hsign, ht⟩ := exists_of_exponentPart h
    exact ⟨'e' :: (sign ++ t), by simp, .digits (.inl rfl) hsign ht⟩
  · obtain ⟨sign, t, rfl, hsign, ht⟩ := exists_of_exponentPart h
    exact ⟨'E' :: (sign ++ t), by simp, .digits (.inr rfl) hsign ht⟩
  · exact ⟨[], eq_of_scaledNumber h, .none⟩

theorem exists_of_fractionPart (h : fractionPart negative m e s = .ok (x, r)) :
    ∃ t exponent, s = t ++ (exponent ++ r) ∧ IsDigits t ∧ ExponentText exponent := by
  unfold fractionPart at h
  have hdrop := dropDigits_takeDigits maxSignificand m s
  have hstart : startsWithDigit s = true := by
    by_contra hnot
    dsimp only at h
    split at h
    · cases h
    · rw [if_pos (by simpa using hnot)] at h
      cases h
  have hempty : s.isEmpty = false := by
    cases s with
    | nil => cases hstart
    | cons c s => rfl
  simp only [hempty, hstart, hdrop] at h
  obtain ⟨t, ht, hdigits⟩ := exists_digits hstart
  obtain ⟨exponent, hexponent, htext⟩ := exists_of_exponentOrEnd h
  exact ⟨t, exponent, by rw [← hexponent, ← ht], hdigits, htext⟩

theorem exists_of_digitsThen (h : digitsThen negative m s = .ok (x, r)) :
    ∃ fraction exponent, dropDigits s = fraction ++ (exponent ++ r) ∧ FractionText fraction ∧
      ExponentText exponent := by
  have hpart {n : Nat} {e : Int} {s : List Char} (h : fractionPart negative n e s = .ok (x, r)) :
      ∃ fraction exponent, '.' :: s = fraction ++ (exponent ++ r) ∧ FractionText fraction ∧
        ExponentText exponent := by
    obtain ⟨t, exponent, rfl, ht, hexponent⟩ := exists_of_fractionPart h
    exact ⟨'.' :: t, exponent, rfl, .digits ht, hexponent⟩
  unfold digitsThen at h
  split at h
  · exact hpart h
  · obtain ⟨t, ht, hexponent⟩ := exists_of_exponentOrEnd (s := 'e' :: _) h
    exact ⟨[], t, ht, .none, hexponent⟩
  · obtain ⟨t, ht, hexponent⟩ := exists_of_exponentOrEnd (s := 'E' :: _) h
    exact ⟨[], t, ht, .none, hexponent⟩
  · split at h
    · dsimp only at h
      split at h
      · rename_i hdrop
        rw [hdrop]
        exact hpart h
      · obtain ⟨t, ht, hexponent⟩ := exists_of_exponentOrEnd h
        exact ⟨[], t, ht, .none, hexponent⟩
    · rename_i hstart
      cases h
      exact ⟨[], [], dropDigits_of_not hstart, .none, .none⟩

theorem exists_of_unsignedNumeral (h : unsignedNumeral negative s = .ok (x, r)) :
    ∃ t, s = t ++ r ∧ UnsignedText t := by
  unfold unsignedNumeral at h
  split at h
  · cases h
  · split at h
    · cases h
    · rename_i hstart
      obtain ⟨fraction, exponent, hs, hfraction, hexponent⟩ := exists_of_digitsThen h
      rw [dropDigits_of_not hstart] at hs
      rw [hs]
      exact ⟨'0' :: (fraction ++ exponent), by simp, .mk (.inl rfl) hfraction hexponent⟩
  · rename_i hzero
    split at h
    · rename_i hstart
      obtain ⟨fraction, exponent, hs, hfraction, hexponent⟩ := exists_of_digitsThen h
      rw [dropDigits_takeDigits] at hs
      obtain ⟨t, ht, hdigits⟩ := exists_digits hstart
      rw [hs] at ht
      refine ⟨t ++ (fraction ++ exponent), by simp [ht], .mk (.inr ⟨hdigits, ?_⟩) hfraction hexponent⟩
      intro hhead
      obtain ⟨t', rfl⟩ := List.head?_eq_some_iff.mp hhead
      exact hzero _ ht
    · cases h

end Sound

section Skipping

variable {r : List Char}

theorem skipExponentOrEnd_append {t : List Char} (ht : ExponentText t) (hr : EndsNumeral r) :
    skipExponentOrEnd (t ++ r) = .ok r := by
  cases ht with
  | none =>
    rw [List.nil_append, skipExponentOrEnd]
    · exact fun s hs => hr.ne_cons rfl s hs
    · exact fun s hs => hr.ne_cons rfl s hs
  | @digits mark sign t hmark hsign h =>
    have hstart := h.startsWithDigit r
    have hdrop := dropDigits_append h.2 (startsWithDigit_of_endsNumeral hr)
    have hskip : skipExponent (sign ++ (t ++ r)) = .ok r := by
      rcases hsign with rfl | rfl | rfl
      · rw [List.nil_append, skipExponent]
        · rw [if_pos hstart, hdrop]
        · exact fun s hs => ne_cons_of_startsWithDigit hstart rfl s hs
        · exact fun s hs => ne_cons_of_startsWithDigit hstart rfl s hs
      · simp only [skipExponent, List.cons_append, List.nil_append, if_pos hstart, hdrop]
      · simp only [skipExponent, List.cons_append, List.nil_append, if_pos hstart, hdrop]
    rw [List.cons_append, List.append_assoc]
    rcases hmark with rfl | rfl <;> exact hskip

theorem skipNumeral_digits {t s : List Char} (ht : IsDigits t) (hzero : t.head? ≠ some '0')
    (hs : startsWithDigit s = false) : skipNumeral (t ++ s) = skipNumeral ('0' :: s) := by
  generalize hbehind : skipNumeral ('0' :: s) = behind
  rw [skipNumeral, hs, if_neg Bool.false_ne_true] at hbehind
  rw [skipNumeral, if_pos (ht.startsWithDigit s), dropDigits_append ht.2 hs]
  · exact hbehind
  · exact fun r hr => ht.ne_zero_cons hzero _ r hr

theorem skipNumeral_append {t : List Char} (ht : UnsignedText t) (hr : EndsNumeral r) :
    skipNumeral (t ++ r) = .ok r := by
  obtain ⟨hwhole, hfraction, hexponent⟩ := ht
  rename_i whole fraction exponent
  have hbehind := hfraction.not_startsWithDigit hexponent hr
  have hzero : skipNumeral ('0' :: (fraction ++ (exponent ++ r))) = .ok r := by
    have hskip := skipExponentOrEnd_append hexponent hr
    rw [skipNumeral, hbehind, if_neg Bool.false_ne_true]
    cases hfraction with
    | none =>
      simp only [List.nil_append]
      split
      · rename_i s hs
        exact absurd hs (hexponent.ne_point hr s)
      · exact hskip
    | @digits t h =>
      have hstart := h.startsWithDigit (exponent ++ r)
      have hdrop := dropDigits_append h.2 (hexponent.not_startsWithDigit hr)
      simp only [List.cons_append, if_pos hstart, hdrop]
      exact hskip
  rw [List.append_assoc, List.append_assoc]
  rcases hwhole with rfl | ⟨hdigits, hne⟩
  · exact hzero
  · rw [skipNumeral_digits hdigits hne hbehind]
    exact hzero

end Skipping

end DocumentRest.Json
