import DocumentRest.Json.Numeral
import Mathlib

namespace DocumentRest.Json

open Float.Model Float.Model.UnpackedFloat

section Nearest

/-- The number `m / 2 ^ k`, rounded. A half is rounded to the even number. -/
def roundShift (m k : Nat) : Nat :=
  let q := m / 2 ^ k
  let r := m % 2 ^ k
  if 2 * r < 2 ^ k then q else if 2 * r = 2 ^ k then q + q % 2 else q + 1

def nearest (n : Nat) : Nat := roundShift n (n.log2 - 52) * 2 ^ (n.log2 - 52)

def floatLimit : Nat := 2 ^ 1024

theorem floatLimit_pos : 0 < floatLimit := by
  rw [floatLimit]
  positivity

theorem le_roundShift (m k : Nat) : m / 2 ^ k ≤ roundShift m k := by
  unfold roundShift
  dsimp only
  split_ifs <;> omega

theorem roundShift_le (m k : Nat) : roundShift m k ≤ m / 2 ^ k + 1 := by
  unfold roundShift
  dsimp only
  split_ifs <;> omega

theorem two_mul_roundShift_le (m k : Nat) : 2 * (roundShift m k * 2 ^ k) ≤ 2 * m + 2 ^ k := by
  have hsplit := Nat.div_add_mod m (2 ^ k)
  have hlt : m % 2 ^ k < 2 ^ k := Nat.mod_lt _ (Nat.two_pow_pos k)
  unfold roundShift
  dsimp only
  generalize m / 2 ^ k = q at *
  generalize m % 2 ^ k = r at *
  generalize 2 ^ k = p at *
  have hmore : (q + q % 2) * p ≤ (q + 1) * p := Nat.mul_le_mul_right p (by omega)
  have hone : (q + 1) * p = p * q + p := by ring
  have hsame : q * p = p * q := Nat.mul_comm q p
  split_ifs <;> omega

theorem roundShift_mul_two_pow (m k a : Nat) : roundShift (m * 2 ^ a) (k + a) = roundShift m k := by
  have hpos := Nat.two_pow_pos a
  have hdiv : m * 2 ^ a / 2 ^ (k + a) = m / 2 ^ k := by
    rw [Nat.pow_add, Nat.mul_div_mul_right _ _ hpos]
  have hmod : m * 2 ^ a % 2 ^ (k + a) = m % 2 ^ k * 2 ^ a := by
    rw [Nat.pow_add, Nat.mul_mod_mul_right]
  have hlt : 2 * (m % 2 ^ k * 2 ^ a) < 2 ^ (k + a) ↔ 2 * (m % 2 ^ k) < 2 ^ k := by
    rw [Nat.pow_add, ← Nat.mul_assoc, Nat.mul_lt_mul_right hpos]
  have heq : 2 * (m % 2 ^ k * 2 ^ a) = 2 ^ (k + a) ↔ 2 * (m % 2 ^ k) = 2 ^ k := by
    rw [Nat.pow_add, ← Nat.mul_assoc, Nat.mul_left_inj hpos.ne']
  unfold roundShift
  simp only [hdiv, hmod, hlt, heq]

theorem roundShift_zero (m : Nat) : roundShift m 0 = m := by
  simp [roundShift, Nat.mod_one]

theorem nearest_of_lt {n : Nat} (h : n < 2 ^ 53) : nearest n = n := by
  have hlog : n.log2 - 52 = 0 := by
    by_cases h0 : n = 0
    · subst h0
      rfl
    · have := (Nat.log2_lt h0).mpr h
      omega
  rw [nearest, hlog, roundShift_zero, Nat.pow_zero, Nat.mul_one]

theorem log2_mul_two_pow {n : Nat} (h : n ≠ 0) (a : Nat) : (n * 2 ^ a).log2 = n.log2 + a := by
  have hne : n * 2 ^ a ≠ 0 := Nat.mul_ne_zero h (Nat.two_pow_pos a).ne'
  rw [Nat.log2_eq_iff hne, Nat.pow_add, Nat.add_right_comm, Nat.pow_add]
  exact ⟨Nat.mul_le_mul_right _ (Nat.log2_self_le h),
    Nat.mul_lt_mul_of_pos_right Nat.lt_log2_self (Nat.two_pow_pos a)⟩

theorem nearest_mul_two_pow (n a : Nat) : nearest (n * 2 ^ a) = nearest n * 2 ^ a := by
  by_cases h0 : n = 0
  · subst h0
    rw [Nat.zero_mul, nearest_of_lt (by decide), Nat.zero_mul]
  · rw [nearest, log2_mul_two_pow h0]
    by_cases hlog : 52 ≤ n.log2
    · rw [show n.log2 + a - 52 = n.log2 - 52 + a by omega, roundShift_mul_two_pow, nearest,
        Nat.pow_add, Nat.mul_assoc]
    · have hsmall : n < 2 ^ 53 := (Nat.log2_lt h0).mp (by omega)
      obtain ⟨d, hd⟩ : ∃ d, a = d + (n.log2 + a - 52) := ⟨a - (n.log2 + a - 52), by omega⟩
      have hround := roundShift_mul_two_pow (n * 2 ^ d) 0 (n.log2 + a - 52)
      rw [Nat.zero_add, roundShift_zero, Nat.mul_assoc, ← Nat.pow_add, ← hd] at hround
      rw [hround, nearest_of_lt hsmall, Nat.mul_assoc, ← Nat.pow_add, ← hd]

theorem le_nearest {n : Nat} (h : n ≠ 0) : 2 ^ n.log2 ≤ nearest n := by
  obtain ⟨d, hd⟩ : ∃ d, n.log2 = d + (n.log2 - 52) := ⟨n.log2 - (n.log2 - 52), by omega⟩
  have hdiv : 2 ^ d ≤ n / 2 ^ (n.log2 - 52) := by
    rw [Nat.le_div_iff_mul_le (Nat.two_pow_pos _), ← Nat.pow_add, ← hd]
    exact Nat.log2_self_le h
  calc 2 ^ n.log2 = 2 ^ d * 2 ^ (n.log2 - 52) := by rw [← Nat.pow_add, ← hd]
    _ ≤ nearest n := Nat.mul_le_mul_right _ (hdiv.trans (le_roundShift _ _))

theorem nearest_mul_le (n : Nat) : nearest n * 2 ^ 53 ≤ n * (2 ^ 53 + 1) := by
  by_cases hsmall : n < 2 ^ 53
  · rw [nearest_of_lt hsmall]
    omega
  · have h0 : n ≠ 0 := by omega
    have hlog : 53 ≤ n.log2 := (Nat.le_log2 h0).mpr (by omega)
    have hround := two_mul_roundShift_le n (n.log2 - 52)
    have hunit : 2 ^ (n.log2 - 52) * 2 ^ 52 ≤ n := by
      rw [← Nat.pow_add, Nat.sub_add_cancel (by omega)]
      exact Nat.log2_self_le h0
    calc nearest n * 2 ^ 53 = 2 * nearest n * 2 ^ 52 := by ring
      _ ≤ (2 * n + 2 ^ (n.log2 - 52)) * 2 ^ 52 := Nat.mul_le_mul_right _ hround
      _ = n * 2 ^ 53 + 2 ^ (n.log2 - 52) * 2 ^ 52 := by ring
      _ ≤ n * 2 ^ 53 + n := Nat.add_le_add_left hunit _
      _ = n * (2 ^ 53 + 1) := (Nat.mul_succ n _).symm

theorem nearest_le_two_mul (n : Nat) : nearest n ≤ 2 * n := by
  have := nearest_mul_le n
  omega

theorem two_pow_le_nearest {n c : Nat} (h : 2 ^ c ≤ n) : 2 ^ c ≤ nearest n := by
  have h0 : n ≠ 0 := ((Nat.two_pow_pos c).trans_le h).ne'
  have hlog : c ≤ n.log2 := (Nat.le_log2 h0).mpr h
  exact (Nat.pow_le_pow_right (by decide) hlog).trans (le_nearest h0)

theorem floatLimit_le_nearest {n : Nat} (h : floatLimit ≤ n) : floatLimit ≤ nearest n :=
  two_pow_le_nearest h

theorem ten_pow_le_iff {k l : Nat} : 10 ^ k ≤ 10 ^ l ↔ k ≤ l :=
  Nat.pow_le_pow_iff_right (by decide)

/-- Whether a significand and its power of ten are too large for a float, both rounded before they are
multiplied. -/
def IsTooLarge (m : Nat) (e : Int) : Prop :=
  floatLimit ≤ nearest (nearest m * nearest (10 ^ e.toNat))

/-- Rounding three times does not make `10 ^ 308` too large. -/
theorem not_isTooLarge_of_le {m : Nat} {e : Int} (h : m * 10 ^ e.toNat ≤ 10 ^ 308) :
    ¬ IsTooLarge m e := by
  rw [IsTooLarge]
  generalize 10 ^ e.toNat = p at h
  intro hlarge
  have hm := nearest_mul_le m
  have hp := nearest_mul_le p
  have hproduct := nearest_mul_le (nearest m * nearest p)
  have hbound : 10 ^ 308 * (2 ^ 53 + 1) ^ 3 < floatLimit * 2 ^ 159 := by decide +kernel
  have hle : floatLimit * 2 ^ 159 ≤ 10 ^ 308 * (2 ^ 53 + 1) ^ 3 := by
    calc floatLimit * 2 ^ 159 ≤ nearest (nearest m * nearest p) * 2 ^ 159 :=
          Nat.mul_le_mul_right _ hlarge
      _ = nearest (nearest m * nearest p) * 2 ^ 53 * 2 ^ 106 := by ring
      _ ≤ nearest m * nearest p * (2 ^ 53 + 1) * 2 ^ 106 := Nat.mul_le_mul_right _ hproduct
      _ = nearest m * 2 ^ 53 * (nearest p * 2 ^ 53) * (2 ^ 53 + 1) := by ring
      _ ≤ m * (2 ^ 53 + 1) * (p * (2 ^ 53 + 1)) * (2 ^ 53 + 1) :=
          Nat.mul_le_mul_right _ (Nat.mul_le_mul hm hp)
      _ = m * p * (2 ^ 53 + 1) ^ 3 := by ring
      _ ≤ 10 ^ 308 * (2 ^ 53 + 1) ^ 3 := Nat.mul_le_mul_right _ h
  exact absurd hbound (Nat.not_lt.mpr hle)

end Nearest

section Floats

/-- A float that is the number `n`: 53 bits, times a power of two, if it is not zero. -/
inductive IsNumber : UnpackedFloat → Nat → Prop
  | zero : IsNumber (.zero .positive) 0
  | finite {m a b n : Nat} (h : 0 < m) (low : 2 ^ 52 ≤ m) (high : m < 2 ^ 53)
      (value : m * 2 ^ a = n * 2 ^ b) : IsNumber (.finite .positive m (a - b) h) n

theorem IsNumber.of_value {m a b n : Nat} {e : Int} {h : 0 < m} (low : 2 ^ 52 ≤ m) (high : m < 2 ^ 53)
    (value : m * 2 ^ a = n * 2 ^ b) (he : e = a - b) : IsNumber (.finite .positive m e h) n := by
  subst he
  exact .finite h low high value

theorem repeat_shiftRightOne (m k : Nat) :
    Nat.repeat ExtendedMantissa.shiftRightOne k ⟨m, false, false⟩ =
      ⟨m / 2 ^ k, decide (2 ^ k ≤ 2 * (m % 2 ^ k)),
        decide (m % 2 ^ k ≠ 0 ∧ 2 * (m % 2 ^ k) ≠ 2 ^ k)⟩ := by
  induction k with
  | zero => simp [Nat.repeat, Nat.mod_one]
  | succ k ih =>
    have hmod : m % 2 ^ (k + 1) = m % 2 ^ k + 2 ^ k * (m / 2 ^ k % 2) := by
      rw [Nat.pow_succ, Nat.mod_mul]
    have hlt : m % 2 ^ k < 2 ^ k := Nat.mod_lt _ (Nat.two_pow_pos k)
    have hbit : m / 2 ^ k % 2 < 2 := Nat.mod_lt _ (by decide)
    rw [Nat.repeat, ih, ExtendedMantissa.shiftRightOne, hmod, Nat.pow_succ,
      ← Nat.div_div_eq_div_mul]
    generalize m % 2 ^ k = r at hlt
    generalize m / 2 ^ k = q at hbit
    generalize 2 ^ k = p at hlt
    have hround : (q % 2 != 0) = decide (p * 2 ≤ 2 * (r + p * (q % 2))) := by
      obtain h | h : q % 2 = 0 ∨ q % 2 = 1 := by omega
      · simp [h]
        omega
      · simp [h]
        omega
    have hsticky : (decide (p ≤ 2 * r) || decide (r ≠ 0 ∧ 2 * r ≠ p)) =
        decide (r + p * (q % 2) ≠ 0 ∧ 2 * (r + p * (q % 2)) ≠ p * 2) := by
      obtain h | h : q % 2 = 0 ∨ q % 2 = 1 := by omega
      · simp only [h, ← Bool.decide_or, decide_eq_decide]
        omega
      · simp only [h, ← Bool.decide_or, decide_eq_decide]
        omega
    rw [hround, hsticky]

theorem roundedMantissa_repeat (m k : Nat) :
    (Nat.repeat ExtendedMantissa.shiftRightOne k ⟨m, false, false⟩).roundedMantissa =
      roundShift m k := by
  rw [repeat_shiftRightOne, roundShift]
  have hlt : m % 2 ^ k < 2 ^ k := Nat.mod_lt _ (Nat.two_pow_pos k)
  have hpos := Nat.two_pow_pos k
  generalize m % 2 ^ k = r at *
  generalize m / 2 ^ k = q at *
  generalize 2 ^ k = p at *
  split_ifs with hless heven
  · by_cases h0 : r = 0
    · simp [ExtendedMantissa.roundedMantissa, ExtendedMantissa.accuracy,
        Accuracy.roundToNearestEven, h0, hpos.ne']
    · simp [ExtendedMantissa.roundedMantissa, ExtendedMantissa.accuracy,
        Accuracy.roundToNearestEven, h0, hless.ne, Nat.not_le.mpr hless]
  · simp [ExtendedMantissa.roundedMantissa, ExtendedMantissa.accuracy,
      Accuracy.roundToNearestEven, heven]
  · have h0 : r ≠ 0 := by omega
    have hmore : p ≤ 2 * r := by omega
    simp [ExtendedMantissa.roundedMantissa, ExtendedMantissa.accuracy,
      Accuracy.roundToNearestEven, h0, heven, hmore]

theorem shiftToTargetExponent_eq {m : Nat} {e : Int} (hm : 52 ≤ m.log2) (he : -1022 ≤ e + m.log2) :
    shiftToTargetExponent .binary64 m e .exact =
      (Nat.repeat ExtendedMantissa.shiftRightOne (m.log2 - 52) ⟨m, false, false⟩,
        e + (m.log2 - 52 : Nat)) := by
  have htarget : Format.binary64.targetExponent (totalExponent m e) = e + (m.log2 - 52 : Nat) := by
    show max ((m.log2 : Int) + 1 + e - 53) (3 - 2 ^ 10 - 53) = _
    omega
  rw [shiftToTargetExponent, htarget, shiftToExponent, add_sub_cancel_left, Int.toNat_natCast]
  rfl

theorem roundShift_bounds {m : Nat} (hm : 52 ≤ m.log2) :
    2 ^ 52 ≤ roundShift m (m.log2 - 52) ∧ roundShift m (m.log2 - 52) ≤ 2 ^ 53 := by
  have h0 : m ≠ 0 := by
    rintro rfl
    exact absurd hm (by decide)
  obtain ⟨s, hs⟩ := Nat.exists_eq_add_of_le' hm
  have hlow : 2 ^ 52 ≤ m / 2 ^ s := by
    rw [Nat.le_div_iff_mul_le (Nat.two_pow_pos s), ← Nat.pow_add, Nat.add_comm, ← hs]
    exact Nat.log2_self_le h0
  have hhigh : m / 2 ^ s < 2 ^ 53 := by
    rw [Nat.div_lt_iff_lt_mul (Nat.two_pow_pos s), ← Nat.pow_add,
      show 53 + s = m.log2 + 1 by omega]
    exact Nat.lt_log2_self
  have hle := le_roundShift m s
  have hge := roundShift_le m s
  rw [hs, Nat.add_sub_cancel]
  omega

theorem exponent_lt {m a b n c : Nat} (value : m * 2 ^ a = n * 2 ^ b) (hm : 0 < m)
    (high : m < 2 ^ c) : b < a + c := by
  have hn : 0 < n * 2 ^ b := value ▸ Nat.mul_pos hm (Nat.two_pow_pos a)
  apply (Nat.pow_lt_pow_iff_right (by decide : 1 < 2)).mp
  calc 2 ^ b ≤ n * 2 ^ b := Nat.le_mul_of_pos_left _ (Nat.pos_of_mul_pos_right hn)
    _ = m * 2 ^ a := value.symm
    _ < 2 ^ c * 2 ^ a := Nat.mul_lt_mul_of_pos_right high (Nat.two_pow_pos a)
    _ = 2 ^ (a + c) := by rw [Nat.mul_comm, Nat.pow_add]

/-- Rounding gives the nearest number. -/
theorem isNumber_round {m a b n : Nat} (hm : 2 ^ 52 ≤ m) (value : m * 2 ^ a = n * 2 ^ b) :
    IsNumber (roundWithAccuracy .binary64 .positive m (a - b) .exact) (nearest n) := by
  have h0 : m ≠ 0 := by omega
  have hlog : 52 ≤ m.log2 := (Nat.le_log2 h0).mpr hm
  have hb := exponent_lt value (Nat.pos_of_ne_zero h0) Nat.lt_log2_self
  obtain ⟨hlow, hhigh⟩ := roundShift_bounds hlog
  have hvalue : roundShift m (m.log2 - 52) * 2 ^ (m.log2 - 52 + a) = nearest n * 2 ^ b := by
    rw [← nearest_mul_two_pow, ← value, nearest_mul_two_pow, nearest, Nat.mul_assoc, ← Nat.pow_add]
  rw [roundWithAccuracy, shiftToTargetExponent_eq hlog (by omega)]
  dsimp only
  rw [roundedMantissa_repeat]
  generalize roundShift m (m.log2 - 52) = q at hlow hhigh hvalue
  have hq0 : q ≠ 0 := by omega
  have hqlog : 52 ≤ q.log2 := (Nat.le_log2 hq0).mpr hlow
  rw [shiftToTargetExponent_eq hqlog (by omega)]
  simp only [repeat_shiftRightOne]
  -- Rounding may have given one bit more, which is zero then.
  obtain hlt | rfl := Nat.lt_or_eq_of_le hhigh
  · have hbits : q.log2 - 52 = 0 := by
      have := (Nat.log2_lt hq0).mpr hlt
      omega
    simp only [hbits, Nat.pow_zero, Nat.div_one, dif_neg hq0]
    exact .of_value hlow hlt hvalue (by omega)
  · have hbits : (2 ^ 53).log2 - 52 = 1 := by decide
    have hhalf : 2 ^ 53 / 2 ^ 1 = 2 ^ 52 := by decide
    simp only [hbits, hhalf, dif_neg (show ¬ 2 ^ 52 = 0 by decide)]
    refine .of_value (a := m.log2 - 52 + a + 1) (b := b) (Nat.le_refl _) (by decide) ?_ (by omega)
    rw [← hvalue]
    ring

theorem IsNumber.mul {u v : UnpackedFloat} {n k : Nat} (hu : IsNumber u n) (hv : IsNumber v k) :
    IsNumber (UnpackedFloat.mul .binary64 u v) (nearest (n * k)) := by
  cases hu with
  | zero =>
    rw [Nat.zero_mul]
    cases hv <;> exact .zero
  | @finite m a b n h low high value =>
    cases hv with
    | zero =>
      rw [Nat.mul_zero]
      exact .zero
    | @finite m' a' b' k h' low' high' value' =>
      have hlow : 2 ^ 52 ≤ m * m' := low.trans (Nat.le_mul_of_pos_right m h')
      have hvalue : m * m' * 2 ^ (a + a') = n * k * 2 ^ (b + b') := by
        calc m * m' * 2 ^ (a + a') = m * 2 ^ a * (m' * 2 ^ a') := by ring
          _ = n * 2 ^ b * (k * 2 ^ b') := by rw [value, value']
          _ = n * k * 2 ^ (b + b') := by ring
      have hexponent : (a : Int) - b + (a' - b') = (a + a' : Nat) - (b + b' : Nat) := by omega
      have hround := isNumber_round hlow hvalue
      rw [← hexponent] at hround
      exact hround

section Packing

variable {m a b n : Nat} (value : m * 2 ^ a = n * 2 ^ b)

include value

theorem lt_floatLimit_iff (low : 2 ^ 52 ≤ m) (high : m < 2 ^ 53) :
    n < floatLimit ↔ a < b + 972 := by
  have hlimit (c d : Nat) (h : c + d = 1024) : 2 ^ c * 2 ^ (b + d) = floatLimit * 2 ^ b := by
    have hpow : 2 ^ c * 2 ^ d = floatLimit := by
      rw [← Nat.pow_add]
      exact congrArg (2 ^ ·) h
    rw [← hpow]
    ring
  rw [← Nat.mul_lt_mul_right (Nat.two_pow_pos b), ← value]
  constructor
  · intro h
    by_contra ha
    have hle := Nat.mul_le_mul low (Nat.pow_le_pow_right (by decide : 2 > 0) (Nat.le_of_not_lt ha))
    rw [hlimit 52 972 rfl] at hle
    exact absurd h (Nat.not_lt.mpr hle)
  · intro h
    calc m * 2 ^ a < 2 ^ 53 * 2 ^ a := Nat.mul_lt_mul_of_pos_right high (Nat.two_pow_pos a)
      _ ≤ 2 ^ 53 * 2 ^ (b + 971) := Nat.mul_le_mul_left _ (Nat.pow_le_pow_right (by decide) (by omega))
      _ = floatLimit * 2 ^ b := hlimit 53 971 rfl

end Packing

theorem unpack_pack_infinite {m : Nat} {e : Int} (h : 0 < m) (he : 972 ≤ e) :
    unpack .binary64 (pack .binary64 (.finite .positive m e h)) = .infinity .positive := by
  have hbiased : 2 ^ 11 ≤ (e + (2 ^ (11 - 1) - 1 : Nat) + (52 : Nat)).toNat + 1 := by omega
  have hpack : pack .binary64 (.finite .positive m e h) = packedInfinity .binary64 .positive :=
    if_pos hbiased
  rw [hpack]
  rfl

section Normal

variable {m k : Nat} (h : 0 < m) (low : 2 ^ 52 ≤ m) (high : m < 2 ^ 53)

include low high

theorem pack_normal (hk : k < 2047) : pack .binary64 (.finite .positive m (k - 1075) h) =
    packComponents .binary64 .positive (BitVec.ofNat 11 k) (BitVec.ofNat 52 m) := by
  have hlog : m.log2 = 52 := (Nat.log2_eq_iff h.ne').mpr ⟨low, high⟩
  have hbiased : ((k : Int) - 1075 + Format.binary64.exponentBias +
      Format.binary64.mantissaBitsWithoutImplicit).toNat = k := by
    show ((k : Int) - 1075 + (2 ^ (11 - 1) - 1 : Nat) + (52 : Nat)).toNat = k
    omega
  rw [UnpackedFloat.pack]
  simp only [hbiased, hlog]
  rw [if_neg (show ¬ 2 ^ 11 ≤ k + 1 by omega), if_pos (by rfl)]

theorem unpack_normal (hpos : 0 < k) (hk : k < 2047) :
    unpack .binary64 (packComponents .binary64 .positive (BitVec.ofNat 11 k) (BitVec.ofNat 52 m)) =
      .finite .positive m (k - 1075) h := by
  have hvalue : (BitVec.ofNat 11 k).toNat = k := by
    rw [BitVec.toNat_ofNat, Nat.mod_eq_of_lt (by omega)]
  have hne (l : Nat) (hl : l < 2 ^ 11) (hkl : k ≠ l) : BitVec.ofNat 11 k ≠ BitVec.ofNat 11 l := by
    intro heq
    have hnat := congrArg BitVec.toNat heq
    rw [hvalue, BitVec.toNat_ofNat, Nat.mod_eq_of_lt hl] at hnat
    exact hkl hnat
  have hinfinite : BitVec.ofNat 11 k ≠ -1#11 := hne 2047 (by decide) (by omega)
  have hsubnormal : BitVec.ofNat 11 k ≠ 0#11 := hne 0 (by decide) (by omega)
  have hbits : (1#1 ++ BitVec.ofNat 52 m).toNat = m := by
    rw [BitVec.toNat_append, ← Nat.shiftLeft_add_eq_or_of_lt (BitVec.isLt _), BitVec.toNat_ofNat,
      Nat.shiftLeft_eq, BitVec.toNat_ofNat]
    omega
  have hexponent : (k : Int) - ((Format.binary64.exponentBias : Nat) +
      (Format.binary64.mantissaBitsWithoutImplicit : Nat)) = k - 1075 := rfl
  rw [UnpackedFloat.unpack]
  simp only [unpackMantissa_packComponents, unpackExponent_packComponents, unpackSign_packComponents,
    Sign.ofBitVec_toBitVec, if_neg hinfinite, if_neg hsubnormal, hbits, hvalue, hexponent]

theorem unpack_pack_finite {e : Int} (hlow : -1022 ≤ e) (hhigh : e < 972) :
    unpack .binary64 (pack .binary64 (.finite .positive m e h)) = .finite .positive m e h := by
  obtain ⟨k, rfl⟩ : ∃ k : Nat, e = k - 1075 := ⟨(e + 1075).toNat, by omega⟩
  have hk : k < 2047 := by omega
  rw [pack_normal h low high hk, unpack_normal h low high (by omega) hk]

end Normal

/-- A float is kept as it is, unless the number is too large. -/
theorem IsNumber.unpack_pack {u : UnpackedFloat} {n : Nat} (h : IsNumber u n) :
    (Float.Model.pack u).unpack = if n < floatLimit then u else .infinity .positive := by
  show unpack .binary64 (pack .binary64 u) = _
  cases h with
  | zero =>
    rw [if_pos floatLimit_pos]
    rfl
  | @finite m a b n h low high value =>
    have hlimit := lt_floatLimit_iff value low high
    by_cases hn : n < floatLimit
    · have hlow := exponent_lt value h high
      have hhigh := hlimit.mp hn
      rw [if_pos hn, unpack_pack_finite h low high (by omega) (by omega)]
    · rw [if_neg hn, unpack_pack_infinite h (by omega)]

theorem isNumber_ofNat (n : Nat) : IsNumber (UnpackedFloat.ofNat .binary64 n) (nearest n) := by
  rw [UnpackedFloat.ofNat, UnpackedFloat.ofInt, UnpackedFloat.normalize]
  cases n with
  | zero => exact .zero
  | succ n =>
    have hcompare : compare ((n + 1 : Nat) : Int) 0 = .gt := compare_gt_iff_gt.mpr (by omega)
    have h0 : n + 1 ≠ 0 := Nat.succ_ne_zero n
    rw [hcompare]
    dsimp only
    rw [Int.toNat_natCast]
    generalize n + 1 = n at h0
    have hexponent : (0 : Int) - Format.binary64.targetExponent (totalExponent n 0) = 52 - n.log2 := by
      show 0 - max ((n.log2 : Int) + 1 + 0 - 53) (3 - 2 ^ 10 - 53) = _
      omega
    have hlow : 2 ^ 52 ≤ n * 2 ^ (52 - n.log2) := by
      calc 2 ^ 52 ≤ 2 ^ (n.log2 + (52 - n.log2)) := Nat.pow_le_pow_right (by decide) (by omega)
        _ = 2 ^ n.log2 * 2 ^ (52 - n.log2) := Nat.pow_add ..
        _ ≤ n * 2 ^ (52 - n.log2) := Nat.mul_le_mul_right _ (Nat.log2_self_le h0)
    have hround := isNumber_round (a := 0) hlow (Nat.mul_one _)
    have hshift : (52 - n.log2 : Int).toNat = 52 - n.log2 := by omega
    rw [UnpackedFloat.round, decreaseExponent, hexponent, hshift, Nat.shiftLeft_eq]
    exact hround

theorem isNumber_ofScientific (m : Nat) {k : Nat} (hk : k ≤ 308) :
    IsNumber (UnpackedFloat.ofScientific .binary64 m k) (nearest (m * 10 ^ k)) := by
  rw [UnpackedFloat.ofScientific]
  by_cases h0 : m = 0
  · rw [dif_pos h0, h0, Nat.zero_mul]
    exact .zero
  · have hlarge : ¬ (k : Int) > 2 ^ 11 := by omega
    have hsmall : ¬ (k : Int) < -((2 ^ 11 : Int) + m.log2) := by omega
    rw [dif_neg h0, if_neg hlarge, if_neg hsmall, if_pos (Int.natCast_nonneg k)]
    have hlow : 2 ^ 52 ≤ m <<< 53 * 10 ^ k := by
      have hm : 0 < m * 10 ^ k := Nat.mul_pos (Nat.pos_of_ne_zero h0) (by positivity)
      rw [Nat.shiftLeft_eq, Nat.mul_right_comm]
      omega
    have hvalue : m <<< 53 * 10 ^ k * 2 ^ 0 = m * 10 ^ k * 2 ^ 53 := by
      rw [Nat.shiftLeft_eq]
      ring
    have hround := isNumber_round hlow hvalue
    show IsNumber (roundWithAccuracy .binary64 .positive (m <<< 53 * 10 ^ (k : Int).toNat)
      (-53 + 0) .exact) _
    rw [Int.toNat_natCast]
    exact hround

theorem IsNumber.pack {u : UnpackedFloat} {n : Nat} (h : IsNumber u n) (hn : n < floatLimit) :
    IsNumber (Float.Model.pack u).unpack n := by
  rw [h.unpack_pack, if_pos hn]
  exact h

theorem lt_floatLimit {n : Nat} (h : n < 2 ^ 128) : n < floatLimit := by
  have hlimit : 2 ^ 128 < floatLimit := by decide +kernel
  exact h.trans hlimit

theorem exactPowersOfTen : ∀ k : Fin Float.exactlyRepresentablePowersOfTen.size,
    nearest (10 ^ k.val) = 10 ^ k.val ∧
      Float.exactlyRepresentablePowersOfTen[k].toModel = .ofScientific 1 k.val := by
  decide +kernel

theorem isNumber_exactPowersOfTen {k : Nat}
    (hk : k < Float.exactlyRepresentablePowersOfTen.size) :
    IsNumber Float.exactlyRepresentablePowersOfTen[k].toModel.unpack (10 ^ k) := by
  have hk' : k < 23 := hk
  obtain ⟨hnearest, hpower⟩ := exactPowersOfTen ⟨k, hk⟩
  have hlt : 10 ^ k < floatLimit := by
    have hbound : 10 ^ 22 < floatLimit := by decide +kernel
    exact (ten_pow_le_iff.mpr (by omega)).trans_lt hbound
  have hnumber := isNumber_ofScientific 1 (k := k) (by omega)
  rw [Nat.one_mul, hnearest] at hnumber
  have hpacked := hnumber.pack hlt
  rw [show Float.exactlyRepresentablePowersOfTen[k].toModel = .ofScientific 1 k from hpower]
  exact hpacked

theorem isNumber_float_ofScientific {m k : Nat} (hk : k ≤ 308)
    (hlimit : nearest (m * 10 ^ k) < floatLimit) :
    IsNumber (Float.ofScientific m false k).toModel.unpack (nearest (m * 10 ^ k)) := by
  unfold Float.ofScientific
  split
  · rename_i hsmall
    obtain ⟨hm, hk'⟩ := hsmall
    have hnat : m.toUInt64.toNat = m := Nat.mod_eq_of_lt (by omega)
    have hnumber := isNumber_ofNat m.toUInt64.toNat
    rw [nearest_of_lt (by omega)] at hnumber
    have hu : IsNumber m.toUInt64.toFloat.toModel.unpack m.toUInt64.toNat :=
      hnumber.pack (lt_floatLimit (by omega))
    rw [hnat] at hu
    exact (hu.mul (isNumber_exactPowersOfTen _)).pack hlimit
  · exact (isNumber_ofScientific m hk).pack hlimit

theorem powerOfTen_spec {k : Nat} (hk : k ≤ 308) :
    IsNumber (powerOfTen k).toModel.unpack (nearest (10 ^ k)) := by
  have hle := ten_pow_le_iff.mpr hk
  have hround := nearest_mul_le (10 ^ k)
  have hlimit : nearest (1 * 10 ^ k) < floatLimit := by
    rw [Nat.one_mul]
    by_contra hge
    have := Nat.mul_le_mul_right (2 ^ 53) (Nat.le_of_not_lt hge)
    have := Nat.mul_le_mul_right (2 ^ 53 + 1) hle
    have hbound : 10 ^ 308 * (2 ^ 53 + 1) < floatLimit * 2 ^ 53 := by decide +kernel
    omega
  have hnumber := isNumber_float_ofScientific hk hlimit
  rw [Nat.one_mul] at hnumber
  exact hnumber

theorem IsNumber.pos {m n : Nat} {e : Int} {h : 0 < m} (hu : IsNumber (.finite .positive m e h) n) :
    0 < n := by
  cases hu with
  | @finite _ a b _ _ _ _ value =>
    have hpos : 0 < n * 2 ^ b := value ▸ Nat.mul_pos h (Nat.two_pow_pos a)
    exact Nat.pos_of_mul_pos_right hpos

theorem IsNumber.isInf_pack {u : UnpackedFloat} {n : Nat} (h : IsNumber u n) :
    (Float.Model.pack u).isInf = decide (floatLimit ≤ n) := by
  rw [Float.Model.isInf, h.unpack_pack]
  split
  · rename_i hn
    rw [decide_eq_false (Nat.not_le.mpr hn)]
    cases h <;> rfl
  · rename_i hn
    rw [decide_eq_true (Nat.le_of_not_lt hn)]
    rfl

theorem IsNumber.eq_zero {u : UnpackedFloat} (h : IsNumber u 0) : u = .zero .positive := by
  generalize hn : 0 = n at h
  cases h with
  | zero => rfl
  | finite h low high value =>
    have hpos := (IsNumber.finite h low high value).pos
    omega

theorem IsNumber.beq_zero {x : Float} {n : Nat} (h : IsNumber x.toModel.unpack n) :
    (x == 0) = decide (n = 0) := by
  have hzero := isNumber_float_ofScientific (m := 0) (k := 0) (by decide) floatLimit_pos
  have hunpack : (0 : Float).toModel.unpack = .zero .positive := hzero.eq_zero
  show (x.toModel.unpack.compare (0 : Float).toModel.unpack == some .eq) = _
  rw [hunpack]
  generalize x.toModel.unpack = u at h
  cases h with
  | zero => rfl
  | finite h low high value =>
    have hpos := (IsNumber.finite h low high value).pos
    rw [decide_eq_false hpos.ne']
    rfl

section Scaling

variable {m : Nat} (hm : m ≤ maxSignificand)

include hm

theorem isNumber_significand : IsNumber (Float.ofScientific m false 0).toModel.unpack (nearest m) := by
  have hmax : maxSignificand = 2 ^ 64 - 1 := rfl
  have hround := nearest_le_two_mul m
  have hlimit : nearest (m * 10 ^ 0) < floatLimit := by
    rw [Nat.pow_zero, Nat.mul_one]
    exact lt_floatLimit (by omega)
  have hnumber := isNumber_float_ofScientific (by decide) hlimit
  rw [Nat.pow_zero, Nat.mul_one] at hnumber
  exact hnumber

theorem not_isTooLarge_of_nonpos {e : Int} (he : e ≤ 0) : ¬ IsTooLarge m e := by
  apply not_isTooLarge_of_le
  rw [Int.toNat_of_nonpos he, Nat.pow_zero, Nat.mul_one]
  have hbound : maxSignificand ≤ 10 ^ 308 := by decide +kernel
  exact hm.trans hbound

theorem scaled?_of_le {k : Nat} (hk : k ≤ 308) : scaled? m k = none ↔ IsTooLarge m k := by
  have hproduct := ((isNumber_significand hm).mul (powerOfTen_spec hk)).isInf_pack
  have hinf : (Float.ofScientific m false 0 * powerOfTen k).isInf =
      decide (floatLimit ≤ nearest (nearest m * nearest (10 ^ k))) := hproduct
  rw [scaled?, IsTooLarge, Int.toNat_natCast]
  dsimp only
  rw [if_neg (by omega), if_pos (by omega), Int.natAbs_natCast, hinf]
  by_cases h : floatLimit ≤ nearest (nearest m * nearest (10 ^ k))
  · simp only [h, decide_true, if_true]
  · simp [h]

theorem scaled?_of_gt {k : Nat} (hk : 308 < k) : scaled? m k = none ↔ IsTooLarge m k := by
  have hzero := (isNumber_significand hm).beq_zero
  rw [scaled?, IsTooLarge, Int.toNat_natCast]
  dsimp only
  rw [if_neg (by omega), if_neg (by omega), hzero]
  by_cases h0 : m = 0
  · subst h0
    have hnearest : nearest 0 = 0 := rfl
    rw [hnearest, Nat.zero_mul, hnearest]
    simp [floatLimit_pos.ne']
  · have hm1 : 1 ≤ nearest m := Nat.one_le_two_pow.trans (le_nearest h0)
    have hpower : floatLimit ≤ 10 ^ k := by
      have hbound : floatLimit ≤ 10 ^ 309 := by decide +kernel
      exact hbound.trans (ten_pow_le_iff.mpr hk)
    have hlarge := floatLimit_le_nearest
      ((floatLimit_le_nearest hpower).trans (Nat.le_mul_of_pos_left _ hm1))
    simp [hlarge, show nearest m ≠ 0 by omega]

/-- A number is given up only if it is too large. -/
theorem scaled?_eq_none_iff (e : Int) : scaled? m e = none ↔ IsTooLarge m e := by
  by_cases he : e < 0
  · have hsome : scaled? m e ≠ none := by
      rw [scaled?]
      dsimp only
      rw [if_pos he]
      exact Option.some_ne_none _
    exact iff_of_false hsome (not_isTooLarge_of_nonpos hm he.le)
  · obtain ⟨k, rfl⟩ := Int.eq_ofNat_of_zero_le (Int.not_lt.mp he)
    by_cases hk : k ≤ 308
    · exact scaled?_of_le hm hk
    · exact scaled?_of_gt hm (Nat.lt_of_not_le hk)

end Scaling

end Floats

end DocumentRest.Json
