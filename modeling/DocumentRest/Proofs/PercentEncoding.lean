import DocumentRest.Text.Percent
import Mathlib.Tactic.Common

namespace DocumentRest.Text

theorem toNat_ofNat_byte (b : UInt8) : (Char.ofNat b.toNat).toNat = b.toNat := by
  have hb : b.toNat < 256 := b.toNat_lt
  have hv : b.toNat.isValidChar := .inl (by omega)
  rw [Char.ofNat, dif_pos hv]
  rfl

theorem hexDigit?_hexDigit {n : Nat} (h : n < 16) : hexDigit? (hexDigit n) = some n := by
  have hall : ∀ n < 16, hexDigit? (hexDigit n) = some n := by decide
  exact hall n h

theorem isUnreserved_hexDigit {n : Nat} (h : n < 16) : isUnreserved (hexDigit n) = true := by
  have hall : ∀ n < 16, isUnreserved (hexDigit n) = true := by decide
  exact hall n h

theorem percentDecode?_cons {c : Char} (h : isUnreserved c = true) (r : List Char) :
    percentDecode? (c :: r) = (percentDecode? r).map (.ofNat c.toNat :: ·) := by
  have hc : c ≠ '%' := by
    rintro rfl
    exact absurd h (by decide)
  rw [percentDecode?]
  · rw [if_pos h]
    cases percentDecode? r <;> rfl
  · intro a b r' he _
    exact hc he

/-- One byte is read back from what it is encoded as, whatever follows. -/
theorem percentDecode?_percentEncodeByte (b : UInt8) (r : List Char) :
    percentDecode? (percentEncodeByte b ++ r) = (percentDecode? r).map (b :: ·) := by
  have hb : b.toNat < 256 := b.toNat_lt
  unfold percentEncodeByte
  by_cases hu : isUnreserved (Char.ofNat b.toNat) = true
  · rw [if_pos hu, List.singleton_append, percentDecode?_cons hu, toNat_ofNat_byte,
      UInt8.ofNat_toNat]
  · have hn : 16 * (b.toNat / 16) + b.toNat % 16 = b.toNat := by omega
    rw [if_neg hu]
    show percentDecode? ('%' :: hexDigit _ :: hexDigit _ :: r) = _
    rw [percentDecode?, hexDigit?_hexDigit (by omega), hexDigit?_hexDigit (by omega)]
    simp only [Option.bind_eq_bind, Option.bind_some, hn, UInt8.ofNat_toNat]
    cases percentDecode? r <;> rfl

theorem percentDecode?_percentEncode (s : String) :
    percentDecode? (percentEncode s).toList = some (utf8Bytes s.toList) := by
  rw [percentEncode, String.toList_ofList]
  induction utf8Bytes s.toList with
  | nil => rfl
  | cons b bytes ih => rw [List.flatMap_cons, percentDecode?_percentEncodeByte, ih, Option.map_some]

theorem unreserved_or_percent {c : Char} {s : String} (h : c ∈ (percentEncode s).toList) :
    isUnreserved c = true ∨ c = '%' := by
  rw [percentEncode, String.toList_ofList, List.mem_flatMap] at h
  obtain ⟨b, _, hc⟩ := h
  have hb : b.toNat < 256 := b.toNat_lt
  unfold percentEncodeByte at hc
  by_cases hu : isUnreserved (Char.ofNat b.toNat) = true
  · rw [if_pos hu, List.mem_singleton] at hc
    exact .inl (hc ▸ hu)
  · simp only [if_neg hu, escapedByte, List.mem_cons, List.not_mem_nil, or_false] at hc
    rcases hc with rfl | rfl | rfl
    · exact .inr rfl
    · exact .inl (isUnreserved_hexDigit (by omega))
    · exact .inl (isUnreserved_hexDigit (by omega))

theorem slash_not_mem_percentEncode (s : String) : '/' ∉ (percentEncode s).toList := by
  intro h
  rcases unreserved_or_percent h with hu | he
  · exact absurd hu (by decide)
  · exact absurd he (by decide)

end DocumentRest.Text
