import DocumentRest.Text.Utf8
import Mathlib.Data.List.Basic
import Mathlib.Tactic.Common

namespace DocumentRest.Text

section Continuation

theorem continued_cons {taken n number low high : Nat} {b : UInt8} {bytes : List UInt8}
    (hlow : low ≤ b.toNat) (hhigh : b.toNat ≤ high) :
    continued taken (n + 1) number low high (b :: bytes) =
      continued (taken + 1) n (number * 64 + b.toNat % 64) 0x80 0xBF bytes := by
  rw [continued, if_pos ⟨hlow, hhigh⟩]

theorem exists_of_continued_succ {taken n number low high : Nat} {bytes : List UInt8}
    {r : Nat × List UInt8} (h : continued taken (n + 1) number low high bytes = .ok r) :
    ∃ b rest, bytes = b :: rest ∧ low ≤ b.toNat ∧ b.toNat ≤ high ∧
      continued (taken + 1) n (number * 64 + b.toNat % 64) 0x80 0xBF rest = .ok r := by
  cases bytes with
  | nil => simp [continued] at h
  | cons b rest =>
    by_cases hb : low ≤ b.toNat ∧ b.toNat ≤ high
    · rw [continued_cons hb.1 hb.2] at h
      exact ⟨b, rest, rfl, hb.1, hb.2, h⟩
    · rw [continued, if_neg hb] at h
      cases h

theorem continued_tail {taken n number low high x : Nat} {bytes : List UInt8}
    (hlow : low ≤ x % 64 + 128) (hhigh : x % 64 + 128 ≤ high) :
    continued taken (n + 1) number low high (.ofNat (x % 64 + 128) :: bytes) =
      continued (taken + 1) n (number * 64 + x % 64) 0x80 0xBF bytes := by
  have hb : (UInt8.ofNat (x % 64 + 128)).toNat = x % 64 + 128 := by
    rw [UInt8.toNat_ofNat']
    omega
  have hx : (x % 64 + 128) % 64 = x % 64 := by omega
  rw [continued_cons (by omega) (by omega), hb, hx]

theorem continued_zero_eq_ok {taken number low high n : Nat} {bytes rest : List UInt8}
    (h : continued taken 0 number low high bytes = .ok (n, rest)) : n = number ∧ rest = bytes := by
  simp only [continued, Except.ok.injEq, Prod.mk.injEq] at h
  exact ⟨h.1.symm, h.2.symm⟩

end Continuation

section Lead

variable {v : Nat}

theorem leadByte?_one (h : v ≤ 127) :
    leadByte? (UInt8.ofNat v).toNat = some (0, v, 0x80, 0xBF) := by
  have hb : (UInt8.ofNat v).toNat = v := by
    rw [UInt8.toNat_ofNat']
    omega
  rw [hb, leadByte?, if_pos (by omega)]

theorem leadByte?_two (h : 127 < v) (h' : v ≤ 2047) :
    leadByte? (UInt8.ofNat (v / 64 % 32 + 192)).toNat = some (1, v / 64, 0x80, 0xBF) := by
  have hb : (UInt8.ofNat (v / 64 % 32 + 192)).toNat = v / 64 + 192 := by
    rw [UInt8.toNat_ofNat']
    omega
  rw [hb, leadByte?, if_neg (by omega), if_neg (by omega), if_pos (by omega)]
  simp

theorem leadByte?_three (h : 2047 < v) (h' : v ≤ 65535) (hv : v < 0xD800 ∨ 0xDFFF < v) :
    ∃ low high, leadByte? (UInt8.ofNat (v / 4096 % 16 + 224)).toNat =
        some (2, v / 4096, low, high) ∧
      low ≤ v / 64 % 64 + 128 ∧ v / 64 % 64 + 128 ≤ high := by
  have hb : (UInt8.ofNat (v / 4096 % 16 + 224)).toNat = v / 4096 + 224 := by
    rw [UInt8.toNat_ofNat']
    omega
  rw [hb, leadByte?, if_neg (by omega), if_neg (by omega), if_neg (by omega)]
  split_ifs with h0 h13 hlast
  · exact ⟨0xA0, 0xBF, by simp; omega, by omega, by omega⟩
  · exact ⟨0x80, 0x9F, by simp; omega, by omega, by omega⟩
  · exact ⟨0x80, 0xBF, by simp, by omega, by omega⟩
  all_goals omega

theorem leadByte?_four (h : 65535 < v) (h' : v < 0x110000) :
    ∃ low high, leadByte? (UInt8.ofNat (v / 262144 % 8 + 240)).toNat =
        some (3, v / 262144, low, high) ∧
      low ≤ v / 4096 % 64 + 128 ∧ v / 4096 % 64 + 128 ≤ high := by
  have hb : (UInt8.ofNat (v / 262144 % 8 + 240)).toNat = v / 262144 + 240 := by
    rw [UInt8.toNat_ofNat']
    omega
  rw [hb, leadByte?, if_neg (by omega), if_neg (by omega), if_neg (by omega), if_neg (by omega),
    if_neg (by omega), if_neg (by omega)]
  split_ifs with h0 h3 h4
  · exact ⟨0x90, 0xBF, by simp; omega, by omega, by omega⟩
  · exact ⟨0x80, 0xBF, by simp, by omega, by omega⟩
  · exact ⟨0x80, 0x8F, by simp; omega, by omega, by omega⟩
  · omega

theorem leadByte?_cases {b missing number low high : Nat}
    (h : leadByte? b = some (missing, number, low, high)) :
    missing = 0 ∧ number = b ∧ b ≤ 127 ∨
    missing = 1 ∧ number + 0xC0 = b ∧ 0xC2 ≤ b ∧ b < 0xE0 ∧ low = 0x80 ∧ high = 0xBF ∨
    missing = 2 ∧ number + 0xE0 = b ∧ b < 0xF0 ∧ 0x80 ≤ low ∧ high ≤ 0xBF ∧
      (number = 0 → 0xA0 ≤ low) ∧ (number = 13 → high ≤ 0x9F) ∨
    missing = 3 ∧ number + 0xF0 = b ∧ b ≤ 0xF4 ∧ 0x80 ≤ low ∧ high ≤ 0xBF ∧
      (number = 0 → 0x90 ≤ low) ∧ (number = 4 → high ≤ 0x8F) := by
  unfold leadByte? at h
  split_ifs at h <;> simp only [Option.some.injEq, Prod.mk.injEq] at h <;> omega

end Lead

section Character

theorem utf8Char_eq_ok {b : UInt8} {bytes rest : List UInt8} {missing number low high n : Nat}
    (hl : leadByte? b.toNat = some (missing, number, low, high))
    (hc : continued 1 missing number low high bytes = .ok (n, rest)) :
    utf8Char b bytes = .ok (.ofNat n, rest) := by
  simp only [utf8Char, hl, hc, Except.map]

/-- A character is read from the bytes that it is written in, whatever follows them. -/
theorem utf8Char_encode (c : Char) (rest : List UInt8) :
    ∃ b bytes, String.utf8EncodeChar c ++ rest = b :: bytes ∧ utf8Char b bytes = .ok (c, rest) := by
  have hv : c.toNat < 0xD800 ∨ 0xDFFF < c.toNat ∧ c.toNat < 0x110000 := c.valid
  have hval : c.val.toNat = c.toNat := rfl
  have hc : Char.ofNat c.toNat = c := c.ofNat_toNat
  generalize c.toNat = v at hv hval hc
  subst hc
  simp only [String.utf8EncodeChar, hval]
  split_ifs with h1 h2 h3
  · exact ⟨_, _, rfl, utf8Char_eq_ok (leadByte?_one h1) rfl⟩
  · have hn : v / 64 * 64 + v % 64 = v := by omega
    refine ⟨_, _, rfl, utf8Char_eq_ok (leadByte?_two (by omega) h2) ?_⟩
    show continued 1 1 _ _ _ (_ :: rest) = _
    rw [continued_tail (by omega) (by omega), hn, continued]
  · obtain ⟨low, high, hl, hlow, hhigh⟩ := leadByte?_three (v := v) (by omega) h3 (by omega)
    have hn : (v / 4096 * 64 + v / 64 % 64) * 64 + v % 64 = v := by omega
    refine ⟨_, _, rfl, utf8Char_eq_ok hl ?_⟩
    show continued 1 2 _ _ _ (_ :: _ :: rest) = _
    rw [continued_tail hlow hhigh, continued_tail (by omega) (by omega), hn, continued]
  · obtain ⟨low, high, hl, hlow, hhigh⟩ := leadByte?_four (v := v) (by omega) (by omega)
    have hn : ((v / 262144 * 64 + v / 4096 % 64) * 64 + v / 64 % 64) * 64 + v % 64 = v := by omega
    refine ⟨_, _, rfl, utf8Char_eq_ok hl ?_⟩
    show continued 1 3 _ _ _ (_ :: _ :: _ :: rest) = _
    rw [continued_tail hlow hhigh, continued_tail (by omega) (by omega),
      continued_tail (by omega) (by omega), hn, continued]

theorem utf8EncodeChar_ofNat {n : Nat} (hn : n.isValidChar) :
    String.utf8EncodeChar (.ofNat n) =
      if n ≤ 127 then [.ofNat n]
      else if n ≤ 2047 then [.ofNat (n / 64 % 32 + 192), .ofNat (n % 64 + 128)]
      else if n ≤ 65535 then
        [.ofNat (n / 4096 % 16 + 224), .ofNat (n / 64 % 64 + 128), .ofNat (n % 64 + 128)]
      else
        [.ofNat (n / 262144 % 8 + 240), .ofNat (n / 4096 % 64 + 128), .ofNat (n / 64 % 64 + 128),
          .ofNat (n % 64 + 128)] := by
  have hv : (Char.ofNat n).val.toNat = n := by
    rw [Char.ofNat, dif_pos hn]
    rfl
  simp only [String.utf8EncodeChar, hv]

theorem ofNat_eq_byte {b : UInt8} {n : Nat} (h : n = b.toNat) : UInt8.ofNat n = b := by
  rw [h, UInt8.ofNat_toNat]

/-- A character that was read is written in the bytes that it was read from. -/
theorem encode_of_utf8Char {b : UInt8} {bytes rest : List UInt8} {c : Char}
    (h : utf8Char b bytes = .ok (c, rest)) : String.utf8EncodeChar c ++ rest = b :: bytes := by
  unfold utf8Char at h
  cases hl : leadByte? b.toNat with
  | none => simp [hl] at h
  | some lead =>
    obtain ⟨missing, number, low, high⟩ := lead
    cases hc : continued 1 missing number low high bytes with
    | error fault => simp [hl, hc, Except.map] at h
    | ok r =>
      obtain ⟨n, rest'⟩ := r
      simp only [hl, hc, Except.map, Except.ok.injEq, Prod.mk.injEq] at h
      obtain ⟨rfl, rfl⟩ := h
      -- One case for each number of bytes that follow the first one.
      rcases leadByte?_cases hl with ⟨rfl, rfl, h1⟩ | ⟨rfl, hk, hb, hb', rfl, rfl⟩ |
        ⟨rfl, hk, hb, hlow, hhigh, h0, h13⟩ | ⟨rfl, hk, hb, hlow, hhigh, h0, h4⟩
      · obtain ⟨rfl, rfl⟩ := continued_zero_eq_ok hc
        rw [utf8EncodeChar_ofNat (.inl (by omega)), if_pos h1, UInt8.ofNat_toNat]
        rfl
      · obtain ⟨x, s, rfl, hx, hx', hc⟩ := exists_of_continued_succ hc
        obtain ⟨rfl, rfl⟩ := continued_zero_eq_ok hc
        rw [utf8EncodeChar_ofNat (.inl (by omega)), if_neg (by omega), if_pos (by omega),
          ofNat_eq_byte (b := b) (by omega), ofNat_eq_byte (b := x) (by omega)]
        rfl
      · obtain ⟨x, s, rfl, hx, hx', hc⟩ := exists_of_continued_succ hc
        obtain ⟨y, s, rfl, hy, hy', hc⟩ := exists_of_continued_succ hc
        obtain ⟨rfl, rfl⟩ := continued_zero_eq_ok hc
        rw [utf8EncodeChar_ofNat (by unfold Nat.isValidChar; omega), if_neg (by omega),
          if_neg (by omega), if_pos (by omega), ofNat_eq_byte (b := b) (by omega),
          ofNat_eq_byte (b := x) (by omega), ofNat_eq_byte (b := y) (by omega)]
        rfl
      · obtain ⟨x, s, rfl, hx, hx', hc⟩ := exists_of_continued_succ hc
        obtain ⟨y, s, rfl, hy, hy', hc⟩ := exists_of_continued_succ hc
        obtain ⟨z, s, rfl, hz, hz', hc⟩ := exists_of_continued_succ hc
        obtain ⟨rfl, rfl⟩ := continued_zero_eq_ok hc
        rw [utf8EncodeChar_ofNat (by unfold Nat.isValidChar; omega), if_neg (by omega),
          if_neg (by omega), if_neg (by omega), ofNat_eq_byte (b := b) (by omega),
          ofNat_eq_byte (b := x) (by omega), ofNat_eq_byte (b := y) (by omega),
          ofNat_eq_byte (b := z) (by omega)]
        rfl

theorem utf8Char_eq_ok_iff {b : UInt8} {bytes rest : List UInt8} {c : Char} :
    utf8Char b bytes = .ok (c, rest) ↔ String.utf8EncodeChar c ++ rest = b :: bytes := by
  refine ⟨encode_of_utf8Char, fun h => ?_⟩
  obtain ⟨b', bytes', he, hr⟩ := utf8Char_encode c rest
  rw [h, List.cons.injEq] at he
  rw [he.1, he.2]
  exact hr

end Character

@[simp] theorem utf8Bytes_cons (c : Char) (s : List Char) :
    utf8Bytes (c :: s) = String.utf8EncodeChar c ++ utf8Bytes s := List.flatMap_cons

@[simp] theorem utf8Bytes_append (s s' : List Char) :
    utf8Bytes (s ++ s') = utf8Bytes s ++ utf8Bytes s' := List.flatMap_append

theorem utf8Bytes_singleton (c : Char) : utf8Bytes [c] = String.utf8EncodeChar c :=
  List.flatMap_singleton String.utf8EncodeChar c

theorem utf8Bytes_eq_nil_iff {s : List Char} : utf8Bytes s = [] ↔ s = [] := by
  cases s with
  | nil => simp [utf8Bytes]
  | cons c s => simp [String.utf8EncodeChar_ne_nil]

theorem utf8EncodeChar_of_getLast? {c : Char} {b : UInt8} (hb : b.toNat < 128)
    (h : (String.utf8EncodeChar c).getLast? = some b) :
    String.utf8EncodeChar c = [b] ∧ c = .ofNat b.toNat := by
  have hlast (n : Nat) : UInt8.ofNat (n % 64 + 128) ≠ b := by
    rintro rfl
    rw [UInt8.toNat_ofNat'] at hb
    omega
  have hval : c.val.toNat = c.toNat := rfl
  have hc : Char.ofNat c.toNat = c := c.ofNat_toNat
  unfold String.utf8EncodeChar at h ⊢
  simp only [hval] at h ⊢
  split_ifs at h ⊢ with h1
  · have hbyte : UInt8.ofNat c.toNat = b := by simpa using h
    have hnum : b.toNat = c.toNat := by
      rw [← hbyte, UInt8.toNat_ofNat']
      omega
    exact ⟨congrArg (fun b => [b]) hbyte, by rw [hnum, hc]⟩
  all_goals exact absurd (by simpa using h) (hlast _)

theorem exists_of_utf8Bytes_concat {s : List Char} {bytes : List UInt8} {b : UInt8}
    (hb : b.toNat < 128) (h : utf8Bytes s = bytes ++ [b]) :
    ∃ r, s = r ++ [.ofNat b.toNat] ∧ utf8Bytes r = bytes := by
  rcases s.eq_nil_or_concat' with rfl | ⟨r, c, rfl⟩
  · exact absurd h.symm (by simp [utf8Bytes])
  · have he : utf8Bytes r ++ String.utf8EncodeChar c = bytes ++ [b] := by
      rw [← h, utf8Bytes_append, utf8Bytes_singleton]
    have hlast : (String.utf8EncodeChar c).getLast? = some b := by
      rw [← List.getLast?_append_of_ne_nil (utf8Bytes r) String.utf8EncodeChar_ne_nil, he,
        List.getLast?_concat]
    obtain ⟨hencode, rfl⟩ := utf8EncodeChar_of_getLast? hb hlast
    rw [hencode] at he
    exact ⟨r, rfl, (List.append_inj' he rfl).1⟩

theorem length_le_of_encode {b : UInt8} {bytes rest : List UInt8} {c : Char}
    (h : String.utf8EncodeChar c ++ rest = b :: bytes) : rest.length ≤ bytes.length := by
  have hc : 0 < (String.utf8EncodeChar c).length :=
    List.length_pos_iff.mpr String.utf8EncodeChar_ne_nil
  have hl := congrArg List.length h
  rw [List.length_append, List.length_cons] at hl
  omega

theorem utf8Chars_eq_ok_iff {fuel index : Nat} {bytes : List UInt8} {s : List Char}
    (hf : bytes.length ≤ fuel) : utf8Chars fuel index bytes = .ok s ↔ utf8Bytes s = bytes := by
  induction fuel generalizing index bytes s with
  | zero =>
    have hb : bytes = [] := List.length_eq_zero_iff.mp (Nat.le_zero.mp hf)
    rw [hb, utf8Bytes_eq_nil_iff, utf8Chars, Except.ok.injEq, eq_comm]
  | succ fuel ih =>
    cases bytes with
    | nil =>
      rw [utf8Bytes_eq_nil_iff, utf8Chars, Except.ok.injEq, eq_comm]
      exact Nat.succ_ne_zero fuel
    | cons b bytes =>
      rw [utf8Chars]
      cases hr : utf8Char b bytes with
      | error fault =>
        refine iff_of_false (fun h => by cases h) fun h => ?_
        cases s with
        | nil => cases h
        | cons c s =>
          rw [utf8Bytes_cons, ← utf8Char_eq_ok_iff, hr] at h
          cases h
      | ok r =>
        obtain ⟨c, rest⟩ := r
        have he := encode_of_utf8Char hr
        have hrest : rest.length ≤ fuel := by
          have := length_le_of_encode he
          rw [List.length_cons] at hf
          omega
        constructor
        · intro h
          cases hs : utf8Chars fuel (index + c.utf8Size) rest with
          | error fault => simp [hs, Except.map] at h
          | ok s' =>
            simp only [hs, Except.map, Except.ok.injEq] at h
            rw [← h, utf8Bytes_cons, (ih hrest).mp hs, he]
        · intro h
          cases s with
          | nil => cases h
          | cons d s =>
            rw [utf8Bytes_cons, ← utf8Char_eq_ok_iff, hr, Except.ok.injEq, Prod.mk.injEq] at h
            obtain ⟨rfl, rfl⟩ := h
            simp only [(ih hrest).mpr rfl, Except.map]

/-- A byte string is read as the text that is written so, and refused if there is none. -/
theorem ofUtf8_eq_ok_iff {bytes : List UInt8} {s : String} :
    ofUtf8 bytes = .ok s ↔ utf8Bytes s.toList = bytes := by
  have hof : ofUtf8 bytes = (utf8Chars bytes.length 0 bytes).map .ofList := rfl
  have hs : utf8Chars bytes.length 0 bytes = .ok s.toList ↔ utf8Bytes s.toList = bytes :=
    utf8Chars_eq_ok_iff (Nat.le_refl _)
  rw [hof, ← hs]
  cases h : utf8Chars bytes.length 0 bytes with
  | error fault => simp [Except.map]
  | ok t =>
    rw [Except.map, Except.ok.injEq, Except.ok.injEq]
    exact ⟨fun h => by rw [← h, String.toList_ofList], fun h => by rw [h, String.ofList_toList]⟩

end DocumentRest.Text
