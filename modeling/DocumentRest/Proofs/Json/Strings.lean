import DocumentRest.Json.Writer
import DocumentRest.Proofs.Json.StringTexts

namespace DocumentRest.Json

theorem mem_letterEscapes_of_escapeLetter? {c l : Char} (h : escapeLetter? c = some l) :
    (l, c) ∈ letterEscapes := by
  unfold escapeLetter? at h
  split_ifs at h with h1 h2 h3 h4 h5 h6 h7 <;> cases h <;> subst_vars <;> decide

theorem charText_escapeChar (c : Char) : CharText (escapeChar c) c := by
  unfold escapeChar
  cases hl : escapeLetter? c with
  | some l => exact .unit (.letter (mem_letterEscapes_of_escapeLetter? hl))
  | none =>
    dsimp only
    split
    · rename_i hc
      have hhex : FourHex ['0', '0', (c.toNat / 16).digitChar, (c.toNat % 16).digitChar] c.toNat := by
        have hdigit (n : Nat) (hn : n < 16) : IsHexDigit n.digitChar n := ⟨hn, .inl rfl⟩
        have hvalue : 0 * 0x1000 + 0 * 0x100 + c.toNat / 16 * 0x10 + c.toNat % 16 = c.toNat := by
          omega
        have hfour := FourHex.mk (hdigit 0 (by decide)) (hdigit 0 (by decide))
          (hdigit (c.toNat / 16) (by omega)) (hdigit (c.toNat % 16) (by omega))
        rw [hvalue] at hfour
        exact hfour
      exact .unit (.escape hhex)
    · rename_i hc
      refine .unit (.plain (Nat.not_lt.mp hc) ?_ ?_)
      all_goals
        rintro rfl
        cases hl

theorem pieces_escaped (s : List Char) : Pieces CharText (s.flatMap escapeChar) s := by
  induction s with
  | nil => exact .nil
  | cons c s ih => exact .cons (charText_escapeChar c) ih

/-- A string is read as what it was written for, from behind its first quote. -/
theorem stringRest_escaped (s : String) (r : List Char) :
    stringRest (s.toList.flatMap escapeChar ++ '"' :: r) = .ok (s, r) :=
  stringRest_of_pieces (pieces_escaped s.toList) r

end DocumentRest.Json
