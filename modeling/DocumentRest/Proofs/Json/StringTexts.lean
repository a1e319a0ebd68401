import DocumentRest.Proofs.Json.Grammar

namespace DocumentRest.Json

variable {α β : Type}

section Until

variable {P : List Char → α → Prop} {char : Reader β} {f : α → β}

def StartsInside (t : List Char) : Prop := ∃ c s, t = c :: s ∧ c ≠ '"'

theorem untilQuote_of_pieces (hstart : ∀ t a, P t a → StartsInside t)
    (hchar : ∀ t a r, P t a → char (t ++ r) = .ok (f a, r)) {s : List Char} {as : List α}
    (h : Pieces P s as) {fuel : Nat} (hfuel : s.length < fuel) (r : List Char) :
    untilQuote char fuel (s ++ '"' :: r) = .ok (as.map f, r) := by
  induction h generalizing fuel with
  | nil =>
    cases fuel with
    | zero => cases hfuel
    | succ fuel => rfl
  | @cons t s a as first more ih =>
    cases fuel with
    | zero => cases hfuel
    | succ fuel =>
      obtain ⟨c, t', rfl, hc⟩ := hstart t a first
      have hread := hchar _ a (s ++ '"' :: r) first
      have hlength : s.length < fuel := by
        simp only [List.length_append, List.length_cons] at hfuel
        omega
      rw [List.append_assoc, List.cons_append] at *
      rw [untilQuote, hread]
      · show (untilQuote char fuel (s ++ '"' :: r) >>= _) = _
        rw [ih hlength]
        rfl
      · exact fun s' hs' => hc (List.cons.inj hs').1

theorem exists_of_untilQuote {char : Reader α}
    (hchar : ∀ s a r, s.head? ≠ some '"' → char s = .ok (a, r) → ∃ t, s = t ++ r ∧ P t a)
    {fuel : Nat} {s r : List Char} {as : List α} (h : untilQuote char fuel s = .ok (as, r)) :
    ∃ t, s = t ++ '"' :: r ∧ Pieces P t as := by
  induction fuel generalizing s as with
  | zero => cases h
  | succ fuel ih =>
    by_cases hs : ∃ s', s = '"' :: s'
    · obtain ⟨s', rfl⟩ := hs
      cases h
      exact ⟨[], rfl, .nil⟩
    · have hne : ∀ s', s = '"' :: s' → False := fun s' he => hs ⟨s', he⟩
      rw [untilQuote.eq_3 _ _ _ hne] at h
      obtain ⟨⟨a, r'⟩, ha, h⟩ := exists_of_bind_eq_ok h
      obtain ⟨⟨as', r''⟩, has, h⟩ := exists_of_bind_eq_ok h
      cases h
      have hhead : s.head? ≠ some '"' := by
        intro hq
        obtain ⟨s', hs'⟩ := List.head?_eq_some_iff.mp hq
        exact hne s' hs'
      obtain ⟨t, rfl, ht⟩ := hchar s a r' hhead ha
      obtain ⟨t', rfl, ht'⟩ := ih has
      exact ⟨t ++ t', by rw [List.append_assoc], .cons ht ht'⟩

end Until

section Hex

theorem hexValue?_eq_some_iff {d : Char} {n : Nat} : hexValue? d = some n ↔ IsHexDigit d n := by
  constructor
  · intro h
    have hlt : d.toNat < 128 := by
      unfold hexValue? at h
      simp only [Char.isDigit, Bool.and_eq_true, decide_eq_true_eq, ge_iff_le, Char.le_def,
        UInt32.le_iff_toNat_le] at h
      split_ifs at h with h1 h2 h3
      · exact Nat.lt_of_le_of_lt h1.2 (by decide)
      · exact Nat.lt_of_le_of_lt h2.2 (by decide)
      · exact Nat.lt_of_le_of_lt h3.2 (by decide)
    have hall : ∀ k < 128, ∀ n ∈ hexValue? (Char.ofNat k), n < 16 ∧
        (Char.ofNat k = n.digitChar ∨ Char.ofNat k = n.digitChar.toUpper) := by decide
    have hd := hall d.toNat hlt n
    rw [Char.ofNat_toNat] at hd
    exact hd h
  · rintro ⟨hn, hd⟩
    have hall : ∀ n < 16, hexValue? n.digitChar = some n ∧
        hexValue? n.digitChar.toUpper = some n := by decide
    rcases hd with rfl | rfl
    · exact (hall n hn).1
    · exact (hall n hn).2

theorem fourHex_append {t : List Char} {n : Nat} (h : FourHex t n) (r : List Char) :
    fourHex (t ++ r) = .ok (n, r) := by
  obtain ⟨ha, hb, hc, hd⟩ := h
  rename_i i j k l
  have hn : ((i * 16 + j) * 16 + k) * 16 + l = i * 0x1000 + j * 0x100 + k * 0x10 + l := by omega
  simp only [fourHex, List.cons_append, List.nil_append, hexValue?_eq_some_iff.mpr ha,
    hexValue?_eq_some_iff.mpr hb, hexValue?_eq_some_iff.mpr hc, hexValue?_eq_some_iff.mpr hd, hn]

theorem exists_of_fourHex {s r : List Char} {n : Nat} (h : fourHex s = .ok (n, r)) :
    ∃ t, s = t ++ r ∧ FourHex t n := by
  unfold fourHex at h
  extract_lets refused at h
  have hrefused : refused ≠ .ok (n, r) := by
    dsimp only [refused]
    split <;> nofun
  split at h
  · rename_i a b c d r'
    split at h
    · rename_i ha hb hc hd
      cases h
      have hfour := FourHex.mk (hexValue?_eq_some_iff.mp ha) (hexValue?_eq_some_iff.mp hb)
        (hexValue?_eq_some_iff.mp hc) (hexValue?_eq_some_iff.mp hd)
      refine ⟨[a, b, c, d], rfl, ?_⟩
      convert hfour using 1
      omega
    · exact absurd h hrefused
  · exact absurd h hrefused

theorem FourHex.lt {t : List Char} {n : Nat} (h : FourHex t n) : n < 0x10000 := by
  obtain ⟨⟨ha, _⟩, ⟨hb, _⟩, ⟨hc, _⟩, ⟨hd, _⟩⟩ := h
  omega

end Hex

section Characters

theorem unescapeLetter?_eq_some_iff {l c : Char} :
    unescapeLetter? l = some c ↔ (l, c) ∈ letterEscapes := by
  constructor
  · intro h
    unfold unescapeLetter? at h
    split_ifs at h with h1 h2 h3 h4 h5 h6
    · simp only [Bool.or_eq_true, decide_eq_true_eq] at h1
      rcases h1 with (rfl | rfl) | rfl <;> cases h <;> decide
    all_goals
      cases h
      subst_vars
      decide
  · intro h
    have hall : ∀ p ∈ letterEscapes, unescapeLetter? p.1 = some p.2 := by decide
    exact hall _ h

theorem ne_u_of_mem_letterEscapes {l c : Char} (h : (l, c) ∈ letterEscapes) : l ≠ 'u' := by
  rintro rfl
  simp [letterEscapes] at h

/-- No character is a surrogate, so that only an escape can be one. -/
theorem UnitText.escape_of_surrogate {t : List Char} {n : Nat} (h : UnitText t n)
    (hn : 0xD800 ≤ n ∧ n ≤ 0xDFFF) : ∃ hex, t = '\\' :: 'u' :: hex ∧ FourHex hex n := by
  have hchar (c : Char) : c.toNat < 0xD800 ∨ 0xDFFF < c.toNat ∧ c.toNat < 0x110000 := c.valid
  cases h with
  | @plain c =>
    have := hchar c
    omega
  | @letter l c =>
    have := hchar c
    omega
  | escape h => exact ⟨_, rfl, h⟩

theorem trailingSurrogate_append {t : List Char} {n : Nat} (h : UnitText t n)
    (hn : 0xDC00 ≤ n ∧ n ≤ 0xDFFF) (r : List Char) : trailingSurrogate (t ++ r) = .ok (n, r) := by
  obtain ⟨hex, rfl, hhex⟩ := h.escape_of_surrogate ⟨by omega, hn.2⟩
  have htrailing : isTrailingSurrogate n = true := by
    simp only [isTrailingSurrogate, Bool.and_eq_true, decide_eq_true_eq]
    exact hn
  show (fourHex (hex ++ r) >>= _) = _
  rw [fourHex_append hhex]
  simp only [bind, Except.bind, htrailing, if_true]
  rfl

theorem exists_of_trailingSurrogate {s r : List Char} {n : Nat}
    (h : trailingSurrogate s = .ok (n, r)) :
    ∃ t, s = t ++ r ∧ UnitText t n ∧ 0xDC00 ≤ n ∧ n ≤ 0xDFFF := by
  unfold trailingSurrogate at h
  split at h
  · obtain ⟨⟨m, r'⟩, hm, h⟩ := exists_of_bind_eq_ok h
    dsimp only at h
    split at h
    · rename_i htrailing
      cases h
      obtain ⟨hex, rfl, hhex⟩ := exists_of_fourHex hm
      simp only [isTrailingSurrogate, Bool.and_eq_true, decide_eq_true_eq] at htrailing
      exact ⟨_, rfl, .escape hhex, htrailing⟩
    · cases h
  · split at h <;> cases h
  · split at h <;> cases h

theorem unicodeEscape_append {hex : List Char} {n : Nat} (h : FourHex hex n) {c : Char}
    (hc : c.toNat = n) (r : List Char) : unicodeEscape (hex ++ r) = .ok (c, r) := by
  have hvalid : c.toNat < 0xD800 ∨ 0xDFFF < c.toNat ∧ c.toNat < 0x110000 := c.valid
  have htrailing : isTrailingSurrogate n = false := by
    simp only [isTrailingSurrogate, Bool.and_eq_false_iff, decide_eq_false_iff_not]
    omega
  have hleading : isLeadingSurrogate n = false := by
    simp only [isLeadingSurrogate, Bool.and_eq_false_iff, decide_eq_false_iff_not]
    omega
  have hofNat : Char.ofNat n = c := by rw [← hc, Char.ofNat_toNat]
  simp only [unicodeEscape, fourHex_append h, bind, Except.bind, htrailing, hleading,
    Bool.false_eq_true, if_false, hofNat]
  rfl

theorem unicodeEscape_append_pair {hex t : List Char} {m n : Nat} {c : Char} (h : FourHex hex m)
    (hm : 0xD800 ≤ m ∧ m ≤ 0xDBFF) (ht : UnitText t n) (hn : 0xDC00 ≤ n ∧ n ≤ 0xDFFF)
    (hc : c.toNat = 0x10000 + (m - 0xD800) * 0x400 + (n - 0xDC00)) (r : List Char) :
    unicodeEscape (hex ++ (t ++ r)) = .ok (c, r) := by
  have htrailing : isTrailingSurrogate m = false := by
    simp only [isTrailingSurrogate, Bool.and_eq_false_iff, decide_eq_false_iff_not]
    omega
  have hleading : isLeadingSurrogate m = true := by
    simp only [isLeadingSurrogate, Bool.and_eq_true, decide_eq_true_eq]
    exact hm
  have hofNat : Char.ofNat (0x10000 + (m - 0xD800) * 0x400 + (n - 0xDC00)) = c := by
    rw [← hc, Char.ofNat_toNat]
  simp only [unicodeEscape, fourHex_append h, bind, Except.bind, htrailing, hleading,
    Bool.false_eq_true, if_false, if_true, trailingSurrogate_append ht hn, hofNat]
  rfl

theorem toNat_ofNat_of_isValidChar {n : Nat} (h : n.isValidChar) : (Char.ofNat n).toNat = n := by
  rw [Char.ofNat, dif_pos h]
  rfl

theorem exists_of_unicodeEscape {s r : List Char} {c : Char} (h : unicodeEscape s = .ok (c, r)) :
    ∃ t, s = t ++ r ∧ CharText ('\\' :: 'u' :: t) c := by
  unfold unicodeEscape at h
  obtain ⟨⟨m, r'⟩, hm, hc⟩ := exists_of_bind_eq_ok h
  obtain ⟨hex, rfl, hhex⟩ := exists_of_fourHex hm
  have hlt := hhex.lt
  dsimp only at hc
  split at hc
  · cases hc
  · rename_i htrailing
    simp only [isTrailingSurrogate, Bool.and_eq_true, decide_eq_true_eq] at htrailing
    split at hc
    · rename_i hleading
      simp only [isLeadingSurrogate, Bool.and_eq_true, decide_eq_true_eq] at hleading
      obtain ⟨⟨n, r''⟩, hn, hpair⟩ := exists_of_bind_eq_ok hc
      obtain ⟨t, rfl, ht, hrange⟩ := exists_of_trailingSurrogate hn
      simp only [pure, Except.pure, Except.ok.injEq, Prod.mk.injEq] at hpair
      obtain ⟨rfl, rfl⟩ := hpair
      have hvalid : (0x10000 + (m - 0xD800) * 0x400 + (n - 0xDC00)).isValidChar := by
        unfold Nat.isValidChar
        omega
      refine ⟨hex ++ t, (List.append_assoc ..).symm, ?_⟩
      exact .pair (.escape hhex) ht hleading hrange (toNat_ofNat_of_isValidChar hvalid)
    · rename_i hleading
      simp only [isLeadingSurrogate, Bool.and_eq_true, decide_eq_true_eq] at hleading
      cases hc
      have hvalid : m.isValidChar := by
        unfold Nat.isValidChar
        omega
      refine ⟨hex, rfl, .unit ?_⟩
      rw [toNat_ofNat_of_isValidChar hvalid]
      exact .escape hhex

theorem stringChar_append {t : List Char} {c : Char} (h : CharText t c) (r : List Char) :
    stringChar (t ++ r) = .ok (c, r) := by
  cases h with
  | unit h =>
    generalize hn : c.toNat = n at h
    cases h with
    | @plain d visible quote backslash =>
      obtain rfl : c = d := Char.toNat_inj.mp hn
      rw [List.singleton_append, stringChar, if_neg (Nat.not_lt.mpr visible)]
      all_goals simp [backslash]
    | @letter l d h =>
      obtain rfl : c = d := Char.toNat_inj.mp hn
      show stringChar ('\\' :: l :: r) = _
      rw [stringChar, unescapeLetter?_eq_some_iff.mpr h]
      exact ne_u_of_mem_letterEscapes h
    | escape h => exact unicodeEscape_append h hn r
  | @pair t t' m n _ leading trailing hm hn value =>
    obtain ⟨hex, rfl, hhex⟩ := leading.escape_of_surrogate ⟨hm.1, by omega⟩
    rw [List.append_assoc]
    exact unicodeEscape_append_pair hhex hm trailing hn value r

theorem exists_of_stringChar {s r : List Char} {c : Char} (hs : s.head? ≠ some '"')
    (h : stringChar s = .ok (c, r)) : ∃ t, s = t ++ r ∧ CharText t c := by
  unfold stringChar at h
  split at h
  · cases h
  · cases h
  · obtain ⟨t, rfl, ht⟩ := exists_of_unicodeEscape h
    exact ⟨_, rfl, ht⟩
  · split at h
    · rename_i hletter
      cases h
      exact ⟨_, rfl, .unit (.letter (unescapeLetter?_eq_some_iff.mp hletter))⟩
    · cases h
  · rename_i d r' hcut _ hescape
    split at h
    · cases h
    · rename_i hvisible
      cases h
      refine ⟨[c], rfl, .unit (.plain (Nat.not_lt.mp hvisible) ?_ ?_)⟩
      · rintro rfl
        exact hs rfl
      · rintro rfl
        cases r with
        | nil => exact hcut rfl rfl
        | cons l r => exact hescape l r rfl rfl

theorem skipStringChar_append {t : List Char} {n : Nat} (h : UnitText t n) (r : List Char) :
    skipStringChar (t ++ r) = .ok ((), r) := by
  cases h with
  | @plain d visible quote backslash =>
    rw [List.singleton_append, skipStringChar, if_neg (Nat.not_lt.mpr visible)]
    all_goals simp [backslash]
  | @letter l d h =>
    have hread : stringChar ('\\' :: l :: r) = .ok (d, r) :=
      stringChar_append (.unit (.letter h)) r
    show skipStringChar ('\\' :: l :: r) = _
    rw [skipStringChar]
    · rw [hread]
      rfl
    · rintro r' ⟨⟩
      exact ne_u_of_mem_letterEscapes h rfl
  | @escape hex n h =>
    show (fourHex (hex ++ r)).map _ = _
    rw [fourHex_append h]
    rfl

theorem UnitText.startsInside {t : List Char} {n : Nat} (h : UnitText t n) : StartsInside t := by
  cases h with
  | plain _ quote => exact ⟨_, _, rfl, quote⟩
  | letter => exact ⟨'\\', _, rfl, by decide⟩
  | escape => exact ⟨'\\', _, rfl, by decide⟩

theorem CharText.startsInside {t : List Char} {c : Char} (h : CharText t c) : StartsInside t := by
  cases h with
  | unit h => exact h.startsInside
  | pair leading =>
    obtain ⟨d, s, rfl, hd⟩ := leading.startsInside
    exact ⟨d, _, rfl, hd⟩

end Characters

section Strings

theorem stringRest_of_pieces {s : List Char} {text : String} (h : Pieces CharText s text.toList)
    (r : List Char) : stringRest (s ++ '"' :: r) = .ok (text, r) := by
  have hfuel : s.length < (s ++ '"' :: r).length + 1 := by
    rw [List.length_append]
    omega
  have hread := untilQuote_of_pieces (f := id) (fun _ _ => CharText.startsInside)
    (fun _ _ r h => stringChar_append h r) h hfuel r
  rw [stringRest, hread, List.map_id]
  show Except.ok (String.ofList text.toList, r) = _
  rw [String.ofList_toList]

theorem exists_of_stringRest {s r : List Char} {text : String} (h : stringRest s = .ok (text, r)) :
    ∃ t, s = t ++ '"' :: r ∧ Pieces CharText t text.toList := by
  obtain ⟨⟨cs, r'⟩, hcs, h⟩ := exists_of_bind_eq_ok h
  cases h
  rw [String.toList_ofList]
  exact exists_of_untilQuote (fun _ _ _ => exists_of_stringChar) hcs

theorem skipStringRest_of_pieces {s : List Char} {ns : List Nat} (h : Pieces UnitText s ns)
    (r : List Char) : skipStringRest (s ++ '"' :: r) = .ok ((), r) := by
  have hfuel : s.length < (s ++ '"' :: r).length + 1 := by
    rw [List.length_append]
    omega
  have hskip := untilQuote_of_pieces (f := fun _ => ()) (fun _ _ => UnitText.startsInside)
    (fun _ _ r h => skipStringChar_append h r) h hfuel r
  rw [skipStringRest, hskip]
  rfl

/-- A string ends at one place only, whatever it spells. -/
theorem Pieces.eq_of_append_quote {s s' r r' : List Char} {ns ns' : List Nat}
    (h : Pieces UnitText s ns) (h' : Pieces UnitText s' ns')
    (heq : s ++ '"' :: r = s' ++ '"' :: r') : s = s' ∧ r = r' := by
  have hskip := skipStringRest_of_pieces h r
  rw [heq, skipStringRest_of_pieces h' r'] at hskip
  cases hskip
  exact ⟨List.append_cancel_right heq, rfl⟩

end Strings

end DocumentRest.Json
