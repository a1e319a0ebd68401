import DocumentRest.Proofs.Json.Reading

namespace DocumentRest.Json

variable {α κ : Type}

section Strings

def letterEscapes : List (Char × Char) :=
  [('"', '"'), ('\\', '\\'), ('/', '/'), ('b', '\x08'), ('f', '\x0c'), ('n', '\n'), ('r', '\r'),
    ('t', '\t')]

def IsHexDigit (d : Char) (n : Nat) : Prop := n < 16 ∧ (d = n.digitChar ∨ d = n.digitChar.toUpper)

inductive FourHex : List Char → Nat → Prop
  | mk {a b c d : Char} {i j k l : Nat} (first : IsHexDigit a i) (second : IsHexDigit b j)
      (third : IsHexDigit c k) (fourth : IsHexDigit d l) :
      FourHex [a, b, c, d] (i * 0x1000 + j * 0x100 + k * 0x10 + l)

/-- The smallest pieces of a string, with their numbers. A piece may be one half of a surrogate pair. -/
inductive UnitText : List Char → Nat → Prop
  | plain {c : Char} (visible : 0x20 ≤ c.toNat) (quote : c ≠ '"') (backslash : c ≠ '\\') :
      UnitText [c] c.toNat
  | letter {l c : Char} (h : (l, c) ∈ letterEscapes) : UnitText ['\\', l] c.toNat
  | escape {hex : List Char} {n : Nat} (h : FourHex hex n) : UnitText ('\\' :: 'u' :: hex) n

/-- A character is written as one piece or, above `0xFFFF`, as a surrogate pair. -/
inductive CharText : List Char → Char → Prop
  | unit {t : List Char} {c : Char} (h : UnitText t c.toNat) : CharText t c
  | pair {t t' : List Char} {m n : Nat} {c : Char} (leading : UnitText t m) (trailing : UnitText t' n)
      (hm : 0xD800 ≤ m ∧ m ≤ 0xDBFF) (hn : 0xDC00 ≤ n ∧ n ≤ 0xDFFF)
      (value : c.toNat = 0x10000 + (m - 0xD800) * 0x400 + (n - 0xDC00)) : CharText (t ++ t') c

inductive Pieces (P : List Char → α → Prop) : List Char → List α → Prop
  | nil : Pieces P [] []
  | cons {t s : List Char} {a : α} {as : List α} (first : P t a) (more : Pieces P s as) :
      Pieces P (t ++ s) (a :: as)

def StringToken (t : List Char) : Prop :=
  ∃ s ns, t = '"' :: (s ++ ['"']) ∧ Pieces UnitText s ns

def StringText (t : List Char) (text : String) : Prop :=
  ∃ s, t = '"' :: (s ++ ['"']) ∧ Pieces CharText s text.toList

theorem Pieces.append {P : List Char → α → Prop} {s s' : List Char} {as as' : List α}
    (h : Pieces P s as) (h' : Pieces P s' as') : Pieces P (s ++ s') (as ++ as') := by
  induction h with
  | nil => exact h'
  | cons first _ ih =>
    rw [List.append_assoc]
    exact .cons first ih

theorem CharText.pieces {t : List Char} {c : Char} (h : CharText t c) :
    ∃ ns, Pieces UnitText t ns := by
  have hone {t : List Char} {n : Nat} (h : UnitText t n) : Pieces UnitText t [n] := by
    have hu := Pieces.cons h .nil
    rwa [List.append_nil] at hu
  cases h with
  | unit h => exact ⟨_, hone h⟩
  | pair leading trailing => exact ⟨_, (hone leading).append (hone trailing)⟩

theorem Pieces.units {s : List Char} {cs : List Char} (h : Pieces CharText s cs) :
    ∃ ns, Pieces UnitText s ns := by
  induction h with
  | nil => exact ⟨_, .nil⟩
  | cons first _ ih =>
    obtain ⟨ns, hns⟩ := first.pieces
    obtain ⟨ns', hns'⟩ := ih
    exact ⟨_, hns.append hns'⟩

theorem StringText.token {t : List Char} {text : String} (h : StringText t text) :
    StringToken t := by
  obtain ⟨s, rfl, hs⟩ := h
  obtain ⟨ns, hns⟩ := hs.units
  exact ⟨s, ns, rfl, hns⟩

theorem stringText_plain (text : String)
    (h : ∀ c ∈ text.toList, 0x20 ≤ c.toNat ∧ c ≠ '"' ∧ c ≠ '\\') :
    StringText ('"' :: (text.toList ++ ['"'])) text := by
  refine ⟨text.toList, rfl, ?_⟩
  generalize text.toList = cs at h
  induction cs with
  | nil => exact .nil
  | cons c cs ih =>
    obtain ⟨⟨visible, quote, backslash⟩, hcs⟩ := List.forall_mem_cons.mp h
    exact .cons (.unit (.plain visible quote backslash)) (ih hcs)

end Strings

section Numerals

def IsDigits (t : List Char) : Prop := t ≠ [] ∧ ∀ c ∈ t, c.isDigit = true

/-- The digits that a numeral begins with: a zero is followed by none. -/
def WholeText (t : List Char) : Prop := t = ['0'] ∨ IsDigits t ∧ t.head? ≠ some '0'

inductive FractionText : List Char → Prop
  | none : FractionText []
  | digits {t : List Char} (h : IsDigits t) : FractionText ('.' :: t)

inductive ExponentText : List Char → Prop
  | none : ExponentText []
  | digits {mark : Char} {sign t : List Char} (hmark : mark = 'e' ∨ mark = 'E')
      (hsign : sign = [] ∨ sign = ['+'] ∨ sign = ['-']) (h : IsDigits t) :
      ExponentText (mark :: (sign ++ t))

inductive UnsignedText : List Char → Prop
  | mk {whole fraction exponent : List Char} (hwhole : WholeText whole)
      (hfraction : FractionText fraction) (hexponent : ExponentText exponent) :
      UnsignedText (whole ++ (fraction ++ exponent))

inductive NumeralText : List Char → Prop
  | unsigned {t : List Char} (h : UnsignedText t) : NumeralText t
  | negative {t : List Char} (h : UnsignedText t) : NumeralText ('-' :: t)

end Numerals

section Lists

inductive MoreText (P : List Char → α → Prop) : List Char → List α → Prop
  | nil {w : List Char} (space : IsSpaceText w) : MoreText P w []
  | cons {w w' t rest : List Char} {a : α} {as : List α} (space : IsSpaceText w)
      (space' : IsSpaceText w') (first : P t a) (more : MoreText P rest as) :
      MoreText P (w ++ ',' :: (w' ++ (t ++ rest))) (a :: as)

inductive ListText (P : List Char → α → Prop) : List Char → List α → Prop
  | nil {w : List Char} (space : IsSpaceText w) : ListText P w []
  | cons {w t rest : List Char} {a : α} {as : List α} (space : IsSpaceText w) (first : P t a)
      (more : MoreText P rest as) : ListText P (w ++ (t ++ rest)) (a :: as)

inductive MemberText (Key : List Char → κ → Prop) (P : List Char → α → Prop) :
    List Char → κ × α → Prop
  | mk {name w w' t : List Char} {k : κ} {a : α} (named : Key name k) (space : IsSpaceText w)
      (space' : IsSpaceText w') (value : P t a) :
      MemberText Key P (name ++ (w ++ ':' :: (w' ++ t))) (k, a)

def ArrayText (P : List Char → α → Prop) (t : List Char) (as : List α) : Prop :=
  ∃ s, t = '[' :: (s ++ [']']) ∧ ListText P s as

def ObjectText (Key : List Char → κ → Prop) (P : List Char → α → Prop) (t : List Char)
    (ms : List (κ × α)) : Prop :=
  ∃ s, t = '\x7b' :: (s ++ ['\x7d']) ∧ ListText (MemberText Key P) s ms

variable {β : Type} {P : List Char → α → Prop} {Q : List Char → β → Prop}

theorem MoreText.length_le {s : List Char} {as : List α}
    (h : MoreText P s as) {a : α} (ha : a ∈ as) : ∃ t, P t a ∧ t.length ≤ s.length := by
  induction h with
  | nil => cases ha
  | @cons w w' t rest b as _ _ first _ ih =>
    have hlength : (w ++ ',' :: (w' ++ (t ++ rest))).length =
        w.length + 1 + w'.length + t.length + rest.length := by
      simp only [List.length_append, List.length_cons]
      omega
    rcases List.mem_cons.mp ha with rfl | ha
    · exact ⟨t, first, by omega⟩
    · obtain ⟨u, hu, hle⟩ := ih ha
      exact ⟨u, hu, by omega⟩

theorem ListText.length_le {s : List Char} {as : List α}
    (h : ListText P s as) {a : α} (ha : a ∈ as) : ∃ t, P t a ∧ t.length ≤ s.length := by
  cases h with
  | nil => cases ha
  | @cons w t rest b as _ first more =>
    have hlength : (w ++ (t ++ rest)).length = w.length + t.length + rest.length := by
      simp only [List.length_append]
      omega
    rcases List.mem_cons.mp ha with rfl | ha
    · exact ⟨t, first, by omega⟩
    · obtain ⟨u, hu, hle⟩ := more.length_le ha
      exact ⟨u, hu, by omega⟩

theorem MoreText.map {s : List Char} {as : List α} (h : MoreText P s as) {f : α → β}
    (hf : ∀ t, ∀ a ∈ as, P t a → Q t (f a)) : MoreText Q s (as.map f) := by
  induction h with
  | nil space => exact .nil space
  | cons space space' first _ ih =>
    have hfirst := hf _ _ List.mem_cons_self first
    exact .cons space space' hfirst (ih fun t a ha => hf t a (List.mem_cons_of_mem _ ha))

theorem MoreText.exists_of_forall {s : List Char} {as : List α} (h : MoreText P s as)
    (hf : ∀ t, ∀ a ∈ as, P t a → ∃ b, Q t b) : ∃ bs, MoreText Q s bs := by
  induction h with
  | nil space => exact ⟨[], .nil space⟩
  | cons space space' first _ ih =>
    obtain ⟨b, hb⟩ := hf _ _ List.mem_cons_self first
    obtain ⟨bs, hbs⟩ := ih fun t a ha => hf t a (List.mem_cons_of_mem _ ha)
    exact ⟨b :: bs, .cons space space' hb hbs⟩

theorem ListText.map {s : List Char} {as : List α} (h : ListText P s as) {f : α → β}
    (hf : ∀ t, ∀ a ∈ as, P t a → Q t (f a)) : ListText Q s (as.map f) := by
  cases h with
  | nil space => exact .nil space
  | cons space first more =>
    have hfirst := hf _ _ List.mem_cons_self first
    exact .cons space hfirst (more.map fun t a ha => hf t a (List.mem_cons_of_mem _ ha))

theorem ListText.exists_of_forall {s : List Char} {as : List α} (h : ListText P s as)
    (hf : ∀ t, ∀ a ∈ as, P t a → ∃ b, Q t b) : ∃ bs, ListText Q s bs := by
  cases h with
  | nil space => exact ⟨[], .nil space⟩
  | cons space first more =>
    obtain ⟨b, hb⟩ := hf _ _ List.mem_cons_self first
    obtain ⟨bs, hbs⟩ := more.exists_of_forall fun t a ha => hf t a (List.mem_cons_of_mem _ ha)
    exact ⟨b :: bs, .cons space hb hbs⟩

theorem ListText.imp {P' : List Char → α → Prop} {s : List Char} {as : List α}
    (h : ListText P s as) (hP : ∀ t a, P t a → P' t a) : ListText P' s as := by
  have hmap := h.map (f := id) fun t a _ ha => hP t a ha
  rwa [List.map_id] at hmap

/-- Whatever ends a list, a comma or a bracket stands behind a piece. -/
theorem MoreText.endsNumeral {s : List Char} {as : List α} (h : MoreText P s as) {c : Char}
    (hc : continuesNumeral c = false) (r : List Char) : EndsNumeral (s ++ c :: r) := by
  cases h with
  | nil space => exact endsNumeral_append space (endsNumeral_cons hc r)
  | cons space =>
    rw [List.append_assoc]
    exact endsNumeral_append space (endsNumeral_cons (by decide) _)

end Lists

section Values

inductive ScalarText : List Char → Prop
  | null : ScalarText "null".toList
  | bool (b : Bool) : ScalarText (if b then "true" else "false").toList
  | number {t : List Char} (h : NumeralText t) : ScalarText t
  | string {t : List Char} (h : StringToken t) : ScalarText t

/-- The texts of values that are nested at most `depth` levels deep, from what the texts of scalars and
keys are. -/
inductive ValueText (Scalar : List Char → Prop) (Key : List Char → κ → Prop) :
    (depth : Nat) → List Char → Prop
  | scalar {depth : Nat} {t : List Char} (h : Scalar t) : ValueText Scalar Key depth t
  | array {depth : Nat} {t : List Char} {ts : List (List Char)} (items : ArrayText Eq t ts)
      (nested : ∀ u ∈ ts, ValueText Scalar Key depth u) : ValueText Scalar Key (depth + 1) t
  | object {depth : Nat} {t : List Char} {ms : List (κ × List Char)} (members : ObjectText Key Eq t ms)
      (nested : ∀ m ∈ ms, ValueText Scalar Key depth m.2) : ValueText Scalar Key (depth + 1) t

def AnyKey (name : List Char) (_ : Unit) : Prop := StringToken name

def JsonText : (depth : Nat) → List Char → Prop := ValueText ScalarText AnyKey

def IsJson (t : List Char) : Prop := ∃ depth, JsonText depth t

def IsObject (t : List Char) : Prop :=
  ∃ ms : List (Unit × List Char), ObjectText AnyKey Eq t ms

variable {Scalar : List Char → Prop} {Key : List Char → κ → Prop}

theorem ValueText.mono {depth depth' : Nat} {t : List Char} (h : ValueText Scalar Key depth t)
    (hle : depth ≤ depth') : ValueText Scalar Key depth' t := by
  induction h generalizing depth' with
  | scalar h => exact .scalar h
  | array items _ ih =>
    obtain ⟨depth', rfl⟩ := Nat.exists_eq_add_of_le' (Nat.le_of_add_left_le hle)
    exact .array items fun u hu => ih u hu (Nat.le_of_succ_le_succ hle)
  | object members _ ih =>
    obtain ⟨depth', rfl⟩ := Nat.exists_eq_add_of_le' (Nat.le_of_add_left_le hle)
    exact .object members fun m hm => ih m hm (Nat.le_of_succ_le_succ hle)

/-- A text is less nested than it is long. -/
theorem ValueText.of_length {depth : Nat} {t : List Char} (h : ValueText Scalar Key depth t) :
    ValueText Scalar Key t.length t := by
  induction h with
  | scalar h => exact .scalar h
  | @array depth t ts items _ ih =>
    obtain ⟨s, rfl, hs⟩ := items
    have hlength : ('[' :: (s ++ [']'])).length = s.length + 1 + 1 := by simp
    rw [hlength]
    refine .array ⟨s, rfl, hs⟩ fun u hu => (ih u hu).mono ?_
    obtain ⟨_, rfl, hle⟩ := hs.length_le hu
    omega
  | @object depth t ms members _ ih =>
    obtain ⟨s, rfl, hs⟩ := members
    have hlength : ('\x7b' :: (s ++ ['\x7d'])).length = s.length + 1 + 1 := by simp
    rw [hlength]
    refine .object ⟨s, rfl, hs⟩ fun m hm => (ih m hm).mono ?_
    obtain ⟨u, hu, hle⟩ := hs.length_le hm
    cases hu with
    | mk _ _ _ value =>
      subst value
      dsimp only
      simp only [List.length_append, List.length_cons] at hle
      omega

theorem ValueText.of_items {depth : Nat} {s : List Char} {ts : List (List Char)}
    (h : ListText (fun t u => t = u ∧ ValueText Scalar Key depth u) s ts) :
    ValueText Scalar Key (depth + 1) ('[' :: (s ++ [']'])) := by
  refine .array ⟨s, rfl, h.imp fun _ _ h => h.1⟩ fun u hu => ?_
  obtain ⟨_, ⟨_, hvalue⟩, _⟩ := h.length_le hu
  exact hvalue

theorem ValueText.of_members {depth : Nat} {s : List Char} {ms : List (κ × List Char)}
    (h : ListText (fun t m => MemberText Key Eq t m ∧ ValueText Scalar Key depth m.2) s ms) :
    ValueText Scalar Key (depth + 1) ('\x7b' :: (s ++ ['\x7d'])) := by
  refine .object ⟨s, rfl, h.imp fun _ _ h => h.1⟩ fun m hm => ?_
  obtain ⟨_, ⟨_, hvalue⟩, _⟩ := h.length_le hm
  exact hvalue

theorem ValueText.of_keyed {κ' : Type} {Key' : List Char → κ' → Prop} {depth : Nat} {s : List Char}
    {ms : List (κ' × List Char)} (hs : ListText (MemberText Key' Eq) s ms)
    (hkey : ∀ name k, Key' name k → ∃ k', Key name k')
    (hvalue : ∀ m ∈ ms, ValueText Scalar Key depth m.2) :
    ValueText Scalar Key (depth + 1) ('\x7b' :: (s ++ ['\x7d'])) := by
  have hmember (u : List Char) (m : κ' × List Char) (hm : m ∈ ms) (hu : MemberText Key' Eq u m) :
      ∃ n : κ × List Char, MemberText Key Eq u n ∧ ValueText Scalar Key depth n.2 := by
    obtain ⟨named, space, space', rfl⟩ := hu
    obtain ⟨k', hk'⟩ := hkey _ _ named
    exact ⟨(k', _), .mk hk' space space' rfl, hvalue _ hm⟩
  obtain ⟨ns, hns⟩ := hs.exists_of_forall hmember
  exact .of_members hns

theorem ValueText.imp {κ' : Type} {Scalar' : List Char → Prop} {Key' : List Char → κ' → Prop}
    {depth : Nat} {t : List Char} (h : ValueText Scalar Key depth t)
    (hscalar : ∀ t, Scalar t → Scalar' t) (hkey : ∀ name k, Key name k → ∃ k', Key' name k') :
    ValueText Scalar' Key' depth t := by
  induction h with
  | scalar h => exact .scalar (hscalar _ h)
  | array items _ ih => exact .array items ih
  | object members _ ih =>
    obtain ⟨s, rfl, hs⟩ := members
    exact .of_keyed hs hkey ih

end Values

end DocumentRest.Json
