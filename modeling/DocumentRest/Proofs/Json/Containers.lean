import DocumentRest.Json.Container
import DocumentRest.Proofs.Json.Reading

namespace DocumentRest.Json

variable {α σ κ : Type} {ac : AfterComma}

section Items

variable {item : Reader α}

def StartsItem (text : List Char) : Prop :=
  ∃ c s, text = c :: s ∧ isSpace c = false ∧ c ≠ ']'

inductive ItemsText (item : Reader α) : List Char → List α → Prop
  | nil {w : List Char} (space : IsSpaceText w) : ItemsText item w []
  | cons {w w' text rest : List Char} {a : α} {as : List α} (space : IsSpaceText w)
      (space' : IsSpaceText w') (starts : StartsItem text) (reads : Reads item text a)
      (more : ItemsText item rest as) :
      ItemsText item (w ++ ',' :: (w' ++ (text ++ rest))) (a :: as)

theorem StartsItem.skipSpace {text : List Char} (h : StartsItem text) (s : List Char) :
    skipSpace (text ++ s) = text ++ s := by
  obtain ⟨c, r, rfl, hc, _⟩ := h
  exact skipSpace_cons hc _

theorem StartsItem.ne_end {text : List Char} (h : StartsItem text) (s r : List Char) :
    text ++ s ≠ ']' :: r := by
  obtain ⟨c, t, rfl, _, hc⟩ := h
  rintro heq
  exact hc (List.cons.inj heq).1

theorem StartsItem.ne_nil {text : List Char} (h : StartsItem text) (s : List Char) :
    text ++ s ≠ [] := by
  obtain ⟨c, t, rfl, _, _⟩ := h
  exact List.cons_ne_nil _ _

theorem items_nil {w : List Char} (hw : IsSpaceText w) (r : List Char) :
    items ac item (w ++ ']' :: r) = .ok ([], r) := by
  rw [items, skipSpace_append hw]
  rfl

theorem gives_moreItems {P : α → Prop} (h : Gives item P) (fuel : Nat) :
    Gives (moreItems ac item fuel) fun as => ∀ a ∈ as, P a := by
  induction fuel with
  | zero =>
    intro s as r hs
    cases hs
  | succ fuel ih =>
    intro s as r hs
    rw [moreItems] at hs
    split at hs
    · cases hs
    · cases hs
      exact List.forall_mem_nil _
    · split at hs
      · cases hs
      · obtain ⟨⟨a, r'⟩, ha, hs⟩ := exists_of_bind_eq_ok hs
        obtain ⟨⟨as', r''⟩, has, hs⟩ := exists_of_bind_eq_ok hs
        cases hs
        exact List.forall_mem_cons.mpr ⟨h _ _ _ ha, ih _ _ _ has⟩
    · cases hs

theorem gives_items {P : α → Prop} (h : Gives item P) :
    Gives (items ac item) fun as => ∀ a ∈ as, P a := by
  intro s as r hs
  unfold items at hs
  split at hs
  · cases hs
  · cases hs
    exact List.forall_mem_nil _
  · obtain ⟨⟨a, r'⟩, ha, hs⟩ := exists_of_bind_eq_ok hs
    obtain ⟨⟨as', r''⟩, has, hs⟩ := exists_of_bind_eq_ok hs
    cases hs
    exact List.forall_mem_cons.mpr ⟨h _ _ _ ha, gives_moreItems h _ _ _ _ has⟩

end Items

section Members

variable {key : Reader κ} {member : κ → σ → Reader σ}

inductive MembersText (key : Reader κ) (member : κ → σ → Reader σ) : σ → List Char → σ → Prop
  | nil {a : σ} {w : List Char} (space : IsSpaceText w) : MembersText key member a w a
  | cons {a b c : σ} {w w' name text rest : List Char} {k : κ} (space : IsSpaceText w)
      (space' : IsSpaceText w') (named : ∀ r, key (name ++ r) = .ok (k, r))
      (reads : Reads (member k a) text b) (more : MembersText key member b rest c) :
      MembersText key member a (w ++ ',' :: (w' ++ '"' :: (name ++ (text ++ rest)))) c

theorem MembersText.endsNumeral {a b : σ} {text : List Char}
    (h : MembersText key member a text b) (r : List Char) :
    EndsNumeral (text ++ '\x7d' :: r) := by
  cases h with
  | nil space => exact endsNumeral_append space (endsNumeral_cons (by decide) r)
  | cons space =>
    rw [List.append_assoc]
    exact endsNumeral_append space (endsNumeral_cons (by decide) _)

theorem moreMembers_nil (a : σ) {w : List Char} (hw : IsSpaceText w) (fuel : Nat) (r : List Char) :
    moreMembers ac key member (fuel + 1) a (w ++ '\x7d' :: r) = .ok (a, r) := by
  rw [moreMembers, skipSpace_append hw]
  rfl

theorem moreMembers_cons (a : σ) {w w' : List Char} (hw : IsSpaceText w) (hw' : IsSpaceText w')
    (fuel : Nat) (s : List Char) :
    moreMembers ac key member (fuel + 1) a (w ++ ',' :: (w' ++ '"' :: s)) =
      ((key s >>= fun p => member p.1 a p.2) >>= fun p =>
        moreMembers ac key member fuel p.1 p.2) := by
  rw [moreMembers, bind_assoc]
  simp only [skipSpace_append hw, skipSpace_append hw',
    skipSpace_cons (show isSpace ',' = false by decide),
    skipSpace_cons (show isSpace '"' = false by decide)]

theorem members_nil (a : σ) {w : List Char} (hw : IsSpaceText w) (r : List Char) :
    members ac key member a (w ++ '\x7d' :: r) = .ok (a, r) := by
  rw [members, skipSpace_append hw]
  rfl

theorem members_cons (a : σ) {w : List Char} (hw : IsSpaceText w) (s : List Char) :
    members ac key member a (w ++ '"' :: s) =
      ((key s >>= fun p => member p.1 a p.2) >>= fun p =>
        moreMembers ac key member (p.2.length + 1) p.1 p.2) := by
  rw [members, bind_assoc]
  simp only [skipSpace_append hw, skipSpace_cons (show isSpace '"' = false by decide)]

theorem MembersText.moreMembers_eq {a b : σ} {text : List Char}
    (h : MembersText key member a text b) {fuel : Nat} (hfuel : text.length < fuel)
    (r : List Char) : moreMembers ac key member fuel a (text ++ '\x7d' :: r) = .ok (b, r) := by
  induction h generalizing fuel with
  | nil space =>
    obtain ⟨fuel, rfl⟩ := Nat.exists_eq_add_of_lt hfuel
    exact moreMembers_nil _ space _ r
  | @cons a b c w w' name text rest k space space' named reads more ih =>
    cases fuel with
    | zero => cases hfuel
    | succ fuel =>
      have hlength : rest.length < fuel := by
        simp only [List.length_append, List.length_cons] at hfuel
        omega
      have hmember := reads _ (more.endsNumeral r)
      simp only [List.append_assoc, List.cons_append]
      rw [moreMembers_cons a space space', named]
      show (member k a (text ++ (rest ++ '\x7d' :: r)) >>= _) = _
      rw [hmember]
      exact ih hlength

/-- An object is read member by member, from behind its opening brace. -/
theorem MembersText.members_eq {a b c : σ} {w name text rest : List Char} {k : κ}
    (space : IsSpaceText w) (named : ∀ r, key (name ++ r) = .ok (k, r))
    (reads : Reads (member k a) text b) (more : MembersText key member b rest c) (r : List Char) :
    members ac key member a (w ++ '"' :: (name ++ (text ++ (rest ++ '\x7d' :: r)))) =
      .ok (c, r) := by
  have hmember := reads _ (more.endsNumeral r)
  have hfuel : rest.length < (rest ++ '\x7d' :: r).length + 1 := by
    rw [List.length_append]
    omega
  rw [members_cons a space, named]
  show (member k a (text ++ (rest ++ '\x7d' :: r)) >>= _) = _
  rw [hmember]
  exact more.moreMembers_eq hfuel r

theorem gives_moreMembers {I : σ → Prop} (h : ∀ k a, I a → Gives (member k a) I) (fuel : Nat)
    {a : σ} (ha : I a) : Gives (moreMembers ac key member fuel a) I := by
  induction fuel generalizing a with
  | zero =>
    intro s b r hs
    cases hs
  | succ fuel ih =>
    intro s b r hs
    rw [moreMembers] at hs
    split at hs
    · cases hs
    · cases hs
      exact ha
    · split at hs
      · cases hs
      · cases hs
      · obtain ⟨⟨k, r'⟩, _, hs⟩ := exists_of_bind_eq_ok hs
        obtain ⟨⟨b', r''⟩, hb, hs⟩ := exists_of_bind_eq_ok hs
        exact ih (h k a ha _ _ _ hb) _ _ _ hs
      · cases hs
    · cases hs

theorem gives_members {I : σ → Prop} (h : ∀ k a, I a → Gives (member k a) I) {a : σ} (ha : I a) :
    Gives (members ac key member a) I := by
  intro s b r hs
  unfold members at hs
  split at hs
  · cases hs
  · cases hs
    exact ha
  · obtain ⟨⟨k, r'⟩, _, hs⟩ := exists_of_bind_eq_ok hs
    obtain ⟨⟨b', r''⟩, hb, hs⟩ := exists_of_bind_eq_ok hs
    exact gives_moreMembers h _ (h k a ha _ _ _ hb) _ _ _ hs
  · cases hs

end Members

end DocumentRest.Json
