import DocumentRest.Proofs.Json.Containers
import DocumentRest.Proofs.Json.Grammar
import DocumentRest.Proofs.Json.Settling
import Mathlib.Data.List.TakeWhile

namespace DocumentRest.Json

variable {α β σ κ : Type}

section Items

variable {item : Reader α} (ac : AfterComma)

def ItemComesTo (item : Reader α) (t : List Char) (o : Option α) : Prop :=
  StartsItem t ∧ ComesTo item t o

theorem comes_moreItems {s : List Char} {os : List (Option α)}
    (h : MoreText (ItemComesTo item) s os) {fuel : Nat} (hfuel : s.length < fuel) (r : List Char) :
    Comes (moreItems ac item fuel (s ++ ']' :: r)) (os.mapM id) r := by
  induction h generalizing fuel with
  | nil space =>
    obtain ⟨fuel, rfl⟩ := Nat.exists_eq_add_of_lt hfuel
    rw [moreItems, skipSpace_append space]
    rfl
  | @cons w w' t rest o os space space' first more ih =>
    obtain ⟨starts, hitem⟩ := first
    cases fuel with
    | zero => cases hfuel
    | succ fuel =>
      -- The comma alone pays for the fuel that the item takes.
      have hlength : rest.length < fuel := by
        simp only [List.length_append, List.length_cons] at hfuel
        omega
      have hskip : skipSpace (w' ++ (t ++ (rest ++ ']' :: r))) = t ++ (rest ++ ']' :: r) := by
        rw [skipSpace_append space', starts.skipSpace]
      have hread := hitem _ (more.endsNumeral (c := ']') (by decide) r)
      rw [moreItems, List.mapM_cons]
      simp only [List.append_assoc, List.cons_append, skipSpace_append space,
        skipSpace_cons (show isSpace ',' = false by decide), hskip]
      split
      · exact absurd ‹_› (starts.ne_end _ _)
      · exact hread.bind fun a _ => (ih hlength).bind fun as _ => rfl

theorem comes_items {s : List Char} {os : List (Option α)} (h : ListText (ItemComesTo item) s os)
    (r : List Char) : Comes (items ac item (s ++ ']' :: r)) (os.mapM id) r := by
  cases h with
  | nil space => exact items_nil space r
  | @cons w t rest o os space first more =>
    obtain ⟨starts, hitem⟩ := first
    have hfuel : rest.length < (rest ++ ']' :: r).length + 1 := by
      rw [List.length_append]
      omega
    have hread := hitem _ (more.endsNumeral (c := ']') (by decide) r)
    rw [List.append_assoc, List.append_assoc, items, skipSpace_append space, starts.skipSpace,
      List.mapM_cons]
    split
    · exact absurd ‹_› (starts.ne_nil _)
    · exact absurd ‹_› (starts.ne_end _ _)
    · exact hread.bind fun a _ => (comes_moreItems ac more hfuel r).bind fun as _ => rfl

theorem exists_of_mapM_eq_some {os : List (Option α)} {as : List α} (h : os.mapM id = some as) :
    ∀ o ∈ os, ∃ a, o = some a := by
  induction os generalizing as with
  | nil => exact List.forall_mem_nil _
  | cons o os ih =>
    rw [List.mapM_cons] at h
    obtain ⟨a, ha, h⟩ := Option.bind_eq_some_iff.mp h
    obtain ⟨as', has, _⟩ := Option.bind_eq_some_iff.mp h
    exact List.forall_mem_cons.mpr ⟨⟨a, ha⟩, ih has⟩

theorem reads_items {P : List Char → β → Prop} {s : List Char} {bs : List β} (h : ListText P s bs)
    {f : β → α} (hitem : ∀ t, ∀ b ∈ bs, P t b → StartsItem t ∧ Reads item t (f b))
    (r : List Char) : items ac item (s ++ ']' :: r) = .ok (bs.map f, r) := by
  have hcomes := comes_items ac (h.map (f := fun b => some (f b)) hitem) r
  have hall : (bs.map fun b => some (f b)).mapM id = some (bs.map f) := by
    clear h hitem hcomes
    induction bs with
    | nil => rfl
    | cons b bs ih => rw [List.map_cons, List.mapM_cons, ih]; rfl
  rw [hall] at hcomes
  exact hcomes

theorem ItemsText.moreText {s : List Char} {as : List α} (h : ItemsText item s as) :
    MoreText (fun t a => StartsItem t ∧ Reads item t a) s as := by
  induction h with
  | nil space => exact .nil space
  | cons space space' starts reads _ ih => exact .cons space space' ⟨starts, reads⟩ ih

theorem ItemsText.items_eq {w text rest : List Char} {a : α} {as : List α} (space : IsSpaceText w)
    (starts : StartsItem text) (reads : Reads item text a) (more : ItemsText item rest as)
    (r : List Char) : items ac item (w ++ (text ++ (rest ++ ']' :: r))) = .ok (a :: as, r) := by
  have hlist : ListText (fun t a => StartsItem t ∧ Reads item t a) (w ++ (text ++ rest)) (a :: as) :=
    .cons space ⟨starts, reads⟩ more.moreText
  have hread := reads_items ac hlist (f := id) (fun _ _ _ h => h) r
  rwa [List.map_id, List.append_assoc, List.append_assoc] at hread

end Items

section Members

variable {key : Reader κ} {member : κ → σ → Reader σ} (ac : AfterComma)

def actAll : List (σ → Option σ) → σ → Option σ
  | [], a => some a
  | act :: acts, a => (act a).bind (actAll acts)

theorem exists_of_actAll_eq_some {acts : List (σ → Option σ)} {a b : σ}
    (h : actAll acts a = some b) : ∀ act ∈ acts, ∃ c d, act c = some d := by
  induction acts generalizing a with
  | nil => exact List.forall_mem_nil _
  | cons act acts ih =>
    obtain ⟨c, hc, h⟩ := Option.bind_eq_some_iff.mp h
    exact List.forall_mem_cons.mpr ⟨⟨a, c, hc⟩, ih h⟩

/-- What a member makes of the state before it. -/
def MemberComesTo (key : Reader κ) (member : κ → σ → Reader σ) (t : List Char)
    (act : σ → Option σ) : Prop :=
  ∃ t', t = '"' :: t' ∧ ∀ a, ComesTo (fun s => key s >>= fun (k, r) => member k a r) t' (act a)

theorem memberComesTo {name w w' t : List Char} {o : Option κ} {act : κ → σ → Option σ}
    (hname : ∃ name', name = '"' :: name' ∧ ∀ r, Comes (key (name' ++ r)) o r)
    (hmember : ∀ k a, o = some k → ComesTo (member k a) (w ++ ':' :: (w' ++ t)) (act k a)) :
    MemberComesTo key member (name ++ (w ++ ':' :: (w' ++ t))) fun a => o.bind (act · a) := by
  obtain ⟨name', rfl, hkey⟩ := hname
  refine ⟨name' ++ (w ++ ':' :: (w' ++ t)), rfl, fun a r hr => ?_⟩
  dsimp only
  rw [List.append_assoc]
  exact (hkey _).bind fun k hk => hmember k a hk r hr

theorem comes_moreMembers {s : List Char} {acts : List (σ → Option σ)}
    (h : MoreText (MemberComesTo key member) s acts) {fuel : Nat} (hfuel : s.length < fuel) (a : σ)
    (r : List Char) :
    Comes (moreMembers ac key member fuel a (s ++ '\x7d' :: r))
      (actAll acts a) r := by
  induction h generalizing fuel a with
  | nil space =>
    obtain ⟨fuel, rfl⟩ := Nat.exists_eq_add_of_lt hfuel
    exact moreMembers_nil a space _ r
  | @cons w w' t rest act acts space space' first more ih =>
    obtain ⟨t, rfl, hmember⟩ := first
    cases fuel with
    | zero => cases hfuel
    | succ fuel =>
      have hlength : rest.length < fuel := by
        simp only [List.length_append, List.length_cons] at hfuel
        omega
      have hread := hmember a _ (more.endsNumeral (c := '\x7d') (by decide) r)
      simp only [List.append_assoc, List.cons_append]
      rw [moreMembers_cons a space space', actAll]
      exact hread.bind fun b _ => ih hlength b

theorem comes_members {s : List Char} {acts : List (σ → Option σ)}
    (h : ListText (MemberComesTo key member) s acts) (a : σ) (r : List Char) :
    Comes (members ac key member a (s ++ '\x7d' :: r))
      (actAll acts a) r := by
  cases h with
  | nil space => exact members_nil a space r
  | @cons w t rest act acts space first more =>
    obtain ⟨t, rfl, hmember⟩ := first
    have hfuel : rest.length < (rest ++ '\x7d' :: r).length + 1 := by
      rw [List.length_append]
      omega
    have hread := hmember a _ (more.endsNumeral (c := '\x7d') (by decide) r)
    simp only [List.append_assoc, List.cons_append]
    rw [members_cons a space, actAll]
    exact hread.bind fun b _ => comes_moreMembers ac more hfuel b r

theorem reads_members {P : List Char → β → Prop} {s : List Char} {bs : List β}
    (h : ListText P s bs) {step : β → σ → σ}
    (hmember : ∀ t, ∀ b ∈ bs, P t b → MemberComesTo key member t fun a => some (step b a)) (a : σ)
    (r : List Char) : members ac key member a (s ++ '\x7d' :: r) =
      .ok (bs.foldl (fun a b => step b a) a, r) := by
  have hcomes := comes_members ac (h.map (f := fun b a => some (step b a)) hmember) a r
  have hall : actAll (bs.map fun b a => some (step b a)) a =
      some (bs.foldl (fun a b => step b a) a) := by
    clear h hmember hcomes
    induction bs generalizing a with
    | nil => rfl
    | cons b bs ih => exact ih (step b a)
  rw [hall] at hcomes
  exact hcomes

end Members

section Sound

variable {item : Reader α} {key : Reader κ} {member : κ → σ → Reader σ} {ac : AfterComma}
  {P : List Char → β → Prop}

theorem exists_append_skipSpace (s : List Char) : ∃ w, IsSpaceText w ∧ s = w ++ skipSpace s :=
  ⟨s.takeWhile isSpace, fun _ hc => List.mem_takeWhile_imp hc,
    List.takeWhile_append_dropWhile.symm⟩

theorem exists_of_skipSpace_eq {s r : List Char} {c : Char} (h : skipSpace s = c :: r) :
    ∃ w, IsSpaceText w ∧ s = w ++ c :: r := by
  obtain ⟨w, hw, hs⟩ := exists_append_skipSpace s
  exact ⟨w, hw, h ▸ hs⟩

theorem IsSpaceText.append {w w' : List Char} (h : IsSpaceText w) (h' : IsSpaceText w') :
    IsSpaceText (w ++ w') :=
  List.forall_mem_append.mpr ⟨h, h'⟩

theorem exists_of_moreItems
    (hitem : ∀ s a r, item s = .ok (a, r) → ∃ w t b, IsSpaceText w ∧ s = w ++ (t ++ r) ∧ P t b)
    {fuel : Nat} {s r : List Char} {as : List α} (h : moreItems ac item fuel s = .ok (as, r)) :
    ∃ t bs, s = t ++ ']' :: r ∧ MoreText P t bs := by
  induction fuel generalizing s as with
  | zero => cases h
  | succ fuel ih =>
    rw [moreItems] at h
    split at h
    · cases h
    · rename_i hskip
      cases h
      obtain ⟨w, hw, rfl⟩ := exists_of_skipSpace_eq hskip
      exact ⟨w, [], rfl, .nil hw⟩
    · rename_i s' hskip
      obtain ⟨w, hw, rfl⟩ := exists_of_skipSpace_eq hskip
      obtain ⟨w', hw', hs'⟩ := exists_append_skipSpace s'
      split at h
      · cases h
      · obtain ⟨⟨a, r'⟩, ha, h⟩ := exists_of_bind_eq_ok h
        obtain ⟨⟨as', r''⟩, has, h⟩ := exists_of_bind_eq_ok h
        cases h
        obtain ⟨w'', t, b, hw'', ht, hb⟩ := hitem _ _ _ ha
        obtain ⟨t', bs, rfl, hbs⟩ := ih has
        rw [hs', ht]
        exact ⟨w ++ ',' :: ((w' ++ w'') ++ (t ++ t')), b :: bs, by simp,
          .cons hw (hw'.append hw'') hb hbs⟩
    · cases h

theorem exists_of_items
    (hitem : ∀ s a r, item s = .ok (a, r) → ∃ w t b, IsSpaceText w ∧ s = w ++ (t ++ r) ∧ P t b)
    {s r : List Char} {as : List α} (h : items ac item s = .ok (as, r)) :
    ∃ t bs, s = t ++ ']' :: r ∧ ListText P t bs := by
  obtain ⟨w, hw, hs⟩ := exists_append_skipSpace s
  unfold items at h
  split at h
  · cases h
  · rename_i hskip
    cases h
    rw [hs, hskip]
    exact ⟨w, [], rfl, .nil hw⟩
  · obtain ⟨⟨a, r'⟩, ha, h⟩ := exists_of_bind_eq_ok h
    obtain ⟨⟨as', r''⟩, has, h⟩ := exists_of_bind_eq_ok h
    cases h
    obtain ⟨w', t, b, hw', ht, hb⟩ := hitem _ _ _ ha
    obtain ⟨t', bs, rfl, hbs⟩ := exists_of_moreItems hitem has
    rw [hs, ht]
    exact ⟨(w ++ w') ++ (t ++ t'), b :: bs, by simp, .cons (hw.append hw') hb hbs⟩

theorem exists_of_moreMembers
    (hmember : ∀ s a k r b r', key s = .ok (k, r) → member k a r = .ok (b, r') →
      ∃ t x, '"' :: s = t ++ r' ∧ P t x)
    {fuel : Nat} {a b : σ} {s r : List Char}
    (h : moreMembers ac key member fuel a s = .ok (b, r)) :
    ∃ t xs, s = t ++ '\x7d' :: r ∧ MoreText P t xs := by
  induction fuel generalizing a s with
  | zero => cases h
  | succ fuel ih =>
    rw [moreMembers] at h
    split at h
    · cases h
    · rename_i hskip
      cases h
      obtain ⟨w, hw, rfl⟩ := exists_of_skipSpace_eq hskip
      exact ⟨w, [], rfl, .nil hw⟩
    · rename_i hskip
      obtain ⟨w, hw, rfl⟩ := exists_of_skipSpace_eq hskip
      split at h
      · cases h
      · cases h
      · rename_i hskip'
        obtain ⟨w', hw', rfl⟩ := exists_of_skipSpace_eq hskip'
        obtain ⟨⟨k, r'⟩, hk, h⟩ := exists_of_bind_eq_ok h
        obtain ⟨⟨c, r''⟩, hc, h⟩ := exists_of_bind_eq_ok h
        obtain ⟨t, x, ht, hx⟩ := hmember _ _ _ _ _ _ hk hc
        obtain ⟨t', xs, rfl, hxs⟩ := ih h
        rw [ht]
        exact ⟨w ++ ',' :: (w' ++ (t ++ t')), x :: xs, by simp, .cons hw hw' hx hxs⟩
      · cases h
    · cases h

theorem exists_of_members
    (hmember : ∀ s a k r b r', key s = .ok (k, r) → member k a r = .ok (b, r') →
      ∃ t x, '"' :: s = t ++ r' ∧ P t x)
    {a b : σ} {s r : List Char} (h : members ac key member a s = .ok (b, r)) :
    ∃ t xs, s = t ++ '\x7d' :: r ∧ ListText P t xs := by
  unfold members at h
  split at h
  · cases h
  · rename_i hskip
    cases h
    obtain ⟨w, hw, rfl⟩ := exists_of_skipSpace_eq hskip
    exact ⟨w, [], rfl, .nil hw⟩
  · rename_i hskip
    obtain ⟨w, hw, rfl⟩ := exists_of_skipSpace_eq hskip
    obtain ⟨⟨k, r'⟩, hk, h⟩ := exists_of_bind_eq_ok h
    obtain ⟨⟨c, r''⟩, hc, h⟩ := exists_of_bind_eq_ok h
    obtain ⟨t, x, ht, hx⟩ := hmember _ _ _ _ _ _ hk hc
    obtain ⟨t', xs, rfl, hxs⟩ := exists_of_moreMembers hmember h
    rw [ht]
    exact ⟨w ++ (t ++ t'), x :: xs, by simp, .cons hw hx hxs⟩
  · cases h

end Sound

end DocumentRest.Json
