import DocumentRest.Json.Writer
import DocumentRest.Proofs.Json.ListTexts
import DocumentRest.Proofs.Json.Values

namespace DocumentRest.Json

variable {σ : Type} {depth : Nat}

theorem isSpaceText_newLine (l : Layout) : IsSpaceText l.newLine := by
  cases l with
  | compact => exact isSpaceText_nil
  | indented depth =>
    refine List.forall_mem_cons.mpr ⟨by decide, fun c hc => ?_⟩
    rw [List.eq_of_mem_replicate hc]
    decide

theorem colon_inner (l : Layout) : l.inner.colon = l.colon := by
  cases l <;> rfl

section Scalars

theorem skipSpace_text {a : Scalar} (hfloat : ¬ a.IsFloat) (r : List Char) :
    skipSpace (a.text ++ r) = a.text ++ r := by
  obtain ⟨c, s, hs, hc⟩ := exists_text_cons hfloat
  rw [hs]
  exact skipSpace_cons (startsScalar_iff.mp hc).1 _

theorem text_append_ne {a : Scalar} (hfloat : ¬ a.IsFloat) {d : Char} (hd : startsScalar d = false)
    (r s : List Char) : a.text ++ r ≠ d :: s := by
  obtain ⟨c, t, ht, hc⟩ := exists_text_cons hfloat
  rw [ht]
  rintro ⟨⟩
  rw [hc] at hd
  cases hd

theorem reads_write_scalar {a : Scalar} (hfits : a.Fits) (hfloat : ¬ a.IsFloat) (l : Layout) :
    Reads (Value.read depth) ((Value.scalar a).write l) (.scalar a) := by
  intro r hr
  have hscalar (inner : Option (Reader Value)) :
      valueWith inner (a.text ++ r) = .ok (.scalar a, r) := by
    unfold valueWith
    rw [skipSpace_text hfloat]
    split
    · exact absurd ‹_› (text_append_ne hfloat (by decide) _ _)
    · exact absurd ‹_› (text_append_ne hfloat (by decide) _ _)
    · exact absurd ‹_› (text_append_ne hfloat (by decide) _ _)
    · exact absurd ‹_› (text_append_ne hfloat (by decide) _ _)
    · rw [reads_scalar hfits hfloat r hr]
      rfl
  rw [Value.write]
  cases depth with
  | zero => exact hscalar none
  | succ depth => exact hscalar _

end Scalars

section Arrays

theorem Value.FloatFree.startsItem {v : Value} (h : v.FloatFree) (l : Layout) :
    StartsItem (v.write l) := by
  cases h with
  | @scalar a ha =>
    obtain ⟨c, s, hs, hc⟩ := exists_text_cons ha
    obtain ⟨hspace, _, hend, _⟩ := startsScalar_iff.mp hc
    exact ⟨c, s, hs, hspace, hend⟩
  | @array vs _ =>
    cases vs with
    | nil => exact ⟨'[', _, rfl, by decide, by decide⟩
    | cons v vs => exact ⟨'[', _, rfl, by decide, by decide⟩
  | @object ms _ =>
    cases ms with
    | nil => exact ⟨'\x7b', _, rfl, by decide, by decide⟩
    | cons m ms => exact ⟨'\x7b', _, rfl, by decide, by decide⟩

theorem itemsText_writeItems (l l' : Layout) {vs : List Value} (hfree : ∀ v ∈ vs, v.FloatFree)
    (hreads : ∀ v ∈ vs, Reads (Value.read depth) (v.write l) v) :
    ItemsText (Value.read depth) (Value.writeItems l vs ++ l'.newLine) vs := by
  induction vs with
  | nil => exact .nil (isSpaceText_newLine l')
  | cons v vs ih =>
    obtain ⟨hv, hvs⟩ := List.forall_mem_cons.mp hreads
    obtain ⟨hvfree, hvsfree⟩ := List.forall_mem_cons.mp hfree
    have htext : Value.writeItems l (v :: vs) ++ l'.newLine =
        [] ++ ',' :: (l.newLine ++ (v.write l ++ (Value.writeItems l vs ++ l'.newLine))) := by
      simp only [Value.writeItems, List.append_assoc, List.cons_append, List.nil_append]
    rw [htext]
    exact .cons isSpaceText_nil (isSpaceText_newLine l) (hvfree.startsItem l) hv (ih hvsfree hvs)

theorem reads_write_array (l : Layout) {vs : List Value} (hfree : ∀ v ∈ vs, v.FloatFree)
    (hreads : ∀ v ∈ vs, Reads (Value.read depth) (v.write l.inner) v) :
    Reads (Value.read (depth + 1)) ((Value.array vs).write l) (.array vs) := by
  intro r _
  have hread {s : List Char} (h : items .whenRead (Value.read depth) s = .ok (vs, r)) :
      Value.read (depth + 1) ('[' :: s) = .ok (.array vs, r) := by
    show (items .whenRead (Value.read depth) s >>= _) = _
    rw [h]
    rfl
  cases vs with
  | nil => exact hread (items_nil isSpaceText_nil r)
  | cons v vs =>
    obtain ⟨hv, hvs⟩ := List.forall_mem_cons.mp hreads
    obtain ⟨hvfree, hvsfree⟩ := List.forall_mem_cons.mp hfree
    have htext : (Value.array (v :: vs)).write l ++ r =
        '[' :: (l.inner.newLine ++ (v.write l.inner ++
          (Value.writeItems l.inner vs ++ l.newLine ++ ']' :: r))) := by
      simp only [Value.write, List.append_assoc, List.cons_append, List.nil_append]
    rw [htext]
    exact hread ((itemsText_writeItems _ l hvsfree hvs).items_eq .whenRead (isSpaceText_newLine _)
      (hvfree.startsItem _) hv r)

end Arrays

section Objects

inductive MembersRead (member : String → σ → Reader σ) (l : Layout) :
    σ → List (String × Value) → σ → Prop
  | nil {a : σ} : MembersRead member l a [] a
  | cons {a b c : σ} {key : String} {v : Value} {ms : List (String × Value)}
      (reads : Reads (member key a) (l.colon ++ v.write l) b) (more : MembersRead member l b ms c) :
      MembersRead member l a ((key, v) :: ms) c

variable {member : String → σ → Reader σ} {l : Layout} {a b : σ} {ms : List (String × Value)}

theorem stringRest_name (key : String) (r : List Char) :
    stringRest (key.toList.flatMap escapeChar ++ ['"'] ++ r) = .ok (key, r) := by
  rw [List.append_assoc]
  exact stringRest_escaped key r

theorem MembersRead.membersText (h : MembersRead member l a ms b) (l' : Layout) :
    MembersText stringRest member a (Value.writeMembers l ms ++ l'.newLine) b := by
  induction h with
  | nil => exact .nil (isSpaceText_newLine l')
  | @cons a b c key v ms reads _ ih =>
    have htext : Value.writeMembers l ((key, v) :: ms) ++ l'.newLine =
        [] ++ ',' :: (l.newLine ++ '"' :: (key.toList.flatMap escapeChar ++ ['"'] ++
          (l.colon ++ v.write l ++ (Value.writeMembers l ms ++ l'.newLine)))) := by
      simp only [Value.writeMembers, writeString, List.append_assoc, List.cons_append,
        List.nil_append]
    rw [htext]
    exact .cons isSpaceText_nil (isSpaceText_newLine l) (stringRest_name key) reads ih

theorem MembersRead.members_eq (h : MembersRead member l.inner a ms b) (r : List Char) :
    ∃ s, (Value.object ms).write l ++ r = '\x7b' :: s ∧
      members .whenRead stringRest member a s = .ok (b, r) := by
  cases h with
  | nil => exact ⟨'\x7d' :: r, rfl, members_nil a isSpaceText_nil r⟩
  | @cons _ a' _ key v ms reads more =>
    have htext : (Value.object ((key, v) :: ms)).write l ++ r =
        '\x7b' :: (l.inner.newLine ++ '"' :: (key.toList.flatMap escapeChar ++ ['"'] ++
          (l.inner.colon ++ v.write l.inner ++
            (Value.writeMembers l.inner ms ++ l.newLine ++ '\x7d' :: r)))) := by
      simp only [Value.write, writeString, colon_inner, List.append_assoc, List.cons_append,
        List.nil_append]
    exact ⟨_, htext, (more.membersText l).members_eq (isSpaceText_newLine _) (stringRest_name key)
      reads r⟩

theorem read_space {w : List Char} (hw : IsSpaceText w) (s : List Char) :
    Value.read depth (w ++ s) = Value.read depth s := by
  cases depth <;> simp only [Value.read, valueWith, skipSpace_append hw]

theorem reads_addMember (l : Layout) {key : String} {v : Value} (hlt : ∀ m ∈ ms, m.1 < key)
    (hread : Reads (Value.read depth) (v.write l) v) :
    Reads (addMember (Value.read depth) key ms) (l.colon ++ v.write l) (ms ++ [(key, v)]) := by
  intro r hr
  have hcolon : ∃ w, IsSpaceText w ∧ l.colon = ':' :: w := by
    cases l with
    | compact => exact ⟨[], isSpaceText_nil, rfl⟩
    | indented _ => exact ⟨[' '], List.forall_mem_singleton.mpr rfl, rfl⟩
  obtain ⟨w, hw, hcolon⟩ := hcolon
  rw [hcolon, List.cons_append, List.cons_append, List.append_assoc]
  show (Value.read depth (w ++ (v.write l ++ r)) >>= _) = _
  rw [read_space hw, hread r hr, ← insertMember_of_lt hlt]
  rfl

theorem membersRead_addMember (acc : List (String × Value)) (horder : InKeyOrder (acc ++ ms))
    (hreads : ∀ m ∈ ms, Reads (Value.read depth) (m.2.write l) m.2) :
    MembersRead (addMember (Value.read depth)) l acc ms (acc ++ ms) := by
  -- All members so far stand before those to come, so each goes to the end.
  induction ms generalizing acc with
  | nil =>
    rw [List.append_nil]
    exact .nil
  | cons m ms ih =>
    obtain ⟨key, v⟩ := m
    obtain ⟨hv, hms⟩ := List.forall_mem_cons.mp hreads
    have hlt : ∀ m ∈ acc, m.1 < key := fun m hm =>
      (List.pairwise_append.mp horder).2.2 m hm (key, v) List.mem_cons_self
    have happend : acc ++ (key, v) :: ms = acc ++ [(key, v)] ++ ms := by
      rw [List.append_assoc, List.singleton_append]
    rw [happend] at horder ⊢
    exact .cons (reads_addMember l hlt hv) (ih _ horder hms)

theorem reads_write_object (l : Layout) (horder : InKeyOrder ms)
    (hreads : ∀ m ∈ ms, Reads (Value.read depth) (m.2.write l.inner) m.2) :
    Reads (Value.read (depth + 1)) ((Value.object ms).write l) (.object ms) := by
  intro r _
  obtain ⟨s, htext, hmembers⟩ := (membersRead_addMember [] horder hreads).members_eq r
  rw [htext]
  show (members .whenRead stringRest (addMember (Value.read depth)) [] s >>= _) = _
  rw [hmembers]
  rfl

end Objects

/-- A value without floats is read from what it is written as, wherever it stands. -/
theorem reads_write {v : Value} (h : v.Readable depth) (hfree : v.FloatFree) (l : Layout) :
    Reads (Value.read depth) (v.write l) v := by
  induction h generalizing l with
  | scalar fits => exact reads_write_scalar fits (Value.floatFree_scalar.mp hfree) l
  | array _ ih =>
    have hvs := Value.floatFree_array.mp hfree
    exact reads_write_array l hvs fun v hv => ih v hv (hvs v hv) _
  | object order _ ih =>
    have hms := Value.floatFree_object.mp hfree
    exact reads_write_object l order fun m hm => ih m hm (hms m hm) _

end DocumentRest.Json
