import DocumentRest.Proofs.Json.ListTexts
import DocumentRest.Proofs.Json.ScalarTexts
import DocumentRest.Proofs.Json.Values

namespace DocumentRest.Json

variable {α : Type}

section Space

def IgnoresSpace (read : Reader α) : Prop :=
  ∀ w s, IsSpaceText w → read (w ++ s) = read s

theorem ComesTo.behind_space {read : Reader α} {t w : List Char} {o : Option α}
    (h : ComesTo read t o) (hread : IgnoresSpace read) (hw : IsSpaceText w) :
    ComesTo read (w ++ t) o := by
  intro r hr
  rw [List.append_assoc, hread w _ hw]
  exact h r hr

theorem colon_append {w : List Char} (hw : IsSpaceText w) (s : List Char) :
    colon (w ++ ':' :: s) = .ok s := by
  rw [colon, skipSpace_append hw]
  rfl

theorem exists_of_colon {s r : List Char} (h : colon s = .ok r) :
    ∃ w, IsSpaceText w ∧ s = w ++ ':' :: r := by
  unfold colon at h
  split at h
  · cases h
  · rename_i hskip
    cases h
    exact exists_of_skipSpace_eq hskip
  · cases h

theorem ignoresSpace_valueWith (inner : Option (Reader Value)) : IgnoresSpace (valueWith inner) := by
  intro w s hw
  unfold valueWith
  rw [skipSpace_append hw]

theorem ignoresSpace_read (depth : Nat) : IgnoresSpace (Value.read depth) := by
  cases depth <;> exact ignoresSpace_valueWith _

theorem ignoresSpace_skipWith (inner : Reader Unit) : IgnoresSpace (skipWith inner) := by
  intro w s hw
  unfold skipWith
  rw [skipSpace_append hw]

end Space

section Scalars

theorem ScalarText.skipSpace {t : List Char} (h : ScalarText t) (r : List Char) :
    skipSpace (t ++ r) = t ++ r := by
  obtain ⟨c, s, rfl, hc⟩ := h.starts
  exact skipSpace_cons (startsScalar_iff.mp hc).1 _

theorem ScalarText.ne_cons {t : List Char} (h : ScalarText t) {c : Char}
    (hc : startsScalar c = false) (r s : List Char) : t ++ r ≠ c :: s := by
  obtain ⟨d, t, rfl, hd⟩ := h.starts
  rintro ⟨⟩
  rw [hc] at hd
  cases hd

theorem valueWith_scalar (inner : Option (Reader Value)) {t : List Char} (h : ScalarText t)
    (r : List Char) : valueWith inner (t ++ r) =
      (scalar (t ++ r)).map fun (a, r) => (.scalar a, r) := by
  unfold valueWith
  rw [h.skipSpace]
  split
  · exact absurd ‹_› (h.ne_cons (by decide) _ _)
  · exact absurd ‹_› (h.ne_cons (by decide) _ _)
  · exact absurd ‹_› (h.ne_cons (by decide) _ _)
  · exact absurd ‹_› (h.ne_cons (by decide) _ _)
  · cases scalar (t ++ r) <;> rfl

theorem skipWith_scalar (inner : Reader Unit) {t : List Char} (h : ScalarText t)
    (r : List Char) : skipWith inner (t ++ r) = skipScalar (t ++ r) := by
  unfold skipWith
  rw [h.skipSpace]
  split
  · exact absurd ‹_› (h.ne_cons (by decide) _ _)
  · exact absurd ‹_› (h.ne_cons (by decide) _ _)
  · rfl

end Scalars

theorem JsonText.startsItem {depth : Nat} {t : List Char} (h : JsonText depth t) :
    StartsItem t := by
  cases h with
  | scalar h =>
    obtain ⟨c, s, rfl, hc⟩ := h.starts
    obtain ⟨hspace, _, hend, _⟩ := startsScalar_iff.mp hc
    exact ⟨c, s, rfl, hspace, hend⟩
  | array items =>
    obtain ⟨s, rfl, _⟩ := items
    exact ⟨'[', _, rfl, by decide, by decide⟩
  | object members =>
    obtain ⟨s, rfl, _⟩ := members
    exact ⟨'\x7b', _, rfl, by decide, by decide⟩

theorem StringToken.comes {name : List Char} (h : StringToken name) :
    ∃ o, (∀ key, o = some key → StringText name key) ∧
      ∃ name', name = '"' :: name' ∧ ∀ r, Comes (stringRest (name' ++ r)) o r := by
  obtain ⟨s, ns, rfl, hs⟩ := h
  obtain ⟨o, ho, hcomes⟩ := comes_stringRest hs
  refine ⟨o, fun key hkey => ⟨s, rfl, (ho key).mp hkey⟩, s ++ ['"'], rfl, fun r => ?_⟩
  rw [List.append_assoc]
  exact hcomes r

section Reading

theorem comesTo_addMember {value : Reader Value} (hvalue : IgnoresSpace value) {w w' t : List Char}
    (hw : IsSpaceText w) (hw' : IsSpaceText w') {o : Option Value} (ht : ComesTo value t o)
    (key : String) (ms : List (String × Value)) :
    ComesTo (addMember value key ms) (w ++ ':' :: (w' ++ t)) (o.map (insertMember key · ms)) := by
  intro r hr
  have hread := ht.behind_space hvalue hw' r hr
  unfold addMember
  rw [List.append_assoc, List.cons_append, colon_append hw]
  exact hread.bind_pure (insertMember key · ms)

theorem comesTo_valueWith_scalar (inner : Option (Reader Value)) {t : List Char}
    (h : ScalarText t) {o : Option Scalar} (ho : ComesTo scalar t o) :
    ComesTo (valueWith inner) t (o.map .scalar) := by
  intro r hr
  rw [valueWith_scalar inner h]
  exact (ho r hr).map Value.scalar

theorem comesTo_valueWith_array {value : Reader Value} {s : List Char} {os : List (Option Value)}
    (h : ListText (ItemComesTo value) s os) :
    ComesTo (valueWith (some value)) ('[' :: (s ++ [']'])) ((os.mapM id).map .array) := by
  intro r _
  have hitems := (comes_items .whenRead h r).bind_pure Value.array
  rw [List.cons_append, List.append_assoc]
  exact hitems

theorem comesTo_valueWith_object {value : Reader Value} {s : List Char}
    {acts : List (List (String × Value) → Option (List (String × Value)))}
    (h : ListText (MemberComesTo stringRest (addMember value)) s acts) :
    ComesTo (valueWith (some value)) ('\x7b' :: (s ++ ['\x7d']))
      ((actAll acts []).map .object) := by
  intro r _
  have hmembers := (comes_members .whenRead h [] r).bind_pure Value.object
  rw [List.cons_append, List.append_assoc]
  exact hmembers

/-- The texts that are read: their strings spell texts, and their numbers are not out of range. -/
def ReadableText : (depth : Nat) → List Char → Prop := ValueText ReadableScalar StringText

/-- It is settled what is read from a text, and it is the same for all depths that suffice. -/
def IsSettled (depth : Nat) (t : List Char) : Prop :=
  ∃ o, (∀ v, o = some v → ReadableText depth t) ∧ ∀ d, depth ≤ d → ComesTo (Value.read d) t o

theorem isSettled_array {depth : Nat} {s : List Char} {ts : List (List Char)} (hs : ListText Eq s ts)
    (hitem : ∀ u ∈ ts, StartsItem u ∧ IsSettled depth u) :
    IsSettled (depth + 1) ('[' :: (s ++ [']'])) := by
  have hcomes (u u' : List Char) (hu' : u' ∈ ts) (heq : u = u') :
      ∃ o, (∀ v, o = some v → ReadableText depth u) ∧
        ∀ d, depth ≤ d → ItemComesTo (Value.read d) u o := by
    subst heq
    obtain ⟨starts, o, hreadable, ho⟩ := hitem u hu'
    exact ⟨o, hreadable, fun d hd => ⟨starts, ho d hd⟩⟩
  obtain ⟨os, hos⟩ := hs.exists_of_forall hcomes
  refine ⟨(os.mapM id).map .array, fun v hv => ?_, fun d hd => ?_⟩
  · obtain ⟨vs, hvs, _⟩ := Option.map_eq_some_iff.mp hv
    have hall := exists_of_mapM_eq_some hvs
    obtain ⟨us, hus⟩ := hos.exists_of_forall (Q := fun u u' => u = u' ∧ ReadableText depth u')
      fun u o ho hu => by
        obtain ⟨w, hw⟩ := hall o ho
        exact ⟨u, rfl, hu.1 w hw⟩
    exact ValueText.of_items hus
  · obtain ⟨d, rfl⟩ := Nat.exists_eq_add_of_le' (Nat.le_of_add_left_le hd)
    exact comesTo_valueWith_array (hos.imp fun u o ho => ho.2 d (Nat.le_of_succ_le_succ hd))

theorem exists_act_of_isSettled {depth : Nat} {u : List Char} {m : Unit × List Char}
    (hu : MemberText AnyKey Eq u m) (h : IsSettled depth m.2) :
    ∃ act, (∀ a b, act a = some b →
        ∃ m : String × List Char, MemberText StringText Eq u m ∧ ReadableText depth m.2) ∧
      ∀ d, depth ≤ d → MemberComesTo stringRest (addMember (Value.read d)) u act := by
  obtain ⟨named, space, space', rfl⟩ := hu
  obtain ⟨okey, hspells, hname⟩ := StringToken.comes named
  obtain ⟨o, hreadable, ho⟩ := h
  refine ⟨fun ms => okey.bind fun key => o.map (insertMember key · ms), fun a b hb => ?_,
    fun d hd => ?_⟩
  · obtain ⟨key, hkey, hb⟩ := Option.bind_eq_some_iff.mp hb
    obtain ⟨v, hv, _⟩ := Option.map_eq_some_iff.mp hb
    exact ⟨(key, _), .mk (hspells key hkey) space space' rfl, hreadable v hv⟩
  · apply memberComesTo hname
    intro key ms _
    exact comesTo_addMember (ignoresSpace_read d) space space' (ho d hd) key ms

theorem isSettled_object {depth : Nat} {s : List Char} {ms : List (Unit × List Char)}
    (hs : ListText (MemberText AnyKey Eq) s ms) (hmember : ∀ m ∈ ms, IsSettled depth m.2) :
    IsSettled (depth + 1) ('\x7b' :: (s ++ ['\x7d'])) := by
  obtain ⟨acts, hacts⟩ :=
    hs.exists_of_forall fun u m hm hu => exists_act_of_isSettled hu (hmember m hm)
  refine ⟨(actAll acts []).map .object, fun v hv => ?_, fun d hd => ?_⟩
  · obtain ⟨ms', hms', _⟩ := Option.map_eq_some_iff.mp hv
    have hall := exists_of_actAll_eq_some hms'
    obtain ⟨ns, hns⟩ := hacts.exists_of_forall
      (Q := fun u (m : String × List Char) => MemberText StringText Eq u m ∧ ReadableText depth m.2)
      fun u act hact hu => by
        obtain ⟨a, b, hb⟩ := hall act hact
        exact hu.1 a b hb
    exact ValueText.of_members hns
  · obtain ⟨d, rfl⟩ := Nat.exists_eq_add_of_le' (Nat.le_of_add_left_le hd)
    exact comesTo_valueWith_object (hacts.imp fun u act hu => hu.2 d (Nat.le_of_succ_le_succ hd))

/-- All that the grammar allows is settled. -/
theorem isSettled_of_jsonText {depth : Nat} {t : List Char} (h : JsonText depth t) :
    IsSettled depth t := by
  induction h with
  | scalar h =>
    obtain ⟨o, _, ho⟩ := settles_scalar h
    refine ⟨o.map .scalar, fun v hv => ?_, fun d _ => ?_⟩
    · obtain ⟨a, rfl, _⟩ := Option.map_eq_some_iff.mp hv
      exact .scalar ((readableScalar_iff h).mpr ⟨_, ho⟩)
    · cases d <;> exact comesTo_valueWith_scalar _ h ho
  | array items nested ih =>
    obtain ⟨s, rfl, hs⟩ := items
    exact isSettled_array hs fun u hu => ⟨JsonText.startsItem (nested u hu), ih u hu⟩
  | object members nested ih =>
    obtain ⟨s, rfl, hs⟩ := members
    exact isSettled_object hs ih

theorem exists_of_scalar_read {s r : List Char} {v : Value} {depth : Nat}
    (h : (scalar (skipSpace s) >>= fun (a, r) => pure (Value.scalar a, r)) = .ok (v, r)) :
    ∃ w t, IsSpaceText w ∧ s = w ++ (t ++ r) ∧ JsonText depth t := by
  obtain ⟨w, hw, hs⟩ := exists_append_skipSpace s
  obtain ⟨⟨a, r'⟩, ha, h⟩ := exists_of_bind_eq_ok h
  cases h
  obtain ⟨t, ht, hscalar⟩ := exists_of_scalar ha
  exact ⟨w, t, hw, ht ▸ hs, .scalar hscalar⟩

theorem exists_of_valueWith_none {s r : List Char} {v : Value}
    (h : valueWith none s = .ok (v, r)) :
    ∃ w t, IsSpaceText w ∧ s = w ++ (t ++ r) ∧ JsonText 0 t := by
  unfold valueWith at h
  split at h
  · contradiction
  · contradiction
  · cases h
  · cases h
  · exact exists_of_scalar_read h

theorem exists_of_addMember {value : Reader Value} {P : List Char → Prop}
    (hvalue : ∀ {s r v}, value s = .ok (v, r) → ∃ w t, IsSpaceText w ∧ s = w ++ (t ++ r) ∧ P t)
    {s r r' : List Char} {key : String} {ms ms' : List (String × Value)}
    (hkey : stringRest s = .ok (key, r)) (hmember : addMember value key ms r = .ok (ms', r')) :
    ∃ (t : List Char) (m : Unit × List Char), '"' :: s = t ++ r' ∧
      MemberText AnyKey Eq t m ∧ P m.2 := by
  obtain ⟨name, rfl, hname⟩ := exists_of_stringRest hkey
  unfold addMember at hmember
  obtain ⟨r₁, hcolon, hrest⟩ := exists_of_bind_eq_ok hmember
  obtain ⟨w, hw, rfl⟩ := exists_of_colon hcolon
  obtain ⟨⟨v, r₂⟩, hv, hend⟩ := exists_of_bind_eq_ok hrest
  cases hend
  obtain ⟨w', t, hw', rfl, ht⟩ := hvalue hv
  refine ⟨('"' :: (name ++ ['"'])) ++ (w ++ ':' :: (w' ++ t)), ((), t), by simp, ?_, ht⟩
  exact .mk (StringText.token ⟨name, rfl, hname⟩) hw hw' rfl

/-- A value is read from a text that the grammar allows, with space before it. -/
theorem exists_of_read {depth : Nat} {s r : List Char} {v : Value}
    (h : Value.read depth s = .ok (v, r)) :
    ∃ w t, IsSpaceText w ∧ s = w ++ (t ++ r) ∧ JsonText depth t := by
  induction depth generalizing s r v with
  | zero => exact exists_of_valueWith_none h
  | succ depth ih =>
    obtain ⟨w, hw, hs⟩ := exists_append_skipSpace s
    change valueWith (some (Value.read depth)) s = _ at h
    unfold valueWith at h
    split at h
    · rename_i hskip hinner
      cases hinner
      obtain ⟨⟨vs, r'⟩, hvs, h⟩ := exists_of_bind_eq_ok h
      cases h
      have hitem (s : List Char) (v : Value) (r : List Char) (h : Value.read depth s = .ok (v, r)) :
          ∃ w t u, IsSpaceText w ∧ s = w ++ (t ++ r) ∧ t = u ∧ JsonText depth u := by
        obtain ⟨w, t, hw, rfl, ht⟩ := ih h
        exact ⟨w, t, t, hw, rfl, rfl, ht⟩
      obtain ⟨t, ts, rfl, hts⟩ := exists_of_items hitem hvs
      exact ⟨w, '[' :: (t ++ [']']), hw, by rw [hs, hskip]; simp, ValueText.of_items hts⟩
    · rename_i hskip hinner
      cases hinner
      obtain ⟨⟨ms, r'⟩, hms, h⟩ := exists_of_bind_eq_ok h
      cases h
      obtain ⟨t, ms', rfl, ht⟩ := exists_of_members
        (fun _ _ _ _ _ _ hkey hmember => exists_of_addMember ih hkey hmember) hms
      exact ⟨w, '\x7b' :: (t ++ ['\x7d']), hw, by rw [hs, hskip]; simp, ValueText.of_members ht⟩
    · contradiction
    · contradiction
    · exact exists_of_scalar_read h

theorem jsonText_of_read {depth : Nat} {t : List Char} {v : Value}
    (h : Value.read depth t = .ok (v, [])) (hspace : skipSpace t = t) : JsonText depth t := by
  obtain ⟨w, t', hw, rfl, ht⟩ := exists_of_read h
  rw [skipSpace_append hw, ht.startsItem.skipSpace] at hspace
  rw [← hspace, List.append_nil]
  exact ht

theorem exists_of_valueWith_object {inner : Option (Reader Value)} {s r : List Char}
    {ms : List (String × Value)} (h : valueWith inner s = .ok (.object ms, r)) :
    ∃ s', skipSpace s = '\x7b' :: s' := by
  unfold valueWith at h
  split at h
  · obtain ⟨_, _, h⟩ := exists_of_bind_eq_ok h
    cases h
  · exact ⟨_, ‹_›⟩
  · cases h
  · cases h
  · obtain ⟨_, _, h⟩ := exists_of_bind_eq_ok h
    cases h

/-- Nothing but the text of an object is read as one. -/
theorem exists_of_read_object {depth : Nat} {s r : List Char} {ms : List (String × Value)}
    (h : Value.read depth s = .ok (.object ms, r)) :
    ∃ w t, IsSpaceText w ∧ s = w ++ (t ++ r) ∧ IsObject t := by
  obtain ⟨w, t, hw, rfl, ht⟩ := exists_of_read h
  obtain ⟨s', hbrace⟩ : ∃ s', skipSpace (w ++ (t ++ r)) = '\x7b' :: s' := by
    cases depth <;> exact exists_of_valueWith_object h
  rw [skipSpace_append hw, ht.startsItem.skipSpace] at hbrace
  refine ⟨w, t, hw, rfl, ?_⟩
  cases ht with
  | scalar hscalar => exact absurd hbrace (hscalar.ne_cons (by decide) _ _)
  | array items =>
    obtain ⟨s, rfl, _⟩ := items
    cases hbrace
  | object members => exact ⟨_, members⟩

end Reading

section Skipping

theorem StringToken.skips {name : List Char} (h : StringToken name) :
    ∃ name', name = '"' :: name' ∧ ∀ r, skipStringRest (name' ++ r) = .ok ((), r) := by
  obtain ⟨s, ns, rfl, hs⟩ := h
  refine ⟨s ++ ['"'], rfl, fun r => ?_⟩
  rw [List.append_assoc]
  exact skipStringRest_of_pieces hs r

section Contained

variable {inner : Reader Unit} {s : List Char}

theorem skips_member (hinner : IgnoresSpace inner) {name w w' t : List Char}
    (named : StringToken name) (hw : IsSpaceText w) (hw' : IsSpaceText w') (ht : Reads inner t ()) :
    MemberComesTo skipStringRest (fun _ _ s => do inner (← colon s)) (name ++ (w ++ ':' :: (w' ++ t)))
      fun _ => some () := by
  have hvalue (_ _ : Unit) : some () = some () →
      ComesTo (fun s => do inner (← colon s)) (w ++ ':' :: (w' ++ t)) (some ()) := by
    intro _ r hr
    dsimp only
    rw [List.append_assoc, List.cons_append, colon_append hw, List.append_assoc]
    show inner (w' ++ (t ++ r)) = _
    rw [hinner w' _ hw']
    exact ht r hr
  have hcomes := memberComesTo (o := some ()) named.skips hvalue
  exact hcomes

theorem reads_skipWith_array {ts : List (List Char)} (h : ListText Eq s ts)
    (hitem : ∀ u ∈ ts, StartsItem u ∧ Reads inner u ()) :
    Reads (skipWith inner) ('[' :: (s ++ [']'])) () := by
  intro r _
  have hitems := reads_items .whenSkipped h (fun _ u hu heq => heq ▸ hitem u hu) r
  rw [List.cons_append, List.append_assoc]
  show (items _ _ (s ++ ']' :: r) >>= _) = _
  rw [hitems]
  rfl

theorem reads_skipWith_object {ms : List (Unit × List Char)}
    (h : ListText (MemberText AnyKey Eq) s ms)
    (hinner : IgnoresSpace inner) (hmember : ∀ m ∈ ms, Reads inner m.2 ()) :
    Reads (skipWith inner) ('\x7b' :: (s ++ ['\x7d'])) () := by
  have hskips (u : List Char) (m : Unit × List Char) (hm : m ∈ ms)
      (hu : MemberText AnyKey Eq u m) :
      MemberComesTo skipStringRest (fun _ _ s => do inner (← colon s)) u fun _ => some () := by
    obtain ⟨named, space, space', rfl⟩ := hu
    exact skips_member hinner named space space' (hmember _ hm)
  intro r _
  have hmembers := reads_members .whenSkipped h hskips () r
  rw [List.cons_append, List.append_assoc]
  exact hmembers

end Contained

theorem skipNested_append {depth : Nat} {t : List Char} (h : JsonText depth t) {n : Nat}
    (hn : depth < n) : Reads (skipNested n) t () := by
  induction h generalizing n with
  | scalar h =>
    obtain ⟨n, rfl⟩ := Nat.exists_eq_add_of_lt hn
    intro r hr
    show skipWith _ (_ ++ r) = _
    rw [skipWith_scalar _ h]
    exact skipScalar_append h r hr
  | array items nested ih =>
    obtain ⟨s, rfl, hs⟩ := items
    obtain ⟨n, rfl⟩ : ∃ m, n = m + 1 := ⟨n - 1, by omega⟩
    exact reads_skipWith_array hs fun u hu =>
      ⟨JsonText.startsItem (nested u hu), ih u hu (Nat.lt_of_succ_lt_succ hn)⟩
  | object members nested ih =>
    obtain ⟨s, rfl, hs⟩ := members
    -- What is in an object takes a level of its own, so that space is skipped before it.
    obtain ⟨n, rfl⟩ : ∃ m, n = m + 2 := ⟨n - 2, by omega⟩
    exact reads_skipWith_object hs (ignoresSpace_skipWith (skipNested n)) fun m hm =>
      ih m hm (Nat.lt_of_succ_lt_succ hn)

/-- A value is skipped, however nested. -/
theorem skipValue_append {t w : List Char} (h : IsJson t) (hw : IsSpaceText w) :
    Reads skipValue (w ++ t) () := by
  obtain ⟨depth, h⟩ := h
  intro r hr
  have hlt : t.length < (w ++ t ++ r).length + 1 := by
    simp only [List.length_append]
    omega
  show skipNested ((w ++ t ++ r).length + 1) (w ++ t ++ r) = _
  generalize (w ++ t ++ r).length + 1 = n at hlt
  obtain ⟨n, rfl⟩ : ∃ m, n = m + 1 := ⟨n - 1, by omega⟩
  rw [List.append_assoc, show skipNested (n + 1) = skipWith (skipNested n) from rfl,
    ignoresSpace_skipWith _ _ _ hw]
  exact skipNested_append h.of_length hlt r hr

end Skipping

section Documents

def IsDocument (P : List Char → Prop) (s : List Char) : Prop :=
  ∃ w t w', IsSpaceText w ∧ IsSpaceText w' ∧ s = w ++ (t ++ w') ∧ P t

variable {read : Reader α} {w t w' : List Char} {text : String}

theorem Reads.readText_eq {a : α} (h : Reads read t a) (hread : IgnoresSpace read)
    (hw : IsSpaceText w) (hw' : IsSpaceText w') (htext : text.toList = w ++ (t ++ w')) :
    readText read text = .ok a := by
  have hskip : skipSpace w' = [] := List.dropWhile_eq_nil_iff.mpr hw'
  rw [readText, htext, hread w _ hw, h w' (endsNumeral_of_isSpaceText hw')]
  simp only [bind, Except.bind, hskip]
  rfl

theorem exists_readText_eq_error (h : ComesTo read t none) (hread : IgnoresSpace read)
    (hw : IsSpaceText w) (hw' : IsSpaceText w') (htext : text.toList = w ++ (t ++ w')) :
    ∃ e, readText read text = .error e := by
  obtain ⟨e, he⟩ := h w' (endsNumeral_of_isSpaceText hw')
  rw [readText, htext, hread w _ hw, he]
  exact ⟨_, rfl⟩

/-- A value is read from nothing but a document. -/
theorem isDocument_of_parse {v : Value} (h : Value.parse text = .ok v) :
    IsDocument (JsonText maxDepth) text.toList := by
  obtain ⟨r, hv, hr⟩ := exists_of_readText h
  obtain ⟨w, t, hw, htext, ht⟩ := exists_of_read hv
  exact ⟨w, t, r, hw, List.dropWhile_eq_nil_iff.mp hr, htext, ht⟩

theorem isDocument_of_parse_object {ms : List (String × Value)}
    (h : Value.parse text = .ok (.object ms)) : IsDocument IsObject text.toList := by
  obtain ⟨r, hv, hr⟩ := exists_of_readText h
  obtain ⟨w, t, hw, htext, ht⟩ := exists_of_read_object hv
  exact ⟨w, t, r, hw, List.dropWhile_eq_nil_iff.mp hr, htext, ht⟩

theorem IsDocument.imp {P Q : List Char → Prop} {s : List Char} (h : IsDocument P s)
    (hPQ : ∀ t, P t → Q t) : IsDocument Q s := by
  obtain ⟨w, t, w', hw, hw', hs, ht⟩ := h
  exact ⟨w, t, w', hw, hw', hs, hPQ t ht⟩

theorem IsDocument.exists_brace {s : List Char} (h : IsDocument IsObject s) :
    ∃ r, skipSpace s = '\x7b' :: r := by
  obtain ⟨w, t, w', hw, _, rfl, ms, u, rfl, _⟩ := h
  exact ⟨_, skipSpace_append hw _⟩

theorem IsDocument.skips {s : List Char} (h : IsDocument IsJson s) :
    ∃ r, skipValue s = .ok ((), r) ∧ skipSpace r = [] := by
  obtain ⟨w, t, w', hw, hw', rfl, ht⟩ := h
  refine ⟨w', ?_, List.dropWhile_eq_nil_iff.mpr hw'⟩
  rw [← List.append_assoc]
  exact skipValue_append ht hw w' (endsNumeral_of_isSpaceText hw')

end Documents

end DocumentRest.Json
