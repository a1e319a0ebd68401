import DocumentRest.Proofs.Json.ValueTexts
import Mathlib.Data.List.Induction

namespace DocumentRest.Json

section LastMembers

variable {α : Type}

/-- What is left of members: the last of each key, in the order of the keys. -/
def lastMembers (ms : List (String × α)) : List (String × α) :=
  ms.foldl (fun acc m => insertMember m.1 m.2 acc) []

theorem lastMembers_append (ms : List (String × α)) (m : String × α) :
    lastMembers (ms ++ [m]) = insertMember m.1 m.2 (lastMembers ms) := by
  rw [lastMembers, List.foldl_append]
  rfl

theorem lookup_cons_ite (key k : String) (a : α) (ms : List (String × α)) :
    List.lookup key ((k, a) :: ms) = if key = k then some a else ms.lookup key := by
  rw [List.lookup_cons]
  by_cases hk : key = k
  · simp [hk]
  · rw [beq_false_of_ne hk, if_neg hk]

theorem lookup_insertMember (key k : String) (a : α) (ms : List (String × α)) :
    (insertMember k a ms).lookup key = if key = k then some a else ms.lookup key := by
  induction ms with
  | nil => exact lookup_cons_ite key k a []
  | cons m ms ih =>
    obtain ⟨k', b⟩ := m
    rw [insertMember]
    split
    · rename_i heq
      subst heq
      rw [lookup_cons_ite, lookup_cons_ite]
      split <;> rfl
    · rename_i hne
      split
      · exact lookup_cons_ite ..
      · rw [lookup_cons_ite, lookup_cons_ite, ih]
        by_cases hk : key = k'
        · rw [if_pos hk, if_pos hk, if_neg fun h => hne (h.symm.trans hk)]
        · rw [if_neg hk, if_neg hk]

theorem lookup_lastMembers (ms : List (String × α)) (key : String) :
    (lastMembers ms).lookup key = ms.reverse.lookup key := by
  induction ms using List.reverseRecOn with
  | nil => rfl
  | append_singleton ms m ih =>
    rw [lastMembers_append, lookup_insertMember, ih, List.reverse_append, List.reverse_singleton,
      List.singleton_append, lookup_cons_ite]

theorem inKeyOrder_lastMembers (ms : List (String × α)) : InKeyOrder (lastMembers ms) := by
  induction ms using List.reverseRecOn with
  | nil => exact List.Pairwise.nil
  | append_singleton ms m ih =>
    rw [lastMembers_append]
    exact ih.insertMember m.1 m.2

theorem perm_insertMember {k : String} {ms : List (String × α)} (h : k ∉ ms.map (·.1)) (a : α) :
    (insertMember k a ms).Perm ((k, a) :: ms) := by
  induction ms with
  | nil => exact .refl _
  | cons m ms ih =>
    obtain ⟨k', b⟩ := m
    rw [List.map_cons, List.mem_cons, not_or] at h
    rw [insertMember, if_neg h.1]
    split
    · exact .refl _
    · exact ((ih h.2).cons _).trans (.swap _ _ _)

theorem perm_lastMembers {ms : List (String × α)} (h : (ms.map (·.1)).Nodup) :
    (lastMembers ms).Perm ms := by
  induction ms using List.reverseRecOn with
  | nil => exact .refl _
  | append_singleton ms m ih =>
    rw [List.map_append, List.nodup_append] at h
    obtain ⟨hms, _, hm⟩ := h
    have hperm := ih hms
    have hnew : m.1 ∉ (lastMembers ms).map (·.1) := by
      rw [(hperm.map _).mem_iff]
      exact fun hmem => hm _ hmem _ List.mem_cons_self rfl
    rw [lastMembers_append]
    exact (perm_insertMember hnew m.2).trans ((hperm.cons m).trans (List.perm_append_singleton _ _).symm)

theorem lastMembers_eq_of_perm {ms ms' : List (String × α)} (h : ms.Perm ms')
    (hnodup : (ms.map (·.1)).Nodup) : lastMembers ms' = lastMembers ms := by
  have hnodup' : (ms'.map (·.1)).Nodup := (h.map _).nodup_iff.mp hnodup
  have hperm := (perm_lastMembers hnodup').trans (h.symm.trans (perm_lastMembers hnodup).symm)
  refine List.Perm.eq_of_pairwise (fun m m' _ _ hlt hlt' => ?_) (inKeyOrder_lastMembers ms')
    (inKeyOrder_lastMembers ms) hperm
  exact absurd hlt' hlt.asymm

end LastMembers

section Containers

theorem reads_array {depth : Nat} {s : List Char} {vs : List Value}
    (h : ListText (fun u v => StartsItem u ∧ Reads (Value.read depth) u v) s vs) :
    Reads (Value.read (depth + 1)) ('[' :: (s ++ [']'])) (.array vs) := by
  intro r _
  have hitems := reads_items .whenRead h (f := id) (fun _ _ _ h => h) r
  rw [List.map_id] at hitems
  rw [List.cons_append, List.append_assoc]
  show (items _ _ (s ++ ']' :: r) >>= _) = _
  rw [hitems]
  rfl

/-- An object is read as the last members of each key, if the values are read. -/
theorem reads_object {depth : Nat} {t : List Char} {ms : List (String × Value)}
    (h : ObjectText StringText (fun u v => Reads (Value.read depth) u v) t ms) :
    Reads (Value.read (depth + 1)) t (.object (lastMembers ms)) := by
  obtain ⟨s, rfl, hs⟩ := h
  have hmember (u : List Char) (m : String × Value) (_ : m ∈ ms)
      (hu : MemberText StringText (fun u v => Reads (Value.read depth) u v) u m) :
      MemberComesTo stringRest (addMember (Value.read depth)) u
        fun acc => some (insertMember m.1 m.2 acc) := by
    cases hu with
    | @mk name w w' u k v named space space' hread =>
      have hadd (key : String) (acc : List (String × Value)) : some k = some key →
          ComesTo (addMember (Value.read depth) key acc) (w ++ ':' :: (w' ++ u))
            (some (insertMember key v acc)) :=
        fun _ => comesTo_addMember (ignoresSpace_read depth) space space' (o := some v) hread key acc
      exact memberComesTo named.comes hadd
  intro r _
  have hmembers := reads_members .whenRead hs hmember [] r
  rw [List.cons_append, List.append_assoc]
  show (members _ _ _ [] (s ++ '\x7d' :: r) >>= _) = _
  rw [hmembers]
  rfl

end Containers

section Readable

theorem ReadableText.jsonText {depth : Nat} {t : List Char} (h : ReadableText depth t) :
    JsonText depth t :=
  ValueText.imp h (fun _ h => h.scalarText) fun _ _ named => ⟨(), named.token⟩

/-- What is readable is read, as the same value by all readers of values that are nested so deep. -/
theorem ReadableText.reads {depth : Nat} {t : List Char} (h : ReadableText depth t) :
    ∃ v, ∀ d, depth ≤ d → Reads (Value.read d) t v := by
  induction h with
  | scalar h =>
    obtain ⟨a, ha⟩ := h.reads
    refine ⟨.scalar a, fun d _ => ?_⟩
    cases d <;> exact comesTo_valueWith_scalar _ h.scalarText (o := some a) ha
  | @array depth t ts items nested ih =>
    obtain ⟨s, rfl, hs⟩ := items
    have hitem (u u' : List Char) (hu' : u' ∈ ts) (heq : u = u') :
        ∃ v, StartsItem u ∧ ∀ d, depth ≤ d → Reads (Value.read d) u v := by
      subst heq
      obtain ⟨v, hv⟩ := ih u hu'
      exact ⟨v, (ReadableText.jsonText (nested u hu')).startsItem, hv⟩
    obtain ⟨vs, hvs⟩ := hs.exists_of_forall hitem
    refine ⟨.array vs, fun d hd => ?_⟩
    obtain ⟨d, rfl⟩ := Nat.exists_eq_add_of_le' (Nat.le_of_add_left_le hd)
    exact reads_array (hvs.imp fun u v hu => ⟨hu.1, hu.2 d (Nat.le_of_succ_le_succ hd)⟩)
  | @object depth t ms members nested ih =>
    obtain ⟨s, rfl, hs⟩ := members
    have hmember (u : List Char) (m : String × List Char) (hm : m ∈ ms)
        (hu : MemberText StringText Eq u m) : ∃ n : String × Value, ∀ d, depth ≤ d →
          MemberText StringText (fun u v => Reads (Value.read d) u v) u n := by
      obtain ⟨named, space, space', rfl⟩ := hu
      obtain ⟨v, hv⟩ := ih _ hm
      exact ⟨(_, v), fun d hd => .mk named space space' (hv d hd)⟩
    obtain ⟨ns, hns⟩ := hs.exists_of_forall hmember
    refine ⟨.object (lastMembers ns), fun d hd => ?_⟩
    obtain ⟨d, rfl⟩ := Nat.exists_eq_add_of_le' (Nat.le_of_add_left_le hd)
    exact reads_object ⟨s, rfl, hns.imp fun u n hu => hu d (Nat.le_of_succ_le_succ hd)⟩

theorem parse_ne_ok {text : String} {w t w' : List Char} (h : ComesTo (Value.read maxDepth) t none)
    (hw : IsSpaceText w) (hw' : IsSpaceText w') (htext : text.toList = w ++ (t ++ w')) (v : Value) :
    Value.parse text ≠ .ok v := by
  intro hv
  obtain ⟨e, he⟩ := exists_readText_eq_error h (ignoresSpace_read _) hw hw' htext
  have herror : Value.parse text = .error e := he
  rw [hv] at herror
  cases herror

/-- The texts that are parsed are those of the grammar whose strings spell texts and whose numbers are
not out of range, not nested too deep. -/
theorem exists_parse_iff {text : String} :
    (∃ v, Value.parse text = .ok v) ↔ IsDocument (ReadableText maxDepth) text.toList := by
  constructor
  · rintro ⟨v, hv⟩
    obtain ⟨w, t, w', hw, hw', htext, ht⟩ := isDocument_of_parse hv
    obtain ⟨o, hreadable, ho⟩ := isSettled_of_jsonText ht
    cases o with
    | none => exact absurd hv (parse_ne_ok (ho maxDepth (Nat.le_refl _)) hw hw' htext v)
    | some v => exact ⟨w, t, w', hw, hw', htext, hreadable v rfl⟩
  · rintro ⟨w, t, w', hw, hw', htext, ht⟩
    obtain ⟨v, hv⟩ := ht.reads
    exact ⟨v, (hv maxDepth (Nat.le_refl _)).readText_eq (ignoresSpace_read _) hw hw' htext⟩

theorem not_readable_of_comesTo {text : String}
    (h : ComesTo (Value.read maxDepth) text.toList none) :
    ¬ IsDocument (ReadableText maxDepth) text.toList := by
  rw [← exists_parse_iff]
  rintro ⟨v, hv⟩
  exact parse_ne_ok h isSpaceText_nil isSpaceText_nil (by simp) v hv

theorem not_readable_of_outOfRange {text : String} (h : UnsignedText text.toList)
    (hrange : OutOfRange text.toList) : ¬ IsDocument (ReadableText maxDepth) text.toList := by
  obtain ⟨o, hiff, _, hcomes⟩ := settles_number h
  rw [hiff.mpr hrange] at hcomes
  exact not_readable_of_comesTo
    (comesTo_valueWith_scalar (some (Value.read 126)) (.number (.unsigned h)) hcomes)

end Readable

end DocumentRest.Json
