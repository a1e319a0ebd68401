import DocumentRest.Json.Reader
import DocumentRest.Proofs.Json.Containers
import DocumentRest.Proofs.Json.Scalars
import Mathlib.Data.String.Basic

namespace DocumentRest.Json

section Order

variable {α : Type}

def InKeyOrder (ms : List (String × α)) : Prop := ms.Pairwise fun m m' => m.1 < m'.1

theorem mem_insertMember {key : String} {a : α} {ms : List (String × α)} {m : String × α}
    (h : m ∈ insertMember key a ms) : m = (key, a) ∨ m ∈ ms := by
  induction ms with
  | nil => exact .inl (List.mem_singleton.mp h)
  | cons n ms ih =>
    obtain ⟨k, b⟩ := n
    rw [insertMember] at h
    split_ifs at h
    · rcases List.mem_cons.mp h with h | h
      · exact .inl h
      · exact .inr (List.mem_cons_of_mem _ h)
    · exact List.mem_cons.mp h
    · rcases List.mem_cons.mp h with h | h
      · exact .inr (h ▸ List.mem_cons_self)
      · exact (ih h).imp id (List.mem_cons_of_mem _)

theorem InKeyOrder.insertMember {ms : List (String × α)} (h : InKeyOrder ms) (key : String)
    (a : α) : InKeyOrder (insertMember key a ms) := by
  induction ms with
  | nil => exact List.pairwise_singleton _ _
  | cons m ms ih =>
    obtain ⟨k, b⟩ := m
    obtain ⟨hk, hms⟩ := List.pairwise_cons.mp h
    rw [Json.insertMember]
    split_ifs with heq hlt
    · subst heq
      exact List.pairwise_cons.mpr ⟨hk, hms⟩
    · refine List.pairwise_cons.mpr ⟨fun m' hm' => ?_, h⟩
      rcases List.mem_cons.mp hm' with rfl | hm'
      · exact hlt
      · exact lt_trans hlt (hk m' hm')
    · refine List.pairwise_cons.mpr ⟨fun m' hm' => ?_, ih hms⟩
      rcases mem_insertMember hm' with rfl | hm'
      · exact lt_of_le_of_ne (not_lt.mp hlt) (Ne.symm heq)
      · exact hk m' hm'

theorem insertMember_of_lt {key : String} {ms : List (String × α)} (h : ∀ m ∈ ms, m.1 < key)
    (a : α) : insertMember key a ms = ms ++ [(key, a)] := by
  induction ms with
  | nil => rfl
  | cons m ms ih =>
    obtain ⟨k, b⟩ := m
    have hk : k < key := h _ List.mem_cons_self
    rw [insertMember, if_neg hk.ne', if_neg hk.asymm,
      ih fun m hm => h m (List.mem_cons_of_mem _ hm), List.cons_append]

end Order

namespace Value

inductive Readable : (depth : Nat) → Value → Prop
  | scalar {depth : Nat} {a : Scalar} (fits : a.Fits) : Readable depth (.scalar a)
  | array {depth : Nat} {vs : List Value} (items : ∀ v ∈ vs, Readable depth v) :
      Readable (depth + 1) (.array vs)
  | object {depth : Nat} {ms : List (String × Value)} (order : InKeyOrder ms)
      (values : ∀ m ∈ ms, Readable depth m.2) : Readable (depth + 1) (.object ms)

inductive FloatFree : Value → Prop
  | scalar {a : Scalar} (h : ¬ a.IsFloat) : FloatFree (.scalar a)
  | array {vs : List Value} (items : ∀ v ∈ vs, FloatFree v) : FloatFree (.array vs)
  | object {ms : List (String × Value)} (values : ∀ m ∈ ms, FloatFree m.2) :
      FloatFree (.object ms)

@[simp] theorem floatFree_scalar {a : Scalar} : (scalar a).FloatFree ↔ ¬ a.IsFloat :=
  ⟨fun h => by cases h with | scalar h => exact h, .scalar⟩

@[simp] theorem floatFree_array {vs : List Value} :
    (array vs).FloatFree ↔ ∀ v ∈ vs, v.FloatFree :=
  ⟨fun h => by cases h with | array h => exact h, .array⟩

@[simp] theorem floatFree_object {ms : List (String × Value)} :
    (object ms).FloatFree ↔ ∀ m ∈ ms, m.2.FloatFree :=
  ⟨fun h => by cases h with | object h => exact h, .object⟩

end Value

section Reading

variable {depth : Nat}

theorem gives_addMember {value : Reader Value} (h : Gives value (Value.Readable depth))
    (key : String) {ms : List (String × Value)}
    (hms : InKeyOrder ms ∧ ∀ m ∈ ms, m.2.Readable depth) :
    Gives (addMember value key ms) fun ms => InKeyOrder ms ∧ ∀ m ∈ ms, m.2.Readable depth := by
  intro s ms' r hs
  unfold addMember at hs
  obtain ⟨r', _, hs⟩ := exists_of_bind_eq_ok hs
  obtain ⟨⟨v, r''⟩, hv, hs⟩ := exists_of_bind_eq_ok hs
  cases hs
  refine ⟨hms.1.insertMember key v, fun m hm => ?_⟩
  rcases mem_insertMember hm with rfl | hm
  · exact h _ _ _ hv
  · exact hms.2 m hm

theorem gives_valueWith_none : Gives (valueWith none) (Value.Readable depth) := by
  intro s v r hs
  unfold valueWith at hs
  split at hs
  · contradiction
  · contradiction
  · cases hs
  · cases hs
  · obtain ⟨⟨a, r'⟩, ha, hs⟩ := exists_of_bind_eq_ok hs
    cases hs
    exact .scalar (gives_scalar _ _ _ ha)

theorem gives_valueWith {value : Reader Value} (h : Gives value (Value.Readable depth)) :
    Gives (valueWith (some value)) (Value.Readable (depth + 1)) := by
  intro s v r hs
  unfold valueWith at hs
  split at hs
  · rename_i hinner
    cases hinner
    obtain ⟨⟨vs, r'⟩, hvs, hs⟩ := exists_of_bind_eq_ok hs
    cases hs
    exact .array (gives_items h _ _ _ hvs)
  · rename_i hinner
    cases hinner
    obtain ⟨⟨ms, r'⟩, hms, hs⟩ := exists_of_bind_eq_ok hs
    cases hs
    obtain ⟨horder, hvalues⟩ := gives_members (fun key ms hms => gives_addMember h key hms)
      ⟨List.Pairwise.nil, List.forall_mem_nil _⟩ _ _ _ hms
    exact .object horder hvalues
  · contradiction
  · contradiction
  · obtain ⟨⟨a, r'⟩, ha, hs⟩ := exists_of_bind_eq_ok hs
    cases hs
    exact .scalar (gives_scalar _ _ _ ha)

theorem gives_read (depth : Nat) : Gives (Value.read depth) (Value.Readable depth) := by
  induction depth with
  | zero => exact gives_valueWith_none
  | succ depth ih => exact gives_valueWith ih

end Reading

section Texts

theorem readText_of_reads {α : Type} {read : Reader α} {text : List Char} {a : α}
    (h : Reads read text a) : readText read (.ofList text) = .ok a := by
  have hread := h [] endsNumeral_nil
  rw [List.append_nil] at hread
  rw [readText, String.toList_ofList, hread]
  rfl

theorem exists_of_readText {α : Type} {read : Reader α} {text : String} {a : α}
    (h : readText read text = .ok a) : ∃ r, read text.toList = .ok (a, r) ∧ skipSpace r = [] := by
  rw [readText] at h
  cases hread : read text.toList with
  | error e =>
    rw [hread] at h
    cases h
  | ok p =>
    obtain ⟨b, r⟩ := p
    rw [hread] at h
    cases hskip : skipSpace r with
    | nil =>
      have hb : b = a := by simpa [hskip, bind, Except.bind, Except.mapError] using h
      exact ⟨r, hb ▸ rfl, hskip⟩
    | cons c r => simp [hskip, bind, Except.bind, Except.mapError, failAt] at h

theorem Gives.readText {α : Type} {read : Reader α} {P : α → Prop} (h : Gives read P)
    {text : String} {a : α} (htext : readText read text = .ok a) : P a := by
  obtain ⟨r, hread, _⟩ := exists_of_readText htext
  exact h _ _ _ hread

end Texts

end DocumentRest.Json
