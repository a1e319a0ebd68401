namespace DocumentRest

variable {α β : Type}

/-- Every member of a list is in a relation with all that stands before it. The list itself stands
behind `past`. -/
def Following (R : List α → α → Prop) (past : List α) : List α → Prop
  | [] => True
  | a :: rest => R past a ∧ Following R (past ++ [a]) rest

theorem following_append {R : List α → α → Prop} {past l m : List α} :
    Following R past (l ++ m) ↔ Following R past l ∧ Following R (past ++ l) m := by
  induction l generalizing past with
  | nil => simp [Following]
  | cons a l ih => simp [Following, ih, and_assoc]

theorem following_map {R : List α → β → Prop} {f : α → β} {g : β → α} (hgf : ∀ a, g (f a) = a)
    {past : List β} {l : List α} :
    Following (fun past b => R (past.map g) b) past (l.map f) ↔
      Following (fun past a => R past (f a)) (past.map g) l := by
  induction l generalizing past with
  | nil => exact Iff.rfl
  | cons a l ih => simp [Following, ih, hgf]

theorem Following.imp {R S : List α → α → Prop} {past l : List α}
    (hRS : ∀ past a, R past a → S past a) (h : Following R past l) : Following S past l := by
  induction l generalizing past with
  | nil => trivial
  | cons a l ih => exact ⟨hRS past a h.1, ih h.2⟩

theorem Following.at_split {R : List α → α → Prop} {past l before after : List α} {a : α}
    (h : Following R past l) (hl : l = before ++ a :: after) : R (past ++ before) a := by
  rw [hl, following_append] at h
  exact h.2.1

theorem Following.exists_of_mem {R : List α → α → Prop} {past l : List α} {a : α}
    (h : Following R past l) (ha : a ∈ l) : ∃ before, R before a := by
  obtain ⟨before, after, rfl⟩ := List.append_of_mem ha
  exact ⟨past ++ before, h.at_split rfl⟩

theorem findRev?_append (p : α → Bool) (l m : List α) :
    (l ++ m).findRev? p = (m.findRev? p).or (l.findRev? p) := by
  simp

theorem findRev?_concat (p : α → Bool) (l : List α) (a : α) :
    (l ++ [a]).findRev? p = if p a then some a else l.findRev? p := by
  cases hp : p a <;> simp [hp]

theorem findRev?_of_imp {p q : α → Bool} {l : List α} {a : α}
    (h : l.findRev? p = some a) (hqp : ∀ b, q b = true → p b = true) (hq : q a = true) :
    l.findRev? q = some a := by
  rw [List.findRev?_eq_find?_reverse, List.find?_eq_some_iff_append] at h ⊢
  obtain ⟨_, as, bs, hl, hp⟩ := h
  refine ⟨hq, as, bs, hl, fun b hb => ?_⟩
  have hnp := hp b hb
  rw [Bool.not_eq_true'] at hnp ⊢
  exact Bool.eq_false_iff.mpr fun hqb => by simp [hqp b hqb] at hnp

end DocumentRest
