import DocumentRest.Proofs.Json.Reading

namespace DocumentRest.Json

variable {α β : Type}

/-- What came of reading is the value `o`, with `r` left to be read, or a failure for want of one. -/
def Comes (x : Except Failure (α × List Char)) (o : Option α) (r : List Char) : Prop :=
  match o with
  | some a => x = .ok (a, r)
  | none => ∃ e, x = .error e

def ComesTo (read : Reader α) (text : List Char) (o : Option α) : Prop :=
  ∀ r, EndsNumeral r → Comes (read (text ++ r)) o r

theorem Comes.eq_of_eq_ok {x : Except Failure (α × List Char)} {o : Option α} {r r' : List Char}
    {a : α} (h : Comes x o r) (hx : x = .ok (a, r')) : o = some a ∧ r' = r := by
  cases o with
  | none =>
    obtain ⟨e, he⟩ := h
    rw [he] at hx
    cases hx
  | some b =>
    have hb : x = .ok (b, r) := h
    rw [hb] at hx
    cases hx
    exact ⟨rfl, rfl⟩

theorem Comes.bind {x : Except Failure (α × List Char)} {o : Option α} {r r' : List Char}
    (h : Comes x o r) {f : α × List Char → Except Failure (β × List Char)} {g : α → Option β}
    (hf : ∀ a, o = some a → Comes (f (a, r)) (g a) r') : Comes (x >>= f) (o.bind g) r' := by
  cases o with
  | none =>
    obtain ⟨e, he⟩ := h
    exact ⟨e, by rw [he]; rfl⟩
  | some a =>
    have ha : x = .ok (a, r) := h
    rw [ha]
    exact hf a rfl

theorem Comes.map {x : Except Failure (α × List Char)} {o : Option α} {r : List Char}
    (h : Comes x o r) (f : α → β) : Comes (x.map fun (a, r) => (f a, r)) (o.map f) r := by
  cases o with
  | none =>
    obtain ⟨e, he⟩ := h
    exact ⟨e, by rw [he]; rfl⟩
  | some a =>
    have ha : x = .ok (a, r) := h
    rw [ha]
    rfl

theorem Comes.bind_pure {x : Except Failure (α × List Char)} {o : Option α} {r : List Char}
    (h : Comes x o r) (f : α → β) : Comes (x >>= fun (a, r) => pure (f a, r)) (o.map f) r := by
  cases o with
  | none =>
    obtain ⟨e, he⟩ := h
    exact ⟨e, by rw [he]; rfl⟩
  | some a =>
    have ha : x = .ok (a, r) := h
    rw [ha]
    rfl

theorem ComesTo.eq_of_eq_ok {read : Reader α} {text r r' : List Char} {o : Option α} {a : α}
    (h : ComesTo read text o) (hr : EndsNumeral r) (hread : read (text ++ r) = .ok (a, r')) :
    o = some a ∧ r' = r :=
  (h r hr).eq_of_eq_ok hread

def Settles (read : Reader α) (text : List Char) (P : α → Prop) : Prop :=
  ∃ o, (∀ a, o = some a → P a) ∧ ComesTo read text o

/-- It is settled what a text comes to: a value that has a property, unless it is refused. -/
def SettlesUnless (Refused : Prop) (read : Reader α) (text : List Char) (P : α → Prop) : Prop :=
  ∃ o, (o = none ↔ Refused) ∧ (∀ a, o = some a → P a) ∧ ComesTo read text o

namespace SettlesUnless

variable {Refused : Prop} {read read' : Reader α} {text text' : List Char} {P Q : α → Prop}

theorem settles (h : SettlesUnless Refused read text P) : Settles read text P := by
  obtain ⟨o, _, ho, hcomes⟩ := h
  exact ⟨o, ho, hcomes⟩

theorem reads (h : SettlesUnless Refused read text P) (hrefused : ¬ Refused) :
    ∃ a, Reads read text a := by
  obtain ⟨o, hiff, _, hcomes⟩ := h
  obtain ⟨a, rfl⟩ := Option.ne_none_iff_exists'.mp fun ho => hrefused (hiff.mp ho)
  exact ⟨a, hcomes⟩

theorem not_reads (h : SettlesUnless Refused read text P) (hrefused : Refused) {a : α} :
    ¬ Reads read text a := by
  obtain ⟨o, hiff, _, hcomes⟩ := h
  rw [hiff.mpr hrefused] at hcomes
  intro hread
  obtain ⟨e, he⟩ := hcomes [] endsNumeral_nil
  rw [hread [] endsNumeral_nil] at he
  cases he

theorem imp (h : SettlesUnless Refused read text P) (hPQ : ∀ a, P a → Q a) :
    SettlesUnless Refused read text Q := by
  obtain ⟨o, hiff, ho, hcomes⟩ := h
  exact ⟨o, hiff, fun a ha => hPQ a (ho a ha), hcomes⟩

theorem map {Q : β → Prop} (h : SettlesUnless Refused read text P) {f : α → β}
    (hf : ∀ a, P a → Q (f a)) :
    SettlesUnless Refused (fun s => (read s).map fun (a, r) => (f a, r)) text Q := by
  obtain ⟨o, hiff, ho, hcomes⟩ := h
  refine ⟨o.map f, Option.map_eq_none_iff.trans hiff, fun b hb => ?_,
    fun r hr => (hcomes r hr).map f⟩
  obtain ⟨a, ha, rfl⟩ := Option.map_eq_some_iff.mp hb
  exact hf a (ho a ha)

theorem congr (h : SettlesUnless Refused read text P)
    (hread : ∀ r, EndsNumeral r → read' (text' ++ r) = read (text ++ r)) :
    SettlesUnless Refused read' text' P := by
  obtain ⟨o, hiff, ho, hcomes⟩ := h
  exact ⟨o, hiff, ho, fun r hr => (hread r hr).symm ▸ hcomes r hr⟩

end SettlesUnless

namespace Settles

variable {read read' : Reader α} {text text' : List Char} {P : α → Prop}

theorem exists_unless (h : Settles read text P) : ∃ Refused, SettlesUnless Refused read text P := by
  obtain ⟨o, ho, hcomes⟩ := h
  exact ⟨o = none, o, Iff.rfl, ho, hcomes⟩

theorem map {Q : β → Prop} (h : Settles read text P) {f : α → β} (hf : ∀ a, P a → Q (f a)) :
    Settles (fun s => (read s).map fun (a, r) => (f a, r)) text Q := by
  obtain ⟨_, h⟩ := h.exists_unless
  exact (h.map hf).settles

theorem congr (h : Settles read text P)
    (hread : ∀ r, EndsNumeral r → read' (text' ++ r) = read (text ++ r)) :
    Settles read' text' P := by
  obtain ⟨_, h⟩ := h.exists_unless
  exact (h.congr hread).settles

end Settles

end DocumentRest.Json
