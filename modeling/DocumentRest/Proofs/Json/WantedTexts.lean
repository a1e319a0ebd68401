import DocumentRest.Proofs.Json.Columns

namespace DocumentRest.Json

variable {α : Type}

inductive BoolText : List Char → Bool → Prop
  | mk (b : Bool) : BoolText (if b then "true" else "false").toList b

inductive UInt64Text : List Char → UInt64 → Prop
  | mk (n : UInt64) : UInt64Text (Nat.toDigits 10 n.toNat) n

inductive Optionally (P : List Char → α → Prop) : List Char → Option α → Prop
  | null : Optionally P "null".toList none
  | some {t : List Char} {a : α} (h : P t a) : Optionally P t (some a)

/-- The texts for which `P` says what they stand for are read as that. Of the texts in `D`, no others
are read. -/
structure ReadsAs (read : Reader α) (P : List Char → α → Prop) (D : List Char → Prop) : Prop where
  ignoresSpace : IgnoresSpace read
  complete : ∀ t a, P t a → Reads read t a
  settles : ∀ t, D t → Settles read t (P t)

section Scalars

variable {wanted : String} {pick : Scalar → Except Cause α} {P : List Char → α → Prop}

theorem ignoresSpace_scalarAs : IgnoresSpace (scalarAs wanted pick) := by
  intro w s hw
  unfold scalarAs
  rw [skipSpace_append hw]

theorem scalarAs_scalar {t : List Char} (h : ScalarText t) (r : List Char) :
    scalarAs wanted pick (t ++ r) = scalar (t ++ r) >>= fun (a, r) =>
      match pick a with
      | .ok b => pure (b, r)
      | .error cause => failBefore cause r := by
  unfold scalarAs
  rw [h.skipSpace]
  split
  · exact absurd ‹_› (h.ne_cons (by decide) _ _)
  · exact absurd ‹_› (h.ne_cons (by decide) _ _)
  · rfl

theorem settles_scalarAs (hpick : ∀ t a b, Spells t a → pick a = .ok b → P t b) {t : List Char}
    (h : IsJson t) : Settles (scalarAs wanted pick) t (P t) := by
  obtain ⟨_, h⟩ := h
  cases h with
  | array items =>
    obtain ⟨s, rfl, _⟩ := items
    exact ⟨none, nofun, fun r _ => ⟨_, rfl⟩⟩
  | object members =>
    obtain ⟨s, rfl, _⟩ := members
    exact ⟨none, nofun, fun r _ => ⟨_, rfl⟩⟩
  | scalar h =>
    obtain ⟨o, ho, hcomes⟩ := settles_scalar h
    refine ⟨o.bind fun a => (pick a).toOption, fun b hb => ?_, fun r hr => ?_⟩
    · obtain ⟨a, ha, hb⟩ := Option.bind_eq_some_iff.mp hb
      refine hpick t a b (ho a ha) ?_
      cases hp : pick a with
      | error cause =>
        rw [hp] at hb
        cases hb
      | ok c =>
        rw [hp] at hb
        cases hb
        rfl
    · rw [scalarAs_scalar h]
      refine (hcomes r hr).bind fun a _ => ?_
      dsimp only
      cases pick a with
      | error cause => exact ⟨_, rfl⟩
      | ok b => rfl

theorem readsAs_readString : ReadsAs readString StringText IsJson where
  ignoresSpace := ignoresSpace_scalarAs
  complete := by
    intro t text h r _
    obtain ⟨s, rfl, hs⟩ := h
    have hscalar : scalar ('"' :: (s ++ ['"']) ++ r) = .ok (.string text, r) := by
      rw [List.cons_append, List.append_assoc]
      show (stringRest (s ++ '"' :: r)).map _ = _
      rw [stringRest_of_pieces hs]
      rfl
    unfold readString
    rw [scalarAs_scalar (.string (StringText.token ⟨s, rfl, hs⟩)), hscalar]
    rfl
  settles t ht := by
    refine settles_scalarAs (fun t a b ha hb => ?_) ht
    cases ha with
    | string h =>
      cases hb
      exact h
    | _ => cases hb

theorem readsAs_readBool : ReadsAs readBool BoolText IsJson where
  ignoresSpace := ignoresSpace_scalarAs
  complete := by
    intro t b h
    cases h
    cases b with
    | false => exact scalarReader_readBool.reads false
    | true => exact scalarReader_readBool.reads true
  settles t ht := by
    refine settles_scalarAs (fun t a b ha hb => ?_) ht
    cases ha with
    | bool b' =>
      cases hb
      exact .mk b
    | _ => cases hb

/-- A number that is negative, too large or not written as mere digits is not read. -/
theorem readsAs_readUInt64 : ReadsAs readUInt64 UInt64Text IsJson where
  ignoresSpace := ignoresSpace_scalarAs
  complete := by
    intro t n h
    cases h
    exact scalarReader_readUInt64.reads n
  settles t ht := by
    refine settles_scalarAs (fun t a b ha hb => ?_) ht
    cases ha with
    | @integer n fits =>
      dsimp only at hb
      split at hb
      · cases hb
      · rename_i hneg
        cases hb
        have hmax := fits.2
        have hvalue : (UInt64.ofNat n.toNat).toNat = n.natAbs := by
          rw [UInt64.toNat_ofNat_of_lt' (by rw [UInt64.size]; omega)]
          omega
        rw [text_integer, if_neg hneg, List.nil_append, ← hvalue]
        exact .mk _
    | _ => cases hb

end Scalars

section Optional

variable {read : Reader α} {P : List Char → α → Prop} {D : List Char → Prop}

theorem IsJson.skipSpace {t : List Char} (h : IsJson t) (r : List Char) :
    skipSpace (t ++ r) = t ++ r := by
  obtain ⟨_, h⟩ := h
  exact h.startsItem.skipSpace r

theorem IsJson.ne_cons_n {t : List Char} (h : IsJson t) (hnull : t ≠ "null".toList)
    (r s : List Char) : t ++ r ≠ 'n' :: s := by
  obtain ⟨_, h⟩ := h
  cases h with
  | array items =>
    obtain ⟨s, rfl, _⟩ := items
    nofun
  | object members =>
    obtain ⟨s, rfl, _⟩ := members
    nofun
  | scalar h =>
    cases h with
    | null => exact absurd rfl hnull
    | bool b => cases b <;> nofun
    | string h =>
      obtain ⟨s, ns, rfl, _⟩ := h
      nofun
    | number h =>
      cases h with
      | negative => nofun
      | unsigned h => exact ne_cons_of_startsWithDigit (h.startsWithDigit r) rfl s

theorem readOptional_eq {t : List Char} (h : IsJson t) (hnull : t ≠ "null".toList)
    (r : List Char) : readOptional read (t ++ r) = (read (t ++ r)).map fun (a, r) => (some a, r) := by
  unfold readOptional
  rw [h.skipSpace]
  split
  · exact absurd ‹_› (h.ne_cons_n hnull _ _)
  · rfl

/-- A value that may be missing is read from its texts and from `null`. -/
theorem ReadsAs.optional (h : ReadsAs read P IsJson) (hjson : ∀ t a, P t a → IsJson t)
    (hnull : ∀ a, ¬ P "null".toList a) : ReadsAs (readOptional read) (Optionally P) IsJson where
  ignoresSpace := by
    intro w s hw
    unfold readOptional
    rw [skipSpace_append hw]
  complete := by
    intro t o ho
    cases ho with
    | null => exact fun r _ => rfl
    | @some t a ha =>
      intro r hr
      have hne : t ≠ "null".toList := by
        rintro rfl
        exact hnull a ha
      rw [readOptional_eq (hjson t a ha) hne, h.complete t a ha r hr]
      rfl
  settles := by
    intro t ht
    by_cases hne : t = "null".toList
    · subst hne
      exact ⟨some none, fun o ho => by cases ho; exact .null, fun r _ => rfl⟩
    · exact ((h.settles t ht).map fun a ha => Optionally.some ha).congr
        fun r _ => readOptional_eq ht hne r

theorem StringText.isJson {t : List Char} {text : String} (h : StringText t text) : IsJson t :=
  ⟨0, .scalar (.string h.token)⟩

theorem StringText.ne_null {text : String} : ¬ StringText "null".toList text := by
  rintro ⟨s, hs, _⟩
  cases hs

theorem unsignedText_toDigits (n : Nat) : UnsignedText (Nat.toDigits 10 n) := by
  have hwhole : WholeText (Nat.toDigits 10 n) := by
    by_cases h0 : n = 0
    · exact .inl (by rw [h0, Nat.toDigits_zero])
    · obtain ⟨d, ds, hd, hne, _⟩ := exists_toDigits_cons h0
      refine .inr ⟨⟨Nat.toDigits_ne_nil, fun c hc => isDigit_of_mem_toDigits hc⟩, ?_⟩
      rw [hd]
      exact fun he => hne (Option.some.inj he)
  have htext := UnsignedText.mk hwhole .none .none
  rwa [List.append_nil, List.append_nil] at htext

theorem UInt64Text.isJson {t : List Char} {n : UInt64} (h : UInt64Text t n) : IsJson t := by
  cases h
  exact ⟨0, .scalar (.number (.unsigned (unsignedText_toDigits _)))⟩

theorem UInt64Text.startsWithDigit {t : List Char} {n : UInt64} (h : UInt64Text t n) :
    startsWithDigit t = true := by
  cases h
  have hstart := (unsignedText_toDigits n.toNat).startsWithDigit []
  rwa [List.append_nil] at hstart

theorem UInt64Text.ne_null {n : UInt64} (h : UInt64Text "null".toList n) : False := by
  have hstart := h.startsWithDigit
  cases hstart

end Optional

section Records

variable {σ : Type} {schema : Schema σ} {columns : List (Column σ)}
  {D : String → List Char → Prop}

theorem ReadsAs.fieldLaw {name : String} {read : Reader α} {P : List Char → α → Prop}
    {D' : List Char → Prop} (h : ReadsAs read P D') {set : σ → α → σ} {get : σ → α} {default : α}
    (hD : ∀ t, D name t → D' t) (hget : ∀ a x, get (set a x) = x)
    (hothers : ∀ a x, ∀ col ∈ columns, col.name ≠ name → col.get (set a x) = col.get a) :
    FieldLaw columns D (field name read set) ⟨name, P, get, default⟩ where
  name_eq := rfl
  ignoresSpace := by
    intro w s hw
    show (read (w ++ s)).map _ = _
    rw [h.ignoresSpace w s hw]
    rfl
  complete t x hx := ⟨(set · x), (h.complete t x hx).map fun x a => set a x,
    fun a => ⟨hget a x, hothers a x⟩⟩
  settles t ht := by
    have hset (x : α) (hx : P t x) : ∃ x' : α, P t x' ∧
        Sets columns ⟨name, P, get, default⟩ (set · x) x' :=
      ⟨x, hx, fun a => ⟨hget a x, hothers a x⟩⟩
    exact (h.settles t (hD t ht)).map (f := fun x a => set a x)
      (Q := fun set => ∃ x' : α, P t x' ∧ Sets columns ⟨name, P, get, default⟩ set x') hset

def HoldsTexts (t : List Char) (ms : List (String × List Char)) : Prop :=
  ObjectText StringText Eq t ms ∧ ∀ m ∈ ms, IsJson m.2

theorem exists_jsonText_of_forall {ms : List (String × List Char)} (h : ∀ m ∈ ms, IsJson m.2) :
    ∃ depth, ∀ m ∈ ms, JsonText depth m.2 := by
  induction ms with
  | nil => exact ⟨0, List.forall_mem_nil _⟩
  | cons m ms ih =>
    obtain ⟨⟨d, hd⟩, hms⟩ := List.forall_mem_cons.mp h
    obtain ⟨d', hd'⟩ := ih hms
    refine ⟨max d d', List.forall_mem_cons.mpr ⟨hd.mono (Nat.le_max_left _ _), fun m hm => ?_⟩⟩
    exact (hd' m hm).mono (Nat.le_max_right _ _)

theorem HoldsTexts.isJson {t : List Char} {ms : List (String × List Char)} (h : HoldsTexts t ms) :
    IsJson t := by
  obtain ⟨⟨s, rfl, hs⟩, hjson⟩ := h
  obtain ⟨depth, hdepth⟩ := exists_jsonText_of_forall hjson
  exact ⟨depth + 1, .of_keyed hs (fun _ _ named => ⟨(), named.token⟩) hdepth⟩

/-- The text of a record, its members in any order and among any others. -/
def RecordText (columns : List (Column σ)) (t : List Char) (a : σ) : Prop :=
  ∃ ms, HoldsTexts t ms ∧ Fitting columns ms ∧ ∀ col ∈ columns, col.Takes ms a

theorem ignoresSpace_schema : IgnoresSpace schema.read := by
  intro w s hw
  unfold Schema.read
  rw [skipSpace_append hw]

theorem Tabulates.readsAs (h : Tabulates columns (fun _ => IsJson) schema) :
    ReadsAs schema.read (RecordText columns) fun t => ∃ ms, HoldsTexts t ms where
  ignoresSpace := ignoresSpace_schema
  complete := by
    rintro t a ⟨ms, ⟨ht, hjson⟩, hfit, htakes⟩
    rcases h.comesTo_read ht (fun m hm _ => hjson m hm) fun m hm _ => hjson m hm with
      ⟨b, hreads, _, htakes'⟩ | ⟨_, hunfit⟩
    · rwa [h.eq_of_takes htakes htakes']
    · exact absurd hfit hunfit
  settles := by
    rintro t ⟨ms, ht, hjson⟩
    rcases h.comesTo_read ht (fun m hm _ => hjson m hm) fun m hm _ => hjson m hm with
      ⟨a, hreads, hfit, htakes⟩ | ⟨hnone, _⟩
    · refine ⟨some a, fun b hb => ?_, hreads⟩
      cases hb
      exact ⟨ms, ⟨ht, hjson⟩, hfit, htakes⟩
    · exact ⟨none, nofun, hnone⟩

end Records

end DocumentRest.Json
