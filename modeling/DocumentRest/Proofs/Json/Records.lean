import DocumentRest.Json.Record
import DocumentRest.Proofs.Json.Writing
import Mathlib.Data.List.Nodup

namespace DocumentRest.Json

variable {α σ : Type}

section Scalars

/-- A reader that reads all of a type from the scalars that stand for it, which are neither floats nor
`null`. -/
structure ScalarReader (read : Reader α) (toScalar : α → Scalar) : Prop where
  fits : ∀ a, (toScalar a).Fits
  not_float : ∀ a, ¬ (toScalar a).IsFloat
  ne_null : ∀ a, toScalar a ≠ .null
  reads : ∀ a, Reads read (toScalar a).text a

theorem reads_scalarAs {wanted : String} {pick : Scalar → Except Cause α} {a : Scalar} {b : α}
    (hfits : a.Fits) (hfloat : ¬ a.IsFloat) (hpick : pick a = .ok b) :
    Reads (scalarAs wanted pick) a.text b := by
  intro r hr
  unfold scalarAs
  rw [skipSpace_text hfloat]
  split
  · exact absurd ‹_› (text_append_ne hfloat (by decide) _ _)
  · exact absurd ‹_› (text_append_ne hfloat (by decide) _ _)
  · rw [reads_scalar hfits hfloat r hr]
    simp only [bind, Except.bind, hpick]
    rfl

theorem scalarReader_readString : ScalarReader readString .string where
  fits _ := trivial
  not_float _ := id
  ne_null _ := nofun
  reads _ := reads_scalarAs trivial id rfl

theorem scalarReader_readBool : ScalarReader readBool .bool where
  fits _ := trivial
  not_float _ := id
  ne_null _ := nofun
  reads _ := reads_scalarAs trivial id rfl

theorem scalarReader_readUInt64 :
    ScalarReader readUInt64 fun n => .number (.integer n.toNat) := by
  have hfits (n : UInt64) : (Scalar.number (.integer n.toNat)).Fits := by
    have hlt := n.toNat_lt
    constructor <;> omega
  refine ⟨hfits, fun _ => id, fun _ => nofun, fun n => reads_scalarAs (hfits n) id ?_⟩
  have hnonneg : ¬ (n.toNat : Int) < 0 := by omega
  show (if (n.toNat : Int) < 0 then _ else _) = _
  rw [if_neg hnonneg, Int.toNat_natCast, UInt64.ofNat_toNat]

theorem ScalarReader.reads_optional {read : Reader α} {toScalar : α → Scalar}
    (h : ScalarReader read toScalar) (o : Option α) (l : Layout) :
    Reads (readOptional read) ((Value.optional (o.map fun a => .scalar (toScalar a))).write l) o := by
  cases o with
  | none => exact fun r _ => rfl
  | some a =>
    intro r hr
    show readOptional read ((toScalar a).text ++ r) = _
    unfold readOptional
    rw [skipSpace_text (h.not_float a)]
    split
    · -- Only `null` is read from a text that begins like it.
      rename_i htext
      have hscalar := reads_scalar (h.fits a) (h.not_float a) r hr
      rw [htext] at hscalar
      exact absurd (eq_of_word hscalar) (h.ne_null a)
    · rw [h.reads a r hr]
      rfl

end Scalars

namespace Schema

/-- Members fill fields of a record one after the other, which leads from one record to another. -/
inductive Fills : List (String × Value) → List (Field σ) → σ → σ → Prop
  | nil {a : σ} : Fills [] [] a a
  | cons {v : Value} {ms : List (String × Value)} {field : Field σ} {fields : List (Field σ)}
      {set : σ → σ} {a b : σ} (reads : Reads field.read (v.write .compact) set)
      (more : Fills ms fields (set a) b) : Fills ((field.name, v) :: ms) (field :: fields) a b

theorem Fills.field {name : String} {read : Reader α} {set : σ → α → σ} {v : Value} {x : α}
    {ms : List (String × Value)} {fields : List (Field σ)} {a b : σ}
    (reads : Reads read (v.write .compact) x) (more : Fills ms fields (set a x) b) :
    Fills ((name, v) :: ms) (Json.field name read set :: fields) a b := by
  have hfield : Reads (Json.field name read set).read (v.write .compact) (set · x) :=
    reads.map fun x a => set a x
  exact .cons hfield more

variable {schema : Schema σ}

theorem find?_of_mem (hnodup : (schema.fields.map (·.name)).Nodup) {field : Field σ}
    (h : field ∈ schema.fields) : schema.fields.find? (·.name = field.name) = some field := by
  have hsome : (schema.fields.find? (·.name = field.name)).isSome :=
    List.find?_isSome.mpr ⟨field, h, decide_eq_true rfl⟩
  obtain ⟨field', hfind⟩ := Option.isSome_iff_exists.mp hsome
  have hname : field'.name = field.name := by simpa using List.find?_some hfind
  rw [hfind, List.inj_on_of_nodup_map hnodup (List.mem_of_find?_eq_some hfind) h hname]

theorem reads_addMember (hnodup : (schema.fields.map (·.name)).Nodup) {field : Field σ}
    (h : field ∈ schema.fields) {draft : Draft σ} (hnew : field.name ∉ draft.names)
    {text : List Char} {set : σ → σ} (hread : Reads field.read text set) :
    Reads (schema.addMember field.name draft) (':' :: text)
      ⟨set draft.record, field.name :: draft.names⟩ := by
  intro r hr
  unfold addMember
  rw [find?_of_mem hnodup h]
  dsimp only
  rw [if_neg hnew]
  show (field.read (text ++ r) >>= _) = _
  rw [hread r hr]
  rfl

theorem Fills.membersRead (hnodup : (schema.fields.map (·.name)).Nodup)
    {ms : List (String × Value)} {fields : List (Field σ)} {a b : σ} (h : Fills ms fields a b)
    (hsub : fields ⊆ schema.fields) (names : List String)
    (hnew : (names.reverse ++ fields.map (·.name)).Nodup) :
    MembersRead schema.addMember .compact ⟨a, names⟩ ms
      ⟨b, (fields.map (·.name)).reverse ++ names⟩ := by
  -- The names of the draft and of the fields to come stay distinct, so no field is set twice.
  induction h generalizing names with
  | nil => exact .nil
  | @cons v ms field fields set a b reads _ ih =>
    obtain ⟨hfield, hfields⟩ := List.cons_subset.mp hsub
    have happend : names.reverse ++ (field :: fields).map (·.name) =
        (field.name :: names).reverse ++ fields.map (·.name) := by
      simp only [List.map_cons, List.reverse_cons, List.append_assoc, List.singleton_append]
    have hnot : field.name ∉ names := fun hmem =>
      (List.nodup_append.mp hnew).2.2 _ (List.mem_reverse.mpr hmem) _ List.mem_cons_self rfl
    rw [happend] at hnew
    have hmore := ih hfields _ hnew
    rw [List.map_cons, List.reverse_cons, List.append_assoc, List.singleton_append]
    exact .cons (reads_addMember hnodup hfield hnot reads) hmore

/-- A record is read from an object whose members fill all its fields. -/
theorem Fills.reads {ms : List (String × Value)} {a : σ}
    (h : Fills ms schema.fields schema.blank a) (hnodup : (schema.fields.map (·.name)).Nodup) :
    Reads schema.read ((Value.object ms).write .compact) a := by
  intro r _
  obtain ⟨s, htext, hmembers⟩ :=
    (h.membersRead hnodup (List.Subset.refl _) [] hnodup).members_eq (l := .compact) r
  have hmissing : schema.missing? ⟨a, (schema.fields.map (·.name)).reverse ++ []⟩ = none := by
    have hall : (schema.fields.map (·.name)).find?
        (· ∉ (schema.fields.map (·.name)).reverse ++ []) = none := by
      rw [List.find?_eq_none]
      intro name hname
      simpa using hname
    rw [missing?, hall, ite_self]
  rw [htext]
  show (members .whenRead stringRest schema.addMember ⟨schema.blank, []⟩ s >>= _) = _
  rw [hmembers]
  simp only [bind, Except.bind, hmissing]
  rfl

end Schema

end DocumentRest.Json
