import DocumentRest.Proofs.Json.Records
import DocumentRest.Proofs.Json.ValueTexts

namespace DocumentRest.Json

variable {σ : Type}

structure Column (σ : Type) where
  name : String
  {Content : Type}
  spells : List Char → Content → Prop
  get : σ → Content
  default : Content

def Column.Takes (col : Column σ) (ms : List (String × List Char)) (a : σ) : Prop :=
  (∀ t, (col.name, t) ∈ ms → col.spells t (col.get a)) ∧
    (col.name ∉ ms.map (·.1) → col.get a = col.default)

def knownMembers (columns : List (Column σ)) (ms : List (String × List Char)) :
    List (String × List Char) :=
  ms.filter (·.1 ∈ columns.map (·.name))

/-- No column is named twice, and each member that names one stands for a content of it. -/
structure Fitting (columns : List (Column σ)) (ms : List (String × List Char)) : Prop where
  nodup : ((knownMembers columns ms).map (·.1)).Nodup
  spells : ∀ col ∈ columns, ∀ t, (col.name, t) ∈ ms → ∃ x, col.spells t x

section Members

variable {columns : List (Column σ)} {ms ms' : List (String × List Char)} {m : String × List Char}

theorem Column.Takes.congr {col : Column σ} {a b : σ} (h : col.Takes ms a)
    (hms : ∀ t, (col.name, t) ∈ ms' ↔ (col.name, t) ∈ ms) (hget : col.get b = col.get a) :
    col.Takes ms' b := by
  constructor
  · intro t ht
    rw [hget]
    exact h.1 t ((hms t).mp ht)
  · intro habsent
    rw [hget]
    apply h.2
    intro hmem
    obtain ⟨⟨k, t⟩, ht, rfl⟩ := List.mem_map.mp hmem
    exact habsent (List.mem_map_of_mem ((hms t).mpr ht))

theorem mem_knownMembers {col : Column σ} (hcol : col ∈ columns) (t : List Char) :
    (col.name, t) ∈ knownMembers columns ms ↔ (col.name, t) ∈ ms := by
  have hknown : col.name ∈ columns.map (·.name) := List.mem_map_of_mem hcol
  rw [knownMembers, List.mem_filter]
  exact and_iff_left (by simpa using hknown)

theorem knownMembers_append_known (h : m.1 ∈ columns.map (·.name)) :
    knownMembers columns (ms ++ [m]) = knownMembers columns ms ++ [m] := by
  rw [knownMembers, List.filter_append, List.filter_cons_of_pos (by simpa using h), List.filter_nil]
  rfl

theorem knownMembers_append_unknown (h : m.1 ∉ columns.map (·.name)) :
    knownMembers columns (ms ++ [m]) = knownMembers columns ms := by
  rw [knownMembers, List.filter_append, List.filter_cons_of_neg (by simpa using h), List.filter_nil,
    List.append_nil]
  rfl

theorem Fitting.of_takes {a : σ} (hnodup : ((knownMembers columns ms).map (·.1)).Nodup)
    (h : ∀ col ∈ columns, col.Takes ms a) : Fitting columns ms :=
  ⟨hnodup, fun col hcol t ht => ⟨_, (h col hcol).1 t ht⟩⟩

theorem Fitting.of_append (h : Fitting columns (ms ++ ms')) : Fitting columns ms := by
  constructor
  · have hnodup := h.nodup
    rw [knownMembers, List.filter_append, List.map_append] at hnodup
    exact (List.nodup_append.mp hnodup).1
  · exact fun col hcol t ht => h.spells col hcol t (List.mem_append_left _ ht)

section Order

variable (hperm : (knownMembers columns ms).Perm (knownMembers columns ms'))

include hperm

theorem mem_of_perm {col : Column σ} (hcol : col ∈ columns) (t : List Char) :
    (col.name, t) ∈ ms' ↔ (col.name, t) ∈ ms := by
  calc
    (col.name, t) ∈ ms' ↔ (col.name, t) ∈ knownMembers columns ms' := (mem_knownMembers hcol t).symm
    _ ↔ (col.name, t) ∈ knownMembers columns ms := hperm.mem_iff.symm
    _ ↔ (col.name, t) ∈ ms := mem_knownMembers hcol t

/-- Neither the order of the members nor those that name no column count. -/
theorem Fitting.of_perm (h : Fitting columns ms) : Fitting columns ms' :=
  ⟨(hperm.map _).nodup_iff.mp h.nodup,
    fun col hcol t ht => h.spells col hcol t ((mem_of_perm hperm hcol t).mp ht)⟩

end Order

end Members

section Laws

def Sets (columns : List (Column σ)) (col : Column σ) (set : σ → σ) (x : col.Content) : Prop :=
  ∀ a, col.get (set a) = x ∧ ∀ col' ∈ columns, col'.name ≠ col.name → col'.get (set a) = col'.get a

/-- A field reads the contents of a column. Of the texts in `D`, it reads no others. -/
structure FieldLaw (columns : List (Column σ)) (D : String → List Char → Prop) (field : Field σ)
    (col : Column σ) : Prop where
  name_eq : field.name = col.name
  ignoresSpace : IgnoresSpace field.read
  complete : ∀ t x, col.spells t x → ∃ set, Reads field.read t set ∧ Sets columns col set x
  settles : ∀ t, D col.name t →
    Settles field.read t fun set => ∃ x, col.spells t x ∧ Sets columns col set x

structure Tabulates (columns : List (Column σ)) (D : String → List Char → Prop)
    (schema : Schema σ) : Prop where
  nodup : (columns.map (·.name)).Nodup
  optional : schema.required = false
  blank : ∀ col ∈ columns, col.get schema.blank = col.default
  fields : List.Forall₂ (FieldLaw columns D) schema.fields columns
  ext : ∀ a b, (∀ col ∈ columns, col.get a = col.get b) → a = b

/-- A draft has all columns of the members that were read. -/
structure Agrees (columns : List (Column σ)) (ms : List (String × List Char)) (draft : Draft σ) :
    Prop where
  takes : ∀ col ∈ columns, col.Takes ms draft.record
  names : draft.names = ((knownMembers columns ms).map (·.1)).reverse
  nodup : ((knownMembers columns ms).map (·.1)).Nodup

variable {columns : List (Column σ)} {D : String → List Char → Prop} {schema : Schema σ}
  {ms : List (String × List Char)} {draft : Draft σ}

theorem Agrees.fitting (h : Agrees columns ms draft) : Fitting columns ms :=
  .of_takes h.nodup h.takes

theorem Agrees.append_unknown (h : Agrees columns ms draft) {m : String × List Char}
    (hm : m.1 ∉ columns.map (·.name)) : Agrees columns (ms ++ [m]) draft := by
  have hkeys : (knownMembers columns (ms ++ [m])).map (·.1) =
      (knownMembers columns ms).map (·.1) := by
    rw [knownMembers_append_unknown hm]
  refine ⟨fun col hcol => (h.takes col hcol).congr (fun t => ?_) rfl, hkeys ▸ h.names,
    hkeys ▸ h.nodup⟩
  rw [List.mem_append, List.mem_singleton, or_iff_left]
  rintro rfl
  exact hm (List.mem_map_of_mem hcol)

theorem Agrees.append_known (h : Agrees columns ms draft) {col : Column σ} (hcol : col ∈ columns)
    (hnodup : (columns.map (·.name)).Nodup) (hnew : col.name ∉ draft.names) {t : List Char}
    {x : col.Content} (hx : col.spells t x) {set : σ → σ} (hset : Sets columns col set x) :
    Agrees columns (ms ++ [(col.name, t)]) ⟨set draft.record, col.name :: draft.names⟩ := by
  have hknown : col.name ∈ columns.map (·.name) := List.mem_map_of_mem hcol
  have hkeys : (knownMembers columns (ms ++ [(col.name, t)])).map (·.1) =
      (knownMembers columns ms).map (·.1) ++ [col.name] := by
    rw [knownMembers_append_known hknown, List.map_append]
    rfl
  have hold : col.name ∉ (knownMembers columns ms).map (·.1) := by
    rwa [h.names, List.mem_reverse] at hnew
  have hfirst (u : List Char) : (col.name, u) ∉ ms :=
    fun hu => hold (List.mem_map_of_mem ((mem_knownMembers hcol u).mpr hu))
  obtain ⟨hget, hothers⟩ := hset draft.record
  refine ⟨fun col' hcol' => ?_, ?_, ?_⟩
  · by_cases heq : col'.name = col.name
    · obtain rfl := List.inj_on_of_nodup_map hnodup hcol' hcol heq
      constructor
      · intro u hu
        rw [List.mem_append, List.mem_singleton] at hu
        cases hu.resolve_left (hfirst u)
        exact hget ▸ hx
      · exact fun habsent => absurd (by simp) habsent
    · refine (h.takes col' hcol').congr (fun u => ?_) (hothers col' hcol' heq)
      rw [List.mem_append, List.mem_singleton, or_iff_left]
      exact fun he => heq (congrArg Prod.fst he)
  · rw [hkeys, List.reverse_append, h.names]
    rfl
  · rw [hkeys, List.nodup_append]
    exact ⟨h.nodup, List.nodup_singleton _, fun k hk k' hk' => by
      cases List.mem_singleton.mp hk'
      rintro rfl
      exact hold hk⟩

theorem names_eq {fields : List (Field σ)} {cols : List (Column σ)}
    (h : List.Forall₂ (FieldLaw columns D) fields cols) :
    fields.map (·.name) = cols.map (·.name) := by
  induction h with
  | nil => rfl
  | cons law _ ih => rw [List.map_cons, List.map_cons, law.name_eq, ih]

theorem exists_fieldLaw {fields : List (Field σ)} {cols : List (Column σ)}
    (h : List.Forall₂ (FieldLaw columns D) fields cols) {col : Column σ} (hcol : col ∈ cols) :
    ∃ field ∈ fields, FieldLaw columns D field col := by
  induction h with
  | nil => cases hcol
  | cons law _ ih =>
    rcases List.mem_cons.mp hcol with rfl | hcol
    · exact ⟨_, List.mem_cons_self, law⟩
    · obtain ⟨field, hfield, law'⟩ := ih hcol
      exact ⟨field, List.mem_cons_of_mem _ hfield, law'⟩

theorem Tabulates.find?_known (h : Tabulates columns D schema) {col : Column σ}
    (hcol : col ∈ columns) : ∃ field, schema.fields.find? (·.name = col.name) = some field ∧
      FieldLaw columns D field col := by
  obtain ⟨field, hfield, law⟩ := exists_fieldLaw h.fields hcol
  have hnodup : (schema.fields.map (·.name)).Nodup := names_eq h.fields ▸ h.nodup
  exact ⟨field, law.name_eq ▸ Schema.find?_of_mem hnodup hfield, law⟩

theorem Tabulates.find?_unknown (h : Tabulates columns D schema) {key : String}
    (hkey : key ∉ columns.map (·.name)) : schema.fields.find? (·.name = key) = none := by
  rw [← names_eq h.fields] at hkey
  rw [List.find?_eq_none]
  intro field hfield hname
  exact hkey (List.mem_map.mpr ⟨field, hfield, by simpa using hname⟩)

/-- What comes of a member in the place of a draft, and how that agrees with the members before it. -/
structure ActLaw (columns : List (Column σ)) (schema : Schema σ) (m : String × List Char)
    (act : Draft σ → Option (Draft σ)) : Prop where
  comesTo : ∀ w w', IsSpaceText w → IsSpaceText w' → ∀ draft,
    ComesTo (schema.addMember m.1 draft) (w ++ ':' :: (w' ++ m.2)) (act draft)
  agrees : ∀ ms draft, Agrees columns ms draft →
    (∃ draft', act draft = some draft' ∧ Agrees columns (ms ++ [m]) draft') ∨
      act draft = none ∧ ¬ Fitting columns (ms ++ [m])

/-- A column is not set a second time. -/
theorem Agrees.not_fitting_append (h : Agrees columns ms draft) {col : Column σ} (hcol : col ∈ columns)
    (hold : col.name ∈ draft.names) (t : List Char) : ¬ Fitting columns (ms ++ [(col.name, t)]) := by
  intro hfit
  have hnodup := hfit.nodup
  rw [h.names, List.mem_reverse] at hold
  rw [knownMembers_append_known (List.mem_map_of_mem hcol), List.map_append,
    List.nodup_append] at hnodup
  exact hnodup.2.2 _ hold _ List.mem_cons_self rfl

/-- A member that names a column sets it, or ends the draft. -/
theorem Tabulates.exists_act_known (h : Tabulates columns D schema) {col : Column σ}
    (hcol : col ∈ columns) {t : List Char} (ht : D col.name t) :
    ∃ act, ActLaw columns schema (col.name, t) act := by
  obtain ⟨field, hfind, law⟩ := h.find?_known hcol
  obtain ⟨o, ho, hcomes⟩ := law.settles t ht
  refine ⟨fun draft => if col.name ∈ draft.names then none else
    o.map fun set => ⟨set draft.record, col.name :: draft.names⟩, ?_, ?_⟩
  · intro w w' hw hw' draft r hr
    unfold Schema.addMember
    rw [hfind]
    dsimp only
    split
    · exact ⟨_, rfl⟩
    · have hread := hcomes.behind_space law.ignoresSpace hw' r hr
      rw [List.append_assoc, List.cons_append, colon_append hw]
      exact hread.bind_pure fun set => (⟨set draft.record, col.name :: draft.names⟩ : Draft σ)
  · intro ms draft hagrees
    split
    · exact .inr ⟨rfl, hagrees.not_fitting_append hcol ‹_› t⟩
    · cases o with
      | some set =>
        obtain ⟨x, hx, hset⟩ := ho set rfl
        exact .inl ⟨_, rfl, hagrees.append_known hcol h.nodup ‹_› hx hset⟩
      | none =>
        refine .inr ⟨rfl, fun hfit => ?_⟩
        obtain ⟨x, hx⟩ := hfit.spells col hcol t (by simp)
        obtain ⟨set, hreads, _⟩ := law.complete t x hx
        obtain ⟨e, he⟩ := hcomes [] endsNumeral_nil
        rw [hreads [] endsNumeral_nil] at he
        cases he

theorem Tabulates.actLaw_unknown (h : Tabulates columns D schema) {m : String × List Char}
    (hm : m.1 ∉ columns.map (·.name)) (hjson : IsJson m.2) : ActLaw columns schema m some := by
  refine ⟨?_, fun ms draft hagrees => .inl ⟨draft, rfl, hagrees.append_unknown hm⟩⟩
  intro w w' hw hw' draft r hr
  have hskip := skipValue_append hjson hw' r hr
  unfold Schema.addMember
  rw [h.find?_unknown hm, List.append_assoc, List.cons_append, colon_append hw]
  show (skipValue (w' ++ m.2 ++ r) >>= _) = _
  rw [hskip]
  rfl

theorem Tabulates.exists_act (h : Tabulates columns D schema) {m : String × List Char}
    (hknown : m.1 ∈ columns.map (·.name) → D m.1 m.2)
    (hunknown : m.1 ∉ columns.map (·.name) → IsJson m.2) :
    ∃ act, ActLaw columns schema m act := by
  by_cases hm : m.1 ∈ columns.map (·.name)
  · obtain ⟨col, hcol, hname⟩ := List.mem_map.mp hm
    have hact := h.exists_act_known hcol (hname ▸ hknown hm)
    rwa [hname] at hact
  · exact ⟨some, h.actLaw_unknown hm (hunknown hm)⟩

theorem agrees_blank (h : Tabulates columns D schema) : Agrees columns [] ⟨schema.blank, []⟩ :=
  ⟨fun col hcol => ⟨fun _ ht => absurd ht List.not_mem_nil, fun _ => h.blank col hcol⟩, rfl,
    List.nodup_nil⟩

theorem agrees_actAll {act : String × List Char → Draft σ → Option (Draft σ)}
    {rest : List (String × List Char)}
    (hact : ∀ m ∈ rest, ActLaw columns schema m (act m)) (h : Agrees columns ms draft) :
    (∃ draft', actAll (rest.map act) draft = some draft' ∧ Agrees columns (ms ++ rest) draft') ∨
      actAll (rest.map act) draft = none ∧ ¬ Fitting columns (ms ++ rest) := by
  induction rest generalizing ms draft with
  | nil => exact .inl ⟨draft, rfl, by rwa [List.append_nil]⟩
  | cons m rest ih =>
    have happend : ms ++ m :: rest = (ms ++ [m]) ++ rest := by simp
    rw [happend, List.map_cons, actAll]
    rcases (hact m List.mem_cons_self).agrees ms draft h with ⟨draft', hstep, hagrees⟩ | ⟨hstep, hunfit⟩
    · rw [hstep]
      exact ih (fun m hm => hact m (List.mem_cons_of_mem _ hm)) hagrees
    · rw [hstep]
      exact .inr ⟨rfl, fun hfit => hunfit hfit.of_append⟩

theorem Tabulates.read_object (h : Tabulates columns D schema) (s r : List Char) :
    schema.read ('\x7b' :: (s ++ ['\x7d']) ++ r) =
      (members .whenRead stringRest schema.addMember ⟨schema.blank, []⟩ (s ++ '\x7d' :: r)).map
        fun p => (p.1.record, p.2) := by
  have hmissing (draft : Draft σ) : schema.missing? draft = none := by
    rw [Schema.missing?, h.optional]
    rfl
  rw [List.cons_append, List.append_assoc]
  show schema.ofObject (s ++ '\x7d' :: r) = _
  unfold Schema.ofObject
  cases members .whenRead stringRest schema.addMember ⟨schema.blank, []⟩ (s ++ '\x7d' :: r) with
  | error e => rfl
  | ok p =>
    simp only [bind, Except.bind, hmissing]
    rfl

/-- A record is read from an object just if its members fit, and then has all columns of them. -/
theorem Tabulates.comesTo_read (h : Tabulates columns D schema) {t : List Char}
    (ht : ObjectText StringText Eq t ms) (hknown : ∀ m ∈ ms, m.1 ∈ columns.map (·.name) → D m.1 m.2)
    (hunknown : ∀ m ∈ ms, m.1 ∉ columns.map (·.name) → IsJson m.2) :
    (∃ a, Reads schema.read t a ∧ Fitting columns ms ∧ ∀ col ∈ columns, col.Takes ms a) ∨
      ComesTo schema.read t none ∧ ¬ Fitting columns ms := by
  obtain ⟨s, rfl, hs⟩ := ht
  have hacts (m : String × List Char) : ∃ act, m ∈ ms → ActLaw columns schema m act := by
    by_cases hm : m ∈ ms
    · obtain ⟨act, hact⟩ := h.exists_act (hknown m hm) (hunknown m hm)
      exact ⟨act, fun _ => hact⟩
    · exact ⟨some, fun hm' => absurd hm' hm⟩
  choose act hact using hacts
  have hmember (u : List Char) (m : String × List Char) (hm : m ∈ ms)
      (hu : MemberText StringText Eq u m) :
      MemberComesTo stringRest schema.addMember u (act m) := by
    cases hu with
    | @mk name w w' u k t named space space' value =>
      subst value
      have hadd (key : String) (draft : Draft σ) : some k = some key →
          ComesTo (schema.addMember key draft) (w ++ ':' :: (w' ++ u)) (act (k, u) draft) := by
        rintro ⟨⟩
        exact (hact _ hm).comesTo w w' space space' draft
      have hcomes := memberComesTo named.comes hadd
      exact hcomes
  have hread : ComesTo schema.read ('\x7b' :: (s ++ ['\x7d']))
      ((actAll (ms.map act) ⟨schema.blank, []⟩).map Draft.record) := by
    intro r _
    rw [h.read_object]
    exact (comes_members .whenRead (hs.map hmember) ⟨schema.blank, []⟩ r).map Draft.record
  rcases agrees_actAll hact (agrees_blank h) with ⟨draft, hdraft, hagrees⟩ | ⟨hnone, hunfit⟩
  · rw [hdraft] at hread
    exact .inl ⟨draft.record, hread, hagrees.fitting, hagrees.takes⟩
  · rw [hnone] at hread
    exact .inr ⟨hread, hunfit⟩

/-- The columns of members determine a record. -/
theorem Tabulates.eq_of_takes (h : Tabulates columns D schema) {a b : σ}
    (ha : ∀ col ∈ columns, col.Takes ms a) (hb : ∀ col ∈ columns, col.Takes ms b) : a = b := by
  refine h.ext a b fun col hcol => ?_
  by_cases hmem : col.name ∈ ms.map (·.1)
  · obtain ⟨⟨k, t⟩, ht, hk⟩ := List.mem_map.mp hmem
    cases hk
    obtain ⟨field, _, law⟩ := h.find?_known hcol
    obtain ⟨set, hread, hset⟩ := law.complete t _ ((ha col hcol).1 t ht)
    obtain ⟨set', hread', hset'⟩ := law.complete t _ ((hb col hcol).1 t ht)
    have heq : set = set' := by
      have hboth := hread [] endsNumeral_nil
      rw [hread' [] endsNumeral_nil] at hboth
      cases hboth
      rfl
    subst heq
    rw [← (hset a).1, ← (hset' a).1]
  · rw [(ha col hcol).2 hmem, (hb col hcol).2 hmem]

end Laws

end DocumentRest.Json
