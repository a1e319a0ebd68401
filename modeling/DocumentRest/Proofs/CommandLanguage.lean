import DocumentRest.Command
import DocumentRest.Proofs.Words

namespace DocumentRest

theorem exists_of_map_eq_ok {α β ε : Type} {f : α → β} {r : Except ε α} {b : β}
    (h : r.map f = .ok b) : ∃ a, r = .ok a ∧ f a = b := by
  cases r with
  | error e => cases h
  | ok a => exact ⟨a, rfl, Except.ok.inj h⟩

namespace Command

open Text (IsTrimmed IsWord Trims)

/-- The arguments of a command are such as a line can hold: a word or, where it may be any text, a
trimmed one, and no setting is `-`. -/
def WellFormed : Command → Prop
  | connect credentials =>
    ∀ k ∈ credentials, IsWord k.username.toList ∧ IsWord k.password.toList
  | query sql | command sql => sql.toList ≠ [] ∧ IsTrimmed sql.toList
  | load rid plan => IsWord rid.toList ∧ ∀ p ∈ plan, IsWord p.toList
  | classInfo name | createClass name | cluster name => IsWord name.toList
  | limit value | fetchPlan value => ∀ v ∈ value, IsWord v.toList ∧ v ≠ "-"
  | _ => True

section Reading

variable {form : Form} {rest line : List Char} {c : Command}

theorem textArgument_eq_ok {s : String} (h : textArgument form rest = .ok s) :
    s.toList = rest ∧ rest ≠ [] := by
  unfold textArgument at h
  cases rest with
  | nil => cases h
  | cons a r =>
    cases h
    exact ⟨String.toList_ofList, by simp⟩

theorem wordArgument_eq_ok {s : String} (h : wordArgument form rest = .ok s) :
    IsWord s.toList := by
  unfold wordArgument at h
  cases hb : rest.any Text.isBlank with
  | true =>
    rw [hb, if_pos rfl] at h
    cases h
  | false =>
    rw [hb, if_neg Bool.false_ne_true] at h
    obtain ⟨hs, hne⟩ := textArgument_eq_ok h
    rw [hs]
    exact Text.isWord_of_any hne hb

theorem settingArgument_eq_ok {value : Option String} (h : settingArgument form rest = .ok value) :
    ∀ s ∈ value, IsWord s.toList ∧ s ≠ "-" := by
  obtain ⟨s, hs, hv⟩ := exists_of_map_eq_ok h
  intro s' hs'
  by_cases hd : s = "-"
  · rw [if_pos hd] at hv
    rw [← hv] at hs'
    cases hs'
  · rw [if_neg hd] at hv
    rw [← hv] at hs'
    cases hs'
    exact ⟨wordArgument_eq_ok hs, hd⟩

theorem wellFormed_connectArguments {args : List (List Char)} (hw : ∀ w ∈ args, IsWord w)
    (h : connectArguments args = .ok c) : c.WellFormed := by
  unfold connectArguments at h
  split at h
  · cases h
    intro k hk
    cases hk
  · cases h
    intro k hk
    cases hk
    simpa using hw
  · cases h

theorem wellFormed_loadArguments {args : List (List Char)} (hw : ∀ w ∈ args, IsWord w)
    (h : loadArguments args = .ok c) : c.WellFormed := by
  unfold loadArguments at h
  split at h
  · cases h
    exact ⟨by simpa using hw, by simp⟩
  · cases h
    simpa [WellFormed] using hw
  · cases h

theorem wellFormed_rawArgument (h : rawArgument rest = .ok c) : c.WellFormed := by
  unfold rawArgument at h
  split_ifs at h <;> cases h <;> exact True.intro

theorem wellFormed_ofVerb {v : Verb} (hline : IsTrimmed line) (hne : line ≠ [])
    (hrest : IsTrimmed rest) (h : ofVerb line rest v = .ok c) : c.WellFormed := by
  cases v with
  | connect => exact wellFormed_connectArguments (fun w => Text.isWord_of_mem_words) h
  | load => exact wellFormed_loadArguments (fun w => Text.isWord_of_mem_words) h
  | raw => exact wellFormed_rawArgument h
  | select =>
    cases h
    have hs : (String.ofList line).toList = line := String.toList_ofList
    rw [← hs] at hne hline
    exact ⟨hne, hline⟩
  | query | command =>
    obtain ⟨s, hs, rfl⟩ := exists_of_map_eq_ok h
    obtain ⟨he, hne⟩ := textArgument_eq_ok hs
    rw [← he] at hne hrest
    exact ⟨hne, hrest⟩
  | classInfo | createClass | cluster =>
    obtain ⟨s, hs, rfl⟩ := exists_of_map_eq_ok h
    exact wordArgument_eq_ok hs
  | limit | fetchPlan =>
    obtain ⟨value, hv, rfl⟩ := exists_of_map_eq_ok h
    exact settingArgument_eq_ok hv
  | _ =>
    cases h
    exact True.intro

theorem wellFormed_ofTrimmed (hline : IsTrimmed line) (hne : line ≠ [])
    (h : ofTrimmed line = .ok c) : c.WellFormed := by
  simp only [ofTrimmed, Text.firstWord] at h
  split at h
  · exact wellFormed_ofVerb hline hne (Text.isTrimmed_trim _) h
  · cases h

theorem parse_eq_none_iff {s : String} :
    parse s = .ok none ↔ Text.trim s.toList = [] ∨ "--".toList <+: Text.trim s.toList := by
  have hc : isComment (Text.trim s.toList) = true ↔ "--".toList <+: Text.trim s.toList :=
    List.isPrefixOf_iff_prefix
  rw [← hc, ← List.isEmpty_iff, ← Bool.or_eq_true]
  simp only [parse]
  cases hb : (Text.trim s.toList).isEmpty || isComment (Text.trim s.toList) with
  | true => simp
  | false =>
    refine iff_of_false (fun h => ?_) Bool.false_ne_true
    rw [if_neg Bool.false_ne_true] at h
    obtain ⟨_, _, he⟩ := exists_of_map_eq_ok h
    cases he

theorem parse_eq_of_trim_eq {s s' : String} (h : Text.trim s.toList = Text.trim s'.toList) :
    parse s = parse s' := by
  simp only [parse, h]

theorem wellFormed_of_parse {s : String} (h : parse s = .ok (some c)) : c.WellFormed := by
  simp only [parse] at h
  cases hb : (Text.trim s.toList).isEmpty || isComment (Text.trim s.toList) with
  | true =>
    rw [hb, if_pos rfl] at h
    cases h
  | false =>
    rw [hb, if_neg Bool.false_ne_true] at h
    obtain ⟨c', hc, he⟩ := exists_of_map_eq_ok h
    cases he
    rw [Bool.or_eq_false_iff, List.isEmpty_eq_false_iff] at hb
    exact wellFormed_ofTrimmed (Text.isTrimmed_trim _) hb.1 hc

end Reading

section Writing

variable {c : Command}

def verb : Command → Verb
  | connect _ => .connect
  | query _ => .query
  | load .. => .load
  | classInfo _ => .classInfo
  | createClass _ => .createClass
  | cluster _ => .cluster
  | command _ => .command
  | server => .server
  | schema => .schema
  | roles => .roles
  | users => .users
  | limit _ => .limit
  | fetchPlan _ => .fetchPlan
  | raw _ => .raw
  | status => .status
  | disconnect => .disconnect
  | help => .help
  | quit => .quit

def argumentTexts (c : Command) : List (List Char) := c.arguments.map String.toList

theorem ofWord?_name (c : Command) :
    Verb.ofWord? (.ofList (c.name.toList.map Char.toLower)) = some c.verb := by
  cases c <;> simp only [name, verb] <;> decide

theorem isWord_name (c : Command) : IsWord c.name.toList := by
  apply Text.isWord_of_any
  · cases c <;> simp only [name] <;> decide
  · cases c <;> simp only [name] <;> decide

theorem isComment_name (c : Command) (s : List Char) : isComment (c.name.toList ++ s) = false := by
  have hhead : c.name.toList.head? ≠ some '-' := by cases c <;> simp only [name] <;> decide
  obtain ⟨a, r, hname⟩ := List.exists_cons_of_ne_nil (isWord_name c).ne_nil
  rw [isComment, ← Bool.not_eq_true, List.isPrefixOf_iff_prefix, hname]
  rintro ⟨t, ht⟩
  have ha : '-' = a := (List.cons.inj ht).1
  rw [hname, ← ha] at hhead
  exact hhead rfl

theorem toList_line (c : Command) :
    c.line.toList = [' '].intercalate (c.name.toList :: c.argumentTexts) :=
  String.toList_intercalate

theorem textArgument_toList {s : String} (h : s.toList ≠ []) (form : Form) :
    textArgument form s.toList = .ok s := by
  rw [textArgument, List.isEmpty_eq_false_iff.mpr h, if_neg Bool.false_ne_true,
    String.ofList_toList]

theorem wordArgument_toList {s : String} (h : IsWord s.toList) (form : Form) :
    wordArgument form s.toList = .ok s := by
  rw [wordArgument, h.any_eq_false, if_neg Bool.false_ne_true, textArgument_toList h.ne_nil]

theorem isWord_setting {value : Option String} (h : ∀ v ∈ value, IsWord v.toList ∧ v ≠ "-") :
    IsWord (value.getD "-").toList := by
  cases value with
  | none => exact Text.isWord_of_any (by decide) (by decide)
  | some v => exact (h v rfl).1

theorem settingArgument_toList {value : Option String}
    (h : ∀ v ∈ value, IsWord v.toList ∧ v ≠ "-") (form : Form) :
    settingArgument form (value.getD "-").toList = .ok value := by
  rw [settingArgument, wordArgument_toList (isWord_setting h)]
  cases value with
  | none => rfl
  | some v => exact congrArg Except.ok (if_neg (h v rfl).2)

theorem rawArgument_toList (on : Bool) :
    rawArgument (if on then "on" else "off").toList = .ok (raw on) := by
  cases on <;> rfl

theorem connectArguments_toList (k : Credentials) :
    connectArguments [k.username.toList, k.password.toList] = .ok (connect (some k)) := by
  rw [connectArguments, String.ofList_toList, String.ofList_toList]

theorem loadArguments_toList (rid : String) (plan : Option String) :
    loadArguments (rid.toList :: plan.toList.map String.toList) = .ok (load rid plan) := by
  cases plan with
  | none => exact congrArg (fun r => Except.ok (load r none)) String.ofList_toList
  | some p =>
    simp only [Option.toList_some, List.map_cons, List.map_nil, loadArguments, String.ofList_toList]

/-- Only a query or a command can have an argument that is no word. -/
theorem WellFormed.isTrimmed_of_mem (h : c.WellFormed) :
    ∀ w ∈ c.argumentTexts, w ≠ [] ∧ IsTrimmed w := by
  have hword {w : List Char} (hw : IsWord w) : w ≠ [] ∧ IsTrimmed w := ⟨hw.ne_nil, hw.isTrimmed⟩
  have hone {w : List Char} (hw : w ≠ [] ∧ IsTrimmed w) : ∀ v ∈ [w], v ≠ [] ∧ IsTrimmed v :=
    List.forall_mem_singleton.mpr hw
  have htwo {w w' : List Char} (hw : IsWord w) (hw' : IsWord w') :
      ∀ v ∈ [w, w'], v ≠ [] ∧ IsTrimmed v :=
    List.forall_mem_cons.mpr ⟨hword hw, hone (hword hw')⟩
  cases c with
  | connect credentials =>
    cases credentials with
    | none => exact List.forall_mem_nil _
    | some k => exact htwo (h k rfl).1 (h k rfl).2
  | load rid plan =>
    cases plan with
    | none => exact hone (hword h.1)
    | some p => exact htwo h.1 (h.2 p rfl)
  | query | command => exact hone h
  | classInfo | createClass | cluster => exact hone (hword h)
  | limit | fetchPlan => exact hone (hword (isWord_setting h))
  | raw on =>
    have hon : IsWord (if on then "on" else "off").toList := by
      cases on <;> exact Text.isWord_of_any (by decide) (by decide)
    exact hone (hword hon)
  | _ => exact List.forall_mem_nil _

/-- The arguments of a command are read as they were written, whatever the whole line is. -/
theorem ofVerb_argumentTexts (h : c.WellFormed) (line : List Char) :
    ofVerb line ([' '].intercalate c.argumentTexts) c.verb = .ok c := by
  cases c with
  | connect credentials =>
    cases credentials with
    | none => rfl
    | some k =>
      obtain ⟨hu, hp⟩ := h k rfl
      have hw : Text.words ([' '].intercalate [k.username.toList, k.password.toList]) =
          [k.username.toList, k.password.toList] :=
        Text.words_intercalate (by simpa using And.intro hu hp)
      exact (congrArg connectArguments hw).trans (connectArguments_toList k)
  | load rid plan =>
    have ht : (load rid plan).argumentTexts = rid.toList :: plan.toList.map String.toList := by
      cases plan <;> rfl
    have hw : Text.words ([' '].intercalate (rid.toList :: plan.toList.map String.toList)) =
        rid.toList :: plan.toList.map String.toList := by
      apply Text.words_intercalate
      intro w hw
      rcases List.mem_cons.mp hw with rfl | hw
      · exact h.1
      · obtain ⟨p, hp, rfl⟩ := List.mem_map.mp hw
        exact h.2 p (Option.mem_toList.mp hp)
    rw [ht]
    exact (congrArg loadArguments hw).trans (loadArguments_toList rid plan)
  | query | command =>
    simp only [argumentTexts, arguments, List.map_cons, List.map_nil, List.intercalate_singleton,
      verb, ofVerb, textArgument_toList h.1, Except.map]
  | classInfo | createClass | cluster =>
    simp only [argumentTexts, arguments, List.map_cons, List.map_nil, List.intercalate_singleton,
      verb, ofVerb, wordArgument_toList h, Except.map]
  | limit | fetchPlan =>
    simp only [argumentTexts, arguments, List.map_cons, List.map_nil, List.intercalate_singleton,
      verb, ofVerb, settingArgument_toList h, Except.map]
  | raw on =>
    simp only [argumentTexts, arguments, List.map_cons, List.map_nil, List.intercalate_singleton,
      verb, ofVerb, rawArgument_toList]
  | _ => rfl

/-- A command is read from the line that it is written as. -/
theorem parse_line (h : c.WellFormed) : parse c.line = .ok (some c) := by
  have hargs : IsTrimmed ([' '].intercalate c.argumentTexts) :=
    Text.isTrimmed_intercalate h.isTrimmed_of_mem
  have hfirst : Text.firstWord c.line.toList =
      (c.name.toList, [' '].intercalate c.argumentTexts) := by
    rw [toList_line, Text.firstWord_intercalate (isWord_name c) hargs]
  have htrim : IsTrimmed c.line.toList := by
    rw [toList_line]
    apply Text.isTrimmed_intercalate
    intro w hw
    rcases List.mem_cons.mp hw with rfl | hw
    · exact ⟨(isWord_name c).ne_nil, (isWord_name c).isTrimmed⟩
    · exact h.isTrimmed_of_mem w hw
  have hempty : c.line.toList.isEmpty = false := by
    rw [toList_line, List.isEmpty_eq_false_iff]
    exact Text.intercalate_ne_nil (isWord_name c).ne_nil _
  have hcomment : isComment c.line.toList = false := by
    obtain ⟨s, hs⟩ : ∃ s, c.line.toList = c.name.toList ++ s := by
      rw [toList_line]
      exact Text.exists_intercalate_cons _ _
    rw [hs, isComment_name]
  have hparsed : ofTrimmed c.line.toList = .ok c := by
    simp only [ofTrimmed, hfirst, ofWord?_name]
    exact ofVerb_argumentTexts h _
  simp only [parse, Text.trim_of_isTrimmed htrim, hempty, hcomment, Bool.or_self,
    Bool.false_eq_true, if_false, hparsed]
  rfl

end Writing

/-- A line is read as no command just if, without the blanks at its ends, it is empty or a comment;
whatever command is read is well-formed; and every well-formed command is read from the line that it
is written as. -/
theorem parse_accepts_language :
    (∀ s : String, parse s = .ok none ↔
      ∃ m, Trims s.toList m ∧ (m = [] ∨ "--".toList <+: m)) ∧
    (∀ (s : String) (c : Command), parse s = .ok (some c) → c.WellFormed) ∧
    (∀ c : Command, c.WellFormed → parse c.line = .ok (some c)) := by
  refine ⟨fun s => ?_, fun s c => wellFormed_of_parse, fun c => parse_line⟩
  rw [parse_eq_none_iff]
  constructor
  · intro h
    exact ⟨Text.trim s.toList, Text.trims_trim s.toList, h⟩
  · rintro ⟨m, hm, h⟩
    rw [Text.trim_eq_iff.mpr hm]
    exact h

theorem parse_accepts_language_load :
    (load "#5:0" (some "*:-1")).WellFormed ∧
    parse (load "#5:0" (some "*:-1")).line = .ok (some (load "#5:0" (some "*:-1"))) ∧
    parse "\u3000LOAD\u00a0#5:0 \u2003*:-1\t" = .ok (some (load "#5:0" (some "*:-1"))) ∧
    parse "\u2028-- load #5:0" = .ok none := by
  have hread : parse "\u3000LOAD\u00a0#5:0 \u2003*:-1\t" =
      .ok (some (load "#5:0" (some "*:-1"))) := rfl
  have hload : (load "#5:0" (some "*:-1")).WellFormed :=
    parse_accepts_language.2.1 _ _ hread
  have hcomment : parse "\u2028-- load #5:0" = .ok none :=
    (parse_accepts_language.1 _).mpr
      ⟨"-- load #5:0".toList, Text.trim_eq_iff.mp (by decide), .inr (by decide)⟩
  exact ⟨hload, parse_accepts_language.2.2 _ hload, hread, hcomment⟩

end Command

end DocumentRest
