import DocumentRest.Proofs.CommandLanguage

namespace DocumentRest

namespace Text

def lower (w : List Char) : List Char := w.map Char.toLower

/-- What holds of every character and itself, and of the capital letters, holds of every character and
its small letter. -/
theorem toLower_cases {P : Char → Char → Prop} (same : ∀ c, P c c)
    (capital : ∀ n < 128, (Char.ofNat n).isUpper = true → P (Char.ofNat n) (Char.ofNat n).toLower)
    (c : Char) : P c c.toLower := by
  by_cases h : c.isUpper = true
  · have hlt : c.toNat < 128 := by
      have hbounds : 65 ≤ c.toNat ∧ c.toNat ≤ 90 := of_decide_eq_true h
      omega
    have hc := capital c.toNat hlt
    rw [Char.ofNat_toNat] at hc
    exact hc h
  · have hsmall : c.toLower = c := dif_neg fun hc => h (decide_eq_true hc)
    rw [hsmall]
    exact same c

theorem isBlank_toLower (c : Char) : isBlank c.toLower = isBlank c := by
  apply toLower_cases (P := fun c d => isBlank d = isBlank c)
  · exact fun _ => rfl
  · decide

theorem toLower_eq_minus (c : Char) : (c.toLower = '-') = (c = '-') := by
  apply toLower_cases (P := fun c d => (d = '-') = (c = '-'))
  · exact fun _ => rfl
  · simp only [eq_iff_iff]
    decide

def IsSeparator (s : String) : Prop := s ≠ "" ∧ IsBlankText s.toList

theorem IsSeparator.endsWord {separator : String} (h : IsSeparator separator) (s : String) :
    EndsWord (separator ++ s).toList := by
  rw [String.toList_append]
  exact EndsWord.blanks h.2 (fun hnil => h.1 (String.toList_eq_nil_iff.mp hnil)) _

theorem IsSeparator.trim_append {separator : String} (h : IsSeparator separator) (s : String) :
    trim (separator ++ s).toList = trim s.toList := by
  have ht := trim_blanks h.2 isBlankText_nil s.toList
  rwa [List.append_nil, ← String.toList_append] at ht

theorem isWord_of_lower {w : List Char} (h : IsWord (lower w)) : IsWord w where
  ne_nil := by
    rintro rfl
    exact h.ne_nil rfl
  unbroken c hc := by
    rw [← isBlank_toLower]
    exact h.unbroken _ (List.mem_map_of_mem hc)

end Text

namespace Verb

open Text (lower)

def takesArguments : Verb → Bool
  | connect | query | load | classInfo | createClass | cluster | command | limit | fetchPlan
  | raw => true
  | _ => false

theorem eq_select_of_ofWord? {s : String} (h : ofWord? s = some select) : s = "select" := by
  unfold ofWord? at h
  split at h <;> first | rfl | cases h

end Verb

namespace Command

open Text (EndsWord IsBlankText IsSeparator IsTrimmed IsWord lower)

theorem isComment_cons_cons (c d : Char) (r : List Char) :
    isComment (c :: d :: r) = true ↔ c = '-' ∧ d = '-' := by
  show ('-' == c && ('-' == d && true)) = true ↔ c = '-' ∧ d = '-'
  rw [Bool.and_true, Bool.and_eq_true, beq_iff_eq, beq_iff_eq, eq_comm, eq_comm (a := d)]

theorem isComment_singleton (c : Char) : isComment [c] = false := Bool.and_false ('-' == c)

theorem isComment_lower (w : List Char) : isComment (lower w) = isComment w := by
  match w with
  | [] => rfl
  | [c] => rw [isComment_singleton]; exact isComment_singleton _
  | c :: d :: r =>
    rw [Bool.eq_iff_iff, isComment_cons_cons, ← Text.toLower_eq_minus c, ← Text.toLower_eq_minus d]
    exact isComment_cons_cons ..

theorem isComment_append {w s : List Char} (hw : IsWord w) (hs : EndsWord s) :
    isComment (w ++ s) = isComment w := by
  match w, s with
  | [], _ => exact absurd rfl hw.ne_nil
  | [c], [] => rfl
  | [c], d :: r =>
    have hd : d ≠ '-' := by
      rintro rfl
      exact absurd (hs _ rfl) (by decide)
    rw [isComment_singleton, ← Bool.not_eq_true, List.singleton_append, isComment_cons_cons]
    exact fun h => hd h.2
  | c :: d :: r, s => rw [Bool.eq_iff_iff, isComment_cons_cons]; exact isComment_cons_cons ..

theorem parse_append {verb s : String} (hw : IsWord verb.toList) (hs : EndsWord s.toList) :
    parse (verb ++ s) =
      if isComment (lower verb.toList) then .ok none
      else Except.map some (match Verb.ofWord? (.ofList (lower verb.toList)) with
        | some v => ofVerb (Text.trim (verb ++ s).toList) (Text.trim s.toList) v
        | none => .error (.unknownVerb (.ofList (lower verb.toList)))) := by
  obtain ⟨t, htrim, hends, ht⟩ := Text.exists_trim_behind hw hs
  have hempty : (verb.toList ++ t).isEmpty = false :=
    List.isEmpty_eq_false_iff.mpr (List.append_ne_nil_of_left_ne_nil hw.ne_nil t)
  simp only [parse, String.toList_append, htrim, hempty, Bool.false_or, isComment_append hw hends,
    isComment_lower, ofTrimmed, Text.firstWord_behind hw hends, ht]
  rfl

theorem ofVerb_eq {v : Verb} (h : v ≠ .select) (line line' rest : List Char) :
    ofVerb line rest v = ofVerb line' rest v := by
  cases v <;> first | rfl | exact absurd rfl h

section Arguments

variable {line rest : List Char} {c : Command}

theorem flatMap_words {ws : List (List Char)} (h : ∀ w ∈ ws, IsWord w) :
    ws.flatMap Text.words = ws := by
  induction ws with
  | nil => rfl
  | cons w ws ih =>
    obtain ⟨hw, hws⟩ := List.forall_mem_cons.mp h
    rw [List.flatMap_cons, Text.words_of_isWord hw, ih hws, List.singleton_append]

theorem argumentTexts_connectArguments {args : List (List Char)}
    (h : connectArguments args = .ok c) : c.verb = .connect ∧ c.argumentTexts = args := by
  unfold connectArguments at h
  split at h
  · cases h
    exact ⟨rfl, rfl⟩
  · cases h
    exact ⟨rfl, by simp [argumentTexts, arguments]⟩
  · cases h

theorem argumentTexts_loadArguments {args : List (List Char)}
    (h : loadArguments args = .ok c) : c.verb = .load ∧ c.argumentTexts = args := by
  unfold loadArguments at h
  split at h
  · cases h
    exact ⟨rfl, by simp [argumentTexts, arguments]⟩
  · cases h
    exact ⟨rfl, by simp [argumentTexts, arguments]⟩
  · cases h

theorem argumentTexts_rawArgument (h : rawArgument rest = .ok c) :
    c.verb = .raw ∧ c.argumentTexts = [rest] := by
  unfold rawArgument at h
  split_ifs at h with hon hoff
  · cases h
    exact ⟨rfl, by rw [hon]; rfl⟩
  · cases h
    exact ⟨rfl, by rw [hoff]; rfl⟩

theorem toList_of_wordArgument {form : Form} {s : String} (h : wordArgument form rest = .ok s) :
    s.toList = rest := by
  unfold wordArgument at h
  split at h
  · cases h
  · exact (textArgument_eq_ok h).1

theorem toList_of_settingArgument {form : Form} {value : Option String}
    (h : settingArgument form rest = .ok value) : (value.getD "-").toList = rest := by
  obtain ⟨s, hs, rfl⟩ := exists_of_map_eq_ok h
  rw [← toList_of_wordArgument hs]
  by_cases hd : s = "-"
  · rw [if_pos hd, hd]
    rfl
  · rw [if_neg hd]
    rfl

/-- A command holds all words that stand behind its verb. -/
theorem words_argumentTexts {v : Verb} (hv : v.takesArguments = true)
    (h : ofVerb line rest v = .ok c) :
    c.verb = v ∧ c.argumentTexts.flatMap Text.words = Text.words rest := by
  have hone {s : String} (hs : s.toList = rest) :
      [s.toList].flatMap Text.words = Text.words rest := by
    rw [List.flatMap_singleton, hs]
  cases v with
  | connect =>
    obtain ⟨hverb, hargs⟩ := argumentTexts_connectArguments h
    rw [hargs, flatMap_words fun w => Text.isWord_of_mem_words]
    exact ⟨hverb, rfl⟩
  | load =>
    obtain ⟨hverb, hargs⟩ := argumentTexts_loadArguments h
    rw [hargs, flatMap_words fun w => Text.isWord_of_mem_words]
    exact ⟨hverb, rfl⟩
  | raw =>
    obtain ⟨hverb, hargs⟩ := argumentTexts_rawArgument h
    rw [hargs, List.flatMap_singleton]
    exact ⟨hverb, rfl⟩
  | query | command =>
    obtain ⟨s, hs, rfl⟩ := exists_of_map_eq_ok h
    exact ⟨rfl, hone (textArgument_eq_ok hs).1⟩
  | classInfo | createClass | cluster =>
    obtain ⟨s, hs, rfl⟩ := exists_of_map_eq_ok h
    exact ⟨rfl, hone (toList_of_wordArgument hs)⟩
  | limit | fetchPlan =>
    obtain ⟨value, hvalue, rfl⟩ := exists_of_map_eq_ok h
    exact ⟨rfl, hone (toList_of_settingArgument hvalue)⟩
  | _ => cases hv

end Arguments

theorem eq_name_of_ofWord? {word : String} {c : Command} (hc : c.verb.takesArguments = true)
    (h : Verb.ofWord? word = some c.verb) : word = c.name := by
  cases c <;> cases hc
  all_goals
    unfold Verb.ofWord? at h
    split at h <;> first | rfl | cases h

section Lines

variable {verb verb' s s' : String}

theorem parse_congr (hw : IsWord verb.toList) (hw' : IsWord verb'.toList) (hs : EndsWord s.toList)
    (hs' : EndsWord s'.toList) (hcase : lower verb.toList = lower verb'.toList)
    (h : ∀ v, Verb.ofWord? (.ofList (lower verb.toList)) = some v →
      ofVerb (Text.trim (verb ++ s).toList) (Text.trim s.toList) v =
        ofVerb (Text.trim (verb' ++ s').toList) (Text.trim s'.toList) v) :
    parse (verb ++ s) = parse (verb' ++ s') := by
  rw [parse_append hw hs, parse_append hw' hs', ← hcase]
  cases hv : Verb.ofWord? (.ofList (lower verb.toList)) with
  | none => rfl
  | some v => simp only [h v hv]

theorem ne_select_of_lower {v : Verb} (hne : lower verb.toList ≠ "select".toList)
    (h : Verb.ofWord? (.ofList (lower verb.toList)) = some v) : v ≠ .select := by
  rintro rfl
  have hs := congrArg String.toList (Verb.eq_select_of_ofWord? h)
  rw [String.toList_ofList] at hs
  exact hne hs

theorem parse_of_lower {w : String} {v : Verb} (hverb : lower verb.toList = w.toList)
    (hw : IsWord w.toList) (hcomment : isComment w.toList = false) (hv : Verb.ofWord? w = some v)
    (hs : EndsWord s.toList) :
    parse (verb ++ s) =
      Except.map some (ofVerb (Text.trim (verb ++ s).toList) (Text.trim s.toList) v) := by
  have hword : IsWord verb.toList := Text.isWord_of_lower (hverb ▸ hw)
  rw [parse_append hword hs, hverb, hcomment, String.ofList_toList, hv, if_neg Bool.false_ne_true]

theorem parse_case (hw : IsWord verb.toList) (hw' : IsWord verb'.toList)
    (hcase : lower verb.toList = lower verb'.toList) (hne : lower verb.toList ≠ "select".toList)
    (hs : EndsWord s.toList) (hs' : EndsWord s'.toList)
    (h : Text.trim s.toList = Text.trim s'.toList) : parse (verb ++ s) = parse (verb' ++ s') := by
  apply parse_congr hw hw' hs hs' hcase
  intro v hv
  rw [h]
  exact ofVerb_eq (ne_select_of_lower hne hv) _ _ _

theorem parse_words (hverb : lower verb.toList ∈ ["connect".toList, "load".toList])
    (hcase : lower verb.toList = lower verb'.toList) (hs : EndsWord s.toList)
    (hs' : EndsWord s'.toList) (h : Text.words s.toList = Text.words s'.toList) :
    parse (verb ++ s) = parse (verb' ++ s') := by
  have hword : IsWord (lower verb.toList) := by
    rcases List.mem_pair.mp hverb with hv | hv <;> rw [hv] <;>
      exact Text.isWord_of_any (by decide) (by decide)
  have hword' : IsWord verb'.toList := Text.isWord_of_lower (hcase ▸ hword)
  apply parse_congr (Text.isWord_of_lower hword) hword' hs hs' hcase
  intro v hv
  rw [← Text.words_trim s.toList, ← Text.words_trim s'.toList] at h
  rcases List.mem_pair.mp hverb with hverb | hverb
  · obtain rfl : v = .connect := by
      rw [hverb] at hv
      exact (Option.some.inj hv).symm
    exact congrArg connectArguments h
  · obtain rfl : v = .load := by
      rw [hverb] at hv
      exact (Option.some.inj hv).symm
    exact congrArg loadArguments h

theorem parse_sql {sql : String} (hs : EndsWord s.toList) (h : Text.trim s.toList = sql.toList)
    (hne : sql ≠ "") :
    (lower verb.toList = "query".toList → parse (verb ++ s) = .ok (some (query sql))) ∧
      (lower verb.toList = "command".toList → parse (verb ++ s) = .ok (some (command sql))) := by
  have harg (form : Form) : textArgument form (Text.trim s.toList) = .ok sql := by
    rw [h]
    exact textArgument_toList (fun hnil => hne (String.toList_eq_nil_iff.mp hnil)) form
  constructor
  · intro hverb
    rw [parse_of_lower (v := .query) hverb (Text.isWord_of_any (by decide) (by decide)) (by decide)
      (by decide) hs, ofVerb, harg]
    rfl
  · intro hverb
    rw [parse_of_lower (v := .command) hverb (Text.isWord_of_any (by decide) (by decide))
      (by decide) (by decide) hs, ofVerb, harg]
    rfl

theorem parse_select {line : String} {w : List Char} (h : w ∈ (Text.words line.toList).head?)
    (hw : lower w = "select".toList) :
    parse line = .ok (some (query (.ofList (Text.trim line.toList)))) := by
  obtain ⟨ws, hws⟩ : ∃ ws, Text.words line.toList = w :: ws := List.head?_eq_some_iff.mp h
  obtain ⟨before, s, hline, hbefore, -, hends, -⟩ := Text.exists_of_words_eq_cons hws
  have htrim : Text.trim line.toList = Text.trim (String.ofList w ++ String.ofList s).toList := by
    have hblanks := Text.trim_blanks hbefore Text.isBlankText_nil (w ++ s)
    rw [List.append_nil] at hblanks
    rw [hline, hblanks, String.toList_append, String.toList_ofList, String.toList_ofList]
  have hverb : lower (String.ofList w).toList = "select".toList := by rwa [String.toList_ofList]
  have hbehind : EndsWord (String.ofList s).toList := by rwa [String.toList_ofList]
  have hparse := parse_of_lower (v := .select) hverb (Text.isWord_of_any (by decide) (by decide))
    (by decide) (by decide) hbehind
  rw [parse_eq_of_trim_eq htrim, hparse, ← htrim]
  rfl

/-- A line of SQL that begins with `select` needs no verb. -/
theorem parse_query_select {line : String} {w : List Char}
    (h : w ∈ (Text.words line.toList).head?) (hw : lower w = "select".toList) :
    parse ("query " ++ line) = parse line := by
  have hspace : Text.IsSeparator " " := ⟨by decide, List.forall_mem_singleton.mpr rfl⟩
  have hne : Text.trim line.toList ≠ [] := by
    intro hnil
    rw [← Text.words_trim, hnil] at h
    cases h
  have hquery : parse ("query" ++ (" " ++ line)) =
      .ok (some (query (.ofList (Text.trim line.toList)))) :=
    (parse_sql (hspace.endsWord line) (by rw [hspace.trim_append, String.toList_ofList])
      (by rwa [← String.toList_inj.ne, String.toList_ofList])).1 rfl
  rw [parse_select h hw, ← hquery, ← String.append_assoc]
  rfl

theorem words_of_parse {c : Command} (hw : IsWord verb.toList) (hs : EndsWord s.toList)
    (hne : lower verb.toList ≠ "select".toList) (hc : c.verb.takesArguments = true)
    (h : parse (verb ++ s) = .ok (some c)) :
    lower verb.toList = c.name.toList ∧
      c.argumentTexts.flatMap Text.words = Text.words s.toList := by
  rw [parse_append hw hs] at h
  split at h
  · cases h
  · obtain ⟨c', hc', he⟩ := exists_of_map_eq_ok h
    cases he
    split at hc'
    · rename_i v hv
      have hv' := ne_select_of_lower hne hv
      cases ht : v.takesArguments with
      | true =>
        obtain ⟨rfl, hwords⟩ := words_argumentTexts ht hc'
        have hname := congrArg String.toList (eq_name_of_ofWord? hc hv)
        rw [String.toList_ofList] at hname
        exact ⟨hname, hwords.trans (Text.words_trim _)⟩
      | false =>
        -- The other verbs give commands without arguments.
        cases v with
        | select => exact absurd rfl hv'
        | server | schema | roles | users | status | disconnect | help | quit =>
          cases hc'
          cases hc
        | _ => cases ht
    · cases hc'

end Lines

/-- Blanks around a line do not matter. Two lines are read alike whose verbs differ only in the case of
their letters, but for `select`, and whose texts behind the verb are the same but for the blanks at
their ends or, for `connect` and `load`, have the same words. SQL is kept as it is. A line that begins
with `select` is a query, as it is behind `query`. And what is read tells the verb and the words behind
it, if the command has arguments. -/
theorem parse_ignores_layout :
    (∀ before line behind : String, IsBlankText before.toList → IsBlankText behind.toList →
      parse (before ++ line ++ behind) = parse line) ∧
    (∀ verb verb' separator separator' rest : String, IsWord verb.toList → IsWord verb'.toList →
      lower verb.toList = lower verb'.toList → lower verb.toList ≠ "select".toList →
      IsSeparator separator → IsSeparator separator' →
      parse (verb ++ separator ++ rest) = parse (verb' ++ separator' ++ rest)) ∧
    (∀ verb verb' s s' : String, lower verb.toList ∈ ["connect".toList, "load".toList] →
      lower verb.toList = lower verb'.toList → EndsWord s.toList → EndsWord s'.toList →
      Text.words s.toList = Text.words s'.toList → parse (verb ++ s) = parse (verb' ++ s')) ∧
    (∀ verb separator sql : String, IsSeparator separator → IsTrimmed sql.toList → sql ≠ "" →
      (lower verb.toList = "query".toList →
        parse (verb ++ separator ++ sql) = .ok (some (query sql))) ∧
      (lower verb.toList = "command".toList →
        parse (verb ++ separator ++ sql) = .ok (some (command sql)))) ∧
    (∀ line : String, (∃ verb ∈ (Text.words line.toList).head?, lower verb = "select".toList) →
      parse line = .ok (some (query (.ofList (Text.trim line.toList)))) ∧
      parse ("query " ++ line) = parse line) ∧
    (∀ (verb s : String) (c : Command), IsWord verb.toList → EndsWord s.toList →
      lower verb.toList ≠ "select".toList → c.verb.takesArguments = true →
      parse (verb ++ s) = .ok (some c) →
      lower verb.toList = c.name.toList ∧
        c.argumentTexts.flatMap Text.words = Text.words s.toList) := by
  refine ⟨?_, ?_, ?_, ?_, ?_, ?_⟩
  · intro before line behind hbefore hbehind
    apply parse_eq_of_trim_eq
    rw [String.toList_append, String.toList_append, Text.trim_blanks hbefore hbehind]
  · intro verb verb' separator separator' rest hw hw' hcase hne hsep hsep'
    rw [String.append_assoc, String.append_assoc]
    apply parse_case hw hw' hcase hne (hsep.endsWord rest) (hsep'.endsWord rest)
    rw [hsep.trim_append, hsep'.trim_append]
  · exact fun _ _ _ _ => parse_words
  · intro verb separator sql hsep hsql hne
    rw [String.append_assoc]
    apply parse_sql (hsep.endsWord sql) _ hne
    rw [hsep.trim_append, Text.trim_of_isTrimmed hsql]
  · rintro line ⟨verb, hverb, hlower⟩
    exact ⟨parse_select hverb hlower, parse_query_select hverb hlower⟩
  · exact fun _ _ _ => words_of_parse

/-- Blanks that are not ASCII count as blanks, and a letter that only looks like a small `s` makes
another verb. -/
theorem parse_ignores_layout_exotic :
    IsSeparator "\u3000\t" ∧ IsWord "sELecT".toList ∧ lower "QuErY".toList = "query".toList ∧
    parse ("QuErY" ++ "\u3000\t" ++ "SELECT  1\u2003FROM V") =
      .ok (some (query "SELECT  1\u2003FROM V")) ∧
    parse "\u00a0sELecT\u2028 1 " = .ok (some (query "sELecT\u2028 1")) ∧
    parse ("query " ++ "\u00a0sELecT\u2028 1 ") = .ok (some (query "sELecT\u2028 1")) ∧
    parse ("LOAD" ++ " #5:0\u00a0 p") = parse ("load" ++ "\u3000#5:0 p\t") ∧
    parse "\u017felect 1" = .error (.unknownVerb "\u017felect") := by
  obtain ⟨_, _, hwords, hsql, hselect, _⟩ := parse_ignores_layout
  have hsep : IsSeparator "\u3000\t" := ⟨by decide, by
    intro c hc
    rcases List.mem_pair.mp hc with rfl | rfl <;> decide⟩
  have hverb : IsWord "sELecT".toList := Text.isWord_of_any (by decide) (by decide)
  have hline := hselect "\u00a0sELecT\u2028 1 " ⟨"sELecT".toList, by decide, by decide⟩
  refine ⟨hsep, hverb, by decide, ?_, hline.1, hline.2.trans hline.1, ?_, rfl⟩
  · have hsql' : IsTrimmed "SELECT  1\u2003FROM V".toList :=
      ⟨by rintro _ ⟨⟩; decide, by rintro _ ⟨⟩; decide⟩
    exact (hsql "QuErY" "\u3000\t" "SELECT  1\u2003FROM V" hsep hsql' (by decide)).1 (by decide)
  · exact hwords "LOAD" "load" " #5:0\u00a0 p" "\u3000#5:0 p\t" (by decide) (by decide)
      (by rintro _ ⟨⟩; decide) (by rintro _ ⟨⟩; decide) (by decide)

end Command

end DocumentRest
