import DocumentRest.Proofs.CommandLanguage
import DocumentRest.Proofs.ConsoleSteps
import DocumentRest.Proofs.PercentEncoding
import DocumentRest.Proofs.SessionProtocol

namespace DocumentRest

namespace Text

def IsUnbroken (s : String) : Prop := ∀ c ∈ s.toList, isBlank c = false

instance (s : String) : Decidable (IsUnbroken s) :=
  List.decidableBAll (isBlank · = false) s.toList

theorem isUnbroken_append {s s' : String} :
    IsUnbroken (s ++ s') ↔ IsUnbroken s ∧ IsUnbroken s' := by
  unfold IsUnbroken
  rw [String.toList_append, List.forall_mem_append]

/-- All unreserved characters stand between the space and the blanks that are not ASCII. -/
theorem isBlank_of_isUnreserved {c : Char} (h : isUnreserved c = true) : isBlank c = false := by
  have hbounds : 0x2D ≤ c.toNat ∧ c.toNat ≤ 0x7E := by
    delta isUnreserved Char.isAlphanum Char.isAlpha Char.isUpper Char.isLower Char.isDigit at h
    simp only [Bool.or_eq_true, Bool.and_eq_true, decide_eq_true_eq, UInt32.le_iff_toNat_le,
      ge_iff_le] at h
    change ((((((65 ≤ c.toNat ∧ c.toNat ≤ 90) ∨ (97 ≤ c.toNat ∧ c.toNat ≤ 122)) ∨
      (48 ≤ c.toNat ∧ c.toNat ≤ 57)) ∨ c = '-') ∨ c = '_') ∨ c = '.') ∨ c = '~' at h
    rcases h with (((h | rfl) | rfl) | rfl) | rfl
    · omega
    all_goals decide
  rw [isBlank, isWithin, List.any_eq_false]
  intro r hr
  simp only [blankRanges, List.mem_cons, List.not_mem_nil, or_false] at hr
  rw [Bool.and_eq_true, decide_eq_true_eq, decide_eq_true_eq]
  rcases hr with rfl | rfl | rfl | rfl | rfl | rfl | rfl | rfl | rfl | rfl <;> dsimp only <;> omega

theorem isUnbroken_percentEncode (s : String) : IsUnbroken (percentEncode s) := by
  intro c hc
  rcases unreserved_or_percent hc with hu | rfl
  · exact isBlank_of_isUnreserved hu
  · decide

end Text

open Text (IsUnbroken IsWord isUnbroken_append)

namespace Endpoint

def plainTexts : Endpoint → List String
  | query _ limit fetchPlan => limit.toList ++ fetchPlan.toList
  | document rid fetchPlan => rid :: fetchPlan.toList
  | classInfo name | createClass name | cluster name => [name]
  | connect | command _ | server | disconnect => []

theorem isUnbroken_bareRecordId {rid : String} (h : IsUnbroken rid) :
    IsUnbroken (bareRecordId rid) := by
  unfold bareRecordId
  split
  · rename_i r hr
    intro c hc
    rw [String.toList_ofList] at hc
    exact h c (hr ▸ List.mem_cons_of_mem _ hc)
  · exact h

theorem isUnbroken_of_nonEmpty {text : Option String} (h : ∀ s ∈ text, IsUnbroken s) {s : String}
    (hs : nonEmpty text = some s) : IsUnbroken s :=
  h s (Option.filter_eq_some_iff.mp hs).1

theorem isUnbroken_querySuffix {limit fetchPlan : Option String}
    (hl : ∀ s ∈ limit, IsUnbroken s) (hp : ∀ s ∈ fetchPlan, IsUnbroken s) :
    IsUnbroken (querySuffix limit fetchPlan) := by
  have hslash : IsUnbroken "/" := by decide
  have hdefault : IsUnbroken defaultLimit := by decide
  unfold querySuffix
  split
  · decide
  · rename_i n hn _
    exact isUnbroken_append.mpr ⟨hslash, isUnbroken_of_nonEmpty hl hn⟩
  · rename_i plan _ hplan
    simp only [isUnbroken_append]
    exact ⟨⟨⟨hslash, hdefault⟩, hslash⟩, isUnbroken_of_nonEmpty hp hplan⟩
  · rename_i n plan hn hplan
    simp only [isUnbroken_append]
    exact ⟨⟨⟨hslash, isUnbroken_of_nonEmpty hl hn⟩, hslash⟩, isUnbroken_of_nonEmpty hp hplan⟩

theorem isUnbroken_url {p : DatabasePath} (hs : IsUnbroken p.serverUrl)
    (hd : IsUnbroken p.database) {e : Endpoint} (he : ∀ s ∈ e.plainTexts, IsUnbroken s) :
    IsUnbroken (e.url p) := by
  refine isUnbroken_append.mpr ⟨hs, ?_⟩
  cases e with
  | connect => exact isUnbroken_append.mpr ⟨by decide, hd⟩
  | query sql limit fetchPlan =>
    have hsql := Text.isUnbroken_percentEncode sql
    have hsuffix : IsUnbroken (querySuffix limit fetchPlan) :=
      isUnbroken_querySuffix
        (fun s h => he s (List.mem_append_left _ (Option.mem_toList.mpr h)))
        (fun s h => he s (List.mem_append_right _ (Option.mem_toList.mpr h)))
    simp only [path, isUnbroken_append]
    refine ⟨⟨⟨⟨?_, hd⟩, ?_⟩, hsql⟩, hsuffix⟩ <;> decide
  | document rid fetchPlan =>
    have hrid : IsUnbroken (bareRecordId rid) :=
      isUnbroken_bareRecordId (he rid List.mem_cons_self)
    simp only [path, isUnbroken_append]
    refine ⟨⟨⟨⟨by decide, hd⟩, by decide⟩, hrid⟩, ?_⟩
    split
    · rename_i plan hplan
      have hp : IsUnbroken plan := isUnbroken_of_nonEmpty
        (fun s h => he s (List.mem_cons_of_mem _ (Option.mem_toList.mpr h))) hplan
      exact isUnbroken_append.mpr ⟨by decide, hp⟩
    · decide
  | classInfo name | createClass name | cluster name =>
    have hname := he name List.mem_cons_self
    simp only [path, isUnbroken_append]
    refine ⟨⟨⟨?_, hd⟩, ?_⟩, hname⟩ <;> decide
  | command sql =>
    have hsql := Text.isUnbroken_percentEncode sql
    simp only [path, isUnbroken_append]
    refine ⟨⟨⟨⟨?_, hd⟩, ?_⟩, hsql⟩, ?_⟩ <;> decide
  | server | disconnect =>
    simp only [path]
    decide

end Endpoint

theorem Operation.endpoint?_or_plainTexts {op : Operation} {isOpen : Bool} {e : Endpoint}
    (h : e ∈ op.endpoints isOpen) : op.endpoint? = some e ∨ e.plainTexts = [] := by
  induction op using Operation.exhaust with
  | connect k =>
    obtain rfl : e = .connect := List.mem_singleton.mp h
    exact .inr rfl
  | request op endpoint ho =>
    rw [endpoints_of_endpoint? ho] at h
    have he : e = .connect ∨ e = endpoint := by
      cases isOpen with
      | true => exact .inr (List.mem_singleton.mp h)
      | false => simpa using h
    rcases he with rfl | rfl
    · exact .inr rfl
    · exact .inl ho
  | close =>
    have he : e = .disconnect := by
      cases isOpen <;> simp_all [endpoints]
    subst he
    exact .inr rfl
  | field f => cases h
  | setStructured on => cases h

namespace Console

structure Unbroken (c : Console) : Prop where
  server : IsUnbroken c.client.path.serverUrl
  database : IsUnbroken c.client.path.database
  limit : ∀ value ∈ c.limit, IsUnbroken value
  fetchPlan : ∀ plan ∈ c.fetchPlan, IsUnbroken plan

variable {t : Transport} {c : Console}

theorem wellFormed_of_ofLine? {line : String} {command : Command}
    (h : Command.ofLine? line = some command) : command.WellFormed := by
  unfold Command.ofLine? at h
  cases hp : Command.parse line with
  | error e => rw [hp] at h; cases h
  | ok read =>
    rw [hp] at h
    exact Command.wellFormed_of_parse (hp.trans (congrArg Except.ok h))

/-- What a well-formed command puts into URLs as it is are words and the settings. -/
theorem Unbroken.plainTexts (hc : c.Unbroken) {command : Command} (hw : command.WellFormed)
    {op : Operation} (ho : c.operation? command = some op) {e : Endpoint}
    (he : op.endpoint? = some e) : ∀ s ∈ e.plainTexts, IsUnbroken s := by
  cases command with
  | query sql =>
    cases ho
    cases he
    simp only [Endpoint.plainTexts, List.forall_mem_append]
    exact ⟨fun s hs => hc.limit s (Option.mem_toList.mp hs),
      fun s hs => hc.fetchPlan s (Option.mem_toList.mp hs)⟩
  | load rid plan =>
    cases ho
    cases he
    exact List.forall_mem_cons.mpr
      ⟨hw.1.unbroken, fun s hs => (hw.2 s (Option.mem_toList.mp hs)).unbroken⟩
  | classInfo name | createClass name | cluster name =>
    cases ho
    cases he
    exact List.forall_mem_singleton.mpr hw.unbroken
  | command sql | server =>
    cases ho
    cases he
    exact List.forall_mem_nil _
  | _ => cases ho <;> cases he

theorem Unbroken.execute (hc : c.Unbroken) {command : Command} (hw : command.WellFormed) :
    (c.execute t command).1.Unbroken := by
  have hpath := c.path_execute t command
  constructor
  · rw [hpath]
    exact hc.server
  · rw [hpath]
    exact hc.database
  · rw [limit_execute]
    cases command with
    | limit value => exact fun v hv => (hw v hv).1.unbroken
    | _ => exact hc.limit
  · rw [fetchPlan_execute]
    cases command with
    | fetchPlan value => exact fun v hv => (hw v hv).1.unbroken
    | _ => exact hc.fetchPlan

theorem Unbroken.step (hc : c.Unbroken) (line : String) : (c.step t line).console.Unbroken := by
  rw [console_step, commands_singleton]
  cases h : Command.ofLine? line with
  | none => exact hc
  | some command => exact hc.execute (wellFormed_of_ofLine? h)

theorem Unbroken.url (hc : c.Unbroken) {line : String} {e : Exchange}
    (he : e ∈ (c.step t line).exchanges) : IsUnbroken e.request.url := by
  obtain ⟨op, ho, hop⟩ := exists_operation_of_mem he
  obtain ⟨past, happened⟩ := happened_of_mem he
  obtain ⟨command, hl, hcommand⟩ := Option.bind_eq_some_iff.mp ho
  have hmem : e.endpoint ∈ op.endpoints c.client.isOpen := by
    have hends := Conversation.endpoints_step t c.conversation op
    unfold client
    rw [← hends]
    exact List.mem_map_of_mem hop
  rw [happened.url]
  refine Endpoint.isUnbroken_url hc.server hc.database ?_
  rcases Operation.endpoint?_or_plainTexts hmem with h | h
  · exact hc.plainTexts (wellFormed_of_ofLine? hl) hcommand h
  · rw [h]
    exact List.forall_mem_nil _

/-- If the database path of a console, its limit and its fetch plan are free of blanks, then no line
of any run sends a request with a blank in its URL, and the limit and the fetch plan stay free of
them. -/
theorem urls_unbroken (t : Transport) {c : Console} (hc : c.Unbroken) (lines : List String) :
    ∀ s ∈ c.run t lines, (∀ e ∈ s.exchanges, IsUnbroken e.request.url) ∧ s.console.Unbroken := by
  induction lines generalizing c with
  | nil => exact List.forall_mem_nil _
  | cons line lines ih =>
    rw [run_cons, List.forall_mem_cons]
    exact ⟨⟨fun e he => hc.url he, hc.step line⟩, ih (hc.step line)⟩

/-- Blanks of all kinds on the lines: they are encoded, they separate words, or the line is refused.
-/
theorem urls_unbroken_exotic :
    let t := Transport.scripted []
    let c := new (.ofPath "http://localhost:2480/demo") ⟨some "20", none⟩
    let lines := ["\u3000query a\u2003\u2028b", "fetchplan\u00a0*:-1", "limit 1\u20282", "select\t1"]
    let steps := c.run t lines
    c.Unbroken ∧
      (∀ s ∈ steps, (∀ e ∈ s.exchanges, IsUnbroken e.request.url) ∧ s.console.Unbroken) ∧
      steps.flatMap (·.exchanges.map (·.request.url)) =
        ["http://localhost:2480/connect/demo",
          "http://localhost:2480/query/demo/sql/a%E2%80%83%E2%80%A8b/20",
          "http://localhost:2480/query/demo/sql/select%091/20/*:-1"] := by
  intro t c lines steps
  have hc : c.Unbroken := by
    constructor
    · decide
    · decide
    · rintro value ⟨⟩
      decide
    · rintro plan ⟨⟩
  exact ⟨hc, urls_unbroken t hc lines, by decide +kernel⟩

end Console

end DocumentRest
