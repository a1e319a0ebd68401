import DocumentRest.Proofs.ConsoleSteps
import DocumentRest.Proofs.SessionProtocol

namespace DocumentRest

open Program (commands)

namespace Endpoint

def isQuery : Endpoint → Bool
  | query .. => true
  | _ => false

def isDocument : Endpoint → Bool
  | document .. => true
  | _ => false

end Endpoint

namespace Client

def kept (c : Client) : Family → Option Body
  | .connect => c.session
  | .query => c.lastQuery
  | .command => c.lastCommand

theorem kept_record (c : Client) (f : Family) (r : Except ClientError Body) :
    (c.record f r).kept f = r.toOption := by
  cases f <;> cases r <;> rfl

theorem kept_record_of_ne (c : Client) {f g : Family} (h : g ≠ f) (r : Except ClientError Body) :
    (c.record f r).kept g = c.kept g := by
  cases r <;> cases f <;> cases g <;> first | rfl | exact absurd rfl h

end Client

theorem Operation.family_ne_connect {op : Operation} {endpoint : Endpoint}
    (h : op.endpoint? = some endpoint) : endpoint.family ≠ .connect := by
  cases op <;> cases h <;> simp [Endpoint.family]

namespace Conversation

variable {t : Transport} {c : Conversation}

theorem kept_perform {op : Operation} {e : Exchange} (he : e ∈ (c.step t op).exchanges) :
    (c.perform t op).1.client.kept e.endpoint.family = e.body? := by
  induction op using Operation.exhaust with
  | connect k =>
    rw [exchanges_step_connect, List.mem_singleton] at he
    subst he
    have hr := c.client.kept_record .connect (c.exchange t .connect k).outcome
    simp only [perform, connect_eq]
    exact hr
  | request op endpoint h =>
    rw [exchanges_step_request t c h, List.mem_append, List.mem_singleton] at he
    rw [perform_eq_request t c h, request_eq]
    rcases he with he | rfl
    · unfold opening at he
      split at he
      · cases he
      · rename_i hc
        rw [List.mem_singleton] at he
        subst he
        have hne : Family.connect ≠ endpoint.family := (Operation.family_ne_connect h).symm
        have hr := c.client.kept_record .connect (c.exchange t .connect none).outcome
        rw [ensureOpen_of_closed t c (by simpa using hc), connect_eq]
        exact (Client.kept_record_of_ne _ hne _).trans hr
    · exact Client.kept_record _ _ _
  | close =>
    rw [exchanges_step_close] at he
    cases hc : c.client.isOpen with
    | false =>
      rw [hc] at he
      cases he
    | true =>
      rw [hc, if_pos rfl, List.mem_singleton] at he
      subst he
      have hr := c.client.kept_record .command
        (c.exchange t .disconnect c.client.credentials).outcome
      simp only [perform, close_of_open t c hc]
      exact hr
  | field f =>
    rw [exchanges_step_field] at he
    cases he
  | setStructured on =>
    rw [exchanges_step_setStructured] at he
    cases he

end Conversation

structure InForce where
  limit : Option String
  fetchPlan : Option String
  structured : Bool

namespace InForce

/-- What is in force behind some lines: the values that were set last. Of what was not set it is the
value that a new console begins with. -/
def behind (client : Client) (settings : QuerySettings) (lines : List String) : InForce where
  limit := ((commands lines).filterMap Command.limit?).getLastD settings.limit
  fetchPlan := ((commands lines).filterMap Command.fetchPlan?).getLastD settings.fetchPlan
  structured := ((commands lines).filterMap Command.mode?).getLastD client.structured

def queryUrl (f : InForce) (p : DatabasePath) (sql : String) : String :=
  p.serverUrl ++ "/query/" ++ p.database ++ "/sql/" ++ Text.percentEncode sql ++
    querySuffix f.limit f.fetchPlan

def queryUrls (f : InForce) (p : DatabasePath) (line : String) : List String :=
  match Command.ofLine? line with
  | some (.query sql) => [f.queryUrl p sql]
  | _ => []

end InForce

def loadUrls (p : DatabasePath) (line : String) : List String :=
  match Command.ofLine? line with
  | some (.load rid plan) => [(Endpoint.document rid plan).url p]
  | _ => []

/-- A text that was granted is kept as it came if answers are not parsed or the endpoint keeps texts,
and is otherwise kept as its value. Of what is no JSON then, and of a failure, nothing is kept. -/
structure KeptAs (structured : Bool) (e : Exchange) (kept : Option Body) : Prop where
  asText : ∀ text, e.answer = .ok text → structured = false ∨ e.endpoint.KeepsText →
    kept = some (.raw text)
  asValue : ∀ text v, e.answer = .ok text → structured = true → ¬ e.endpoint.KeepsText →
    Json.Value.parse text = .ok v → kept = some (.structured v)
  unreadable : ∀ text error, e.answer = .ok text → structured = true → ¬ e.endpoint.KeepsText →
    Json.Value.parse text = .error error → kept = none
  refused : ∀ failure, e.answer = .error failure → kept = none

theorem Exchange.keptAs_body? (e : Exchange) : KeptAs e.structured e e.body? := by
  have hbody {r : Except ClientError Body} (h : e.Yields r) : e.body? = r.toOption := by
    rw [Exchange.body?, (e.yields_iff r).mp h]
  constructor
  · intro text ha hp
    exact hbody (.kept ha hp)
  · intro text v ha hs hk hv
    exact hbody (.read ha hs hk hv)
  · intro text error ha hs hk hv
    exact hbody (.unreadable ha hs hk hv)
  · intro failure ha
    exact hbody (.refused ha)

/-- How the step that a console `c` takes on a line obeys what is in force. The queries have the limit
and the fetch plan in force, a fetch plan never stands without a limit, a record is looked up with the
fetch plan on the line alone, all other requests are the same whatever the limit and the fetch plan,
and bodies are kept by the mode. -/
structure Console.Obeys (t : Transport) (p : DatabasePath) (f : InForce) (c : Console)
    (line : String) (s : Console.Step) : Prop where
  queries : (s.exchanges.filter (·.endpoint.isQuery)).map (·.request.url) = f.queryUrls p line
  limited : ∀ plan, f.fetchPlan = some plan → plan ≠ "" → ∃ n, n ≠ "" ∧
    (f.limit = some n ∨ (f.limit = none ∨ f.limit = some "") ∧ n = "20") ∧
    querySuffix f.limit f.fetchPlan = "/" ++ n ++ "/" ++ plan
  loads : (s.exchanges.filter (·.endpoint.isDocument)).map (·.request.url) = loadUrls p line
  others : ∀ limit fetchPlan,
    (({ c with limit, fetchPlan } : Console).step t line).exchanges.filter (!·.endpoint.isQuery) =
      s.exchanges.filter (!·.endpoint.isQuery)
  kept : ∀ e ∈ s.exchanges, KeptAs f.structured e (s.console.client.kept e.endpoint.family)

theorem querySuffix_of_fetchPlan (limit : Option String) {plan : String} (h : plan ≠ "") :
    ∃ n, n ≠ "" ∧ (limit = some n ∨ (limit = none ∨ limit = some "") ∧ n = "20") ∧
      querySuffix limit (some plan) = "/" ++ n ++ "/" ++ plan := by
  have hplan : nonEmpty (some plan) = some plan := Option.filter_some_pos (by simpa using h)
  by_cases hl : limit = none ∨ limit = some ""
  · have hlimit : nonEmpty limit = none := by
      rcases hl with rfl | rfl <;> rfl
    refine ⟨"20", by decide, .inr ⟨hl, rfl⟩, ?_⟩
    rw [querySuffix, hlimit, hplan]
    rfl
  · obtain ⟨n, rfl⟩ : ∃ n, limit = some n := Option.ne_none_iff_exists'.mp fun h => hl (.inl h)
    have hn : n ≠ "" := fun h => hl (.inr (congrArg some h))
    have hlimit : nonEmpty (some n) = some n := Option.filter_some_pos (by simpa using hn)
    refine ⟨n, hn, .inl rfl, ?_⟩
    rw [querySuffix, hlimit, hplan]

namespace Console

variable (t : Transport) (c : Console)

theorem endpoints_step (line : String) :
    (c.step t line).exchanges.map (·.endpoint) =
      (c.operationOn? line).elim [] (Operation.endpoints c.client.isOpen) := by
  rw [exchanges_step]
  cases c.operationOn? line with
  | none => rfl
  | some op => exact Conversation.endpoints_step t c.conversation op

theorem urls_step (p : Endpoint → Bool) (line : String) :
    ((c.step t line).exchanges.filter (p ·.endpoint)).map (·.request.url) =
      (((c.operationOn? line).elim [] (Operation.endpoints c.client.isOpen)).filter p).map
        (Endpoint.url c.client.path) := by
  rw [← c.endpoints_step t line, List.filter_map, List.map_map]
  refine List.map_congr_left (fun e he => ?_)
  obtain ⟨past, h⟩ := happened_of_mem (List.mem_of_mem_filter he)
  exact h.url

def inForce : InForce := ⟨c.limit, c.fetchPlan, c.client.structured⟩

theorem queries_step (line : String) :
    ((c.step t line).exchanges.filter (·.endpoint.isQuery)).map (·.request.url) =
      c.inForce.queryUrls c.client.path line := by
  rw [c.urls_step t Endpoint.isQuery, operationOn?, InForce.queryUrls]
  cases Command.ofLine? line with
  | none => rfl
  | some command =>
    cases command with
    | query sql =>
      have hurl : (Endpoint.query sql c.limit c.fetchPlan).url c.client.path =
          c.inForce.queryUrl c.client.path sql := by
        simp only [Endpoint.url, Endpoint.path, InForce.queryUrl, inForce, String.append_assoc]
      cases c.client.isOpen <;> exact congrArg (fun url => [url]) hurl
    | _ => cases c.client.isOpen <;> rfl

theorem loads_step (line : String) :
    ((c.step t line).exchanges.filter (·.endpoint.isDocument)).map (·.request.url) =
      loadUrls c.client.path line := by
  rw [c.urls_step t Endpoint.isDocument, operationOn?, loadUrls]
  cases Command.ofLine? line with
  | none => rfl
  | some command => cases command <;> cases c.client.isOpen <;> rfl

theorem operation?_of_not_query {command : Command} (h : ∀ sql, command ≠ .query sql)
    (limit fetchPlan : Option String) :
    ({ c with limit, fetchPlan } : Console).operation? command = c.operation? command := by
  cases command with
  | query sql => exact absurd rfl (h sql)
  | _ => rfl

theorem others_query (c : Conversation) (sql : String) (limit fetchPlan : Option String) :
    (c.step t (.query sql limit fetchPlan)).exchanges.filter (!·.endpoint.isQuery) =
      c.opening t := by
  have hopening : (c.opening t).filter (!·.endpoint.isQuery) = c.opening t := by
    unfold Conversation.opening
    cases c.client.isOpen <;> rfl
  rw [Conversation.exchanges_step_request t c rfl, List.filter_append, hopening]
  exact List.append_nil _

theorem others_step (line : String) (limit fetchPlan : Option String) :
    (({ c with limit, fetchPlan } : Console).step t line).exchanges.filter (!·.endpoint.isQuery) =
      (c.step t line).exchanges.filter (!·.endpoint.isQuery) := by
  rw [exchanges_step, exchanges_step, operationOn?, operationOn?]
  cases Command.ofLine? line with
  | none => rfl
  | some command =>
    by_cases hq : ∃ sql, command = .query sql
    · obtain ⟨sql, rfl⟩ := hq
      exact (others_query t c.conversation sql limit fetchPlan).trans
        (others_query t c.conversation sql c.limit c.fetchPlan).symm
    · rw [Option.bind_some, Option.bind_some,
        c.operation?_of_not_query (fun sql h => hq ⟨sql, h⟩)]

theorem kept_step {line : String} {e : Exchange} (he : e ∈ (c.step t line).exchanges) :
    (c.step t line).console.client.kept e.endpoint.family = e.body? := by
  obtain ⟨op, ho, hop⟩ := exists_operation_of_mem he
  unfold client
  rw [conversation_step, ho]
  exact Conversation.kept_perform hop

/-- Whatever the state of a console, its next step obeys what is in force for it. -/
theorem obeys_step (line : String) :
    Obeys t c.client.path c.inForce c line (c.step t line) where
  queries := c.queries_step t line
  limited plan hplan hne := by
    rw [hplan]
    exact querySuffix_of_fetchPlan c.inForce.limit hne
  loads := c.loads_step t line
  others := c.others_step t line
  kept e he := by
    obtain ⟨past, h⟩ := happened_of_mem he
    have hkept := e.keptAs_body?
    rw [h.mode] at hkept
    rw [c.kept_step t he]
    exact hkept

theorem inForce_after (client : Client) (settings : QuerySettings) (lines : List String) :
    ((new client settings).after t (commands lines)).inForce =
      .behind client settings lines := by
  let c := new client settings
  have hlimit := c.after_setting t Console.limit (limit_execute t) (commands lines)
  have hplan := c.after_setting t Console.fetchPlan (fetchPlan_execute t) (commands lines)
  have hmode := c.after_setting t (fun c => c.client.structured) (structured_execute t)
    (commands lines)
  rw [inForce, hlimit, hplan, hmode]
  rfl

/-- In every run of a new console, each line obeys what is in force, and that is what the lines
before it set last. -/
theorem run_obeys_settings (t : Transport) (client : Client) (settings : QuerySettings)
    (lines : List String) :
    let c := new client settings
    let steps := c.run t lines
    ∀ i line, lines[i]? = some line → ∃ s, steps[i]? = some s ∧
      Obeys t client.path (.behind client settings (lines.take i))
        (((steps.take i).map (·.console)).getLastD c) line s ∧
      s.console.inForce = .behind client settings (lines.take (i + 1)) := by
  intro c steps i line hline
  let d := c.after t (commands (lines.take i))
  have hi : i < lines.length := (List.getElem?_eq_some_iff.mp hline).1
  have hs : steps[i]? = some (d.step t line) := by rw [getElem?_run, hline, Option.map_some]
  have hnext : (d.step t line).console = c.after t (commands (lines.take (i + 1))) := by
    rw [console_step, ← after_append, List.take_add_one, hline, Option.toList_some, commands,
      commands, commands, List.filterMap_append]
  refine ⟨d.step t line, hs, ?_, ?_⟩
  · have hpath : d.client.path = client.path := c.path_after t _
    rw [console_getLastD t c lines i hi.le, ← inForce_after t client settings (lines.take i),
      ← hpath]
    exact d.obeys_step t line
  · rw [hnext]
    exact inForce_after t client settings _

/-- A limit that was cleared does not fall back to the configured one, and a line that is refused
sets nothing. -/
theorem run_obeys_settings_cleared :
    let t := Transport.scripted [.ok "42"]
    let client := Client.ofPath "http://localhost:2480/demo"
    let settings : QuerySettings := ⟨some "5", some "*:-1"⟩
    let lines := ["limit -", "limit 1 2", "raw on", "select from V"]
    let steps := (new client settings).run t lines
    lines[3]? = some "select from V" ∧ ∃ s, steps[3]? = some s ∧
      Obeys t client.path (.behind client settings (lines.take 3))
        (((steps.take 3).map (·.console)).getLastD (new client settings)) "select from V" s ∧
      s.console.inForce = ⟨none, some "*:-1", false⟩ ∧
      s.exchanges.map (·.request.url) =
        ["http://localhost:2480/connect/demo",
          "http://localhost:2480/query/demo/sql/select%20from%20V/20/*:-1"] := by
  intro t client settings lines steps
  have hline : lines[3]? = some "select from V" := rfl
  obtain ⟨s, hs, hobeys, hforce⟩ := run_obeys_settings t client settings lines 3 _ hline
  have hurls : steps[3]?.map (·.exchanges.map (·.request.url)) =
      some ["http://localhost:2480/connect/demo",
        "http://localhost:2480/query/demo/sql/select%20from%20V/20/*:-1"] := by decide +kernel
  rw [hs] at hurls
  exact ⟨hline, s, hs, hobeys, hforce, Option.some.inj hurls⟩

end Console

end DocumentRest
