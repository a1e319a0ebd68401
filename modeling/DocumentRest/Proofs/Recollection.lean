import DocumentRest.Proofs.Reach

namespace DocumentRest.Conversation

/-- What a client may recollect: an exchange, or a look-up in the session that failed. -/
inductive Event
  | exchange (e : Exchange)
  | refused (error : ClientError)

def Event.exchange? : Event → Option Exchange
  | exchange e => some e
  | refused _ => none

def Event.error? : Event → Option ClientError
  | exchange e => e.error?
  | refused error => some error

def Step.events (s : Step) : List Event :=
  s.exchanges.map .exchange ++
    match s.operation, s.outcome with
    | .field _, .error error => [.refused error]
    | _, _ => []

def history (steps : List Step) : List Event := steps.flatMap (·.events)

def requests (events : List Event) : List Exchange := events.filterMap Event.exchange?

/-- The client's session and last bodies are those that the requests of a history tell, and its
last error is that of the last event, if that failed. -/
structure Recollects (events : List Event) (c : Client) : Prop where
  session : c.session = Journal.session (requests events)
  lastQuery : c.lastQuery = Journal.lastBody (requests events) Endpoint.looksUp
  lastCommand : c.lastCommand = Journal.lastBody (requests events) Endpoint.commands
  lastError : c.lastError = events.getLast?.bind Event.error?

inductive LooksUp (f : SessionField) : Option Body → Except ClientError Reply → Prop
  | closed : LooksUp f none (.error .databaseClosed)
  | found {b : Body} {v : Option Json.Value} (h : b.field f.key = .ok v) :
      LooksUp f (some b) (.ok (.field v))
  | unreadable {text : String} {error : Json.Error} (h : Json.Value.parse text = .error error) :
      LooksUp f (some (.raw text)) (.error (.requestFailed .connect text))

section

variable {t : Transport} {path : String} {steps : List Step} {c : Conversation}

theorem looksUp_sessionField (c : Client) (f : SessionField) :
    LooksUp f c.session ((c.sessionField f).map .field) := by
  unfold Client.sessionField
  cases hs : c.session with
  | none => exact .closed
  | some b =>
    cases b with
    | structured v => exact .found rfl
    | raw text =>
      cases hp : Json.Value.parse text with
      | ok v =>
        have hf : (Body.raw text).field f.key = .ok (v.field? f.key) := by
          simp [Body.field, Body.value, hp, Except.map]
        simpa [hf, Except.map] using LooksUp.found hf
      | error error =>
        have hf : (Body.raw text).field f.key = .error error := by
          simp [Body.field, Body.value, hp, Except.map]
        simpa [hf, Except.map] using LooksUp.unreadable hp

theorem events_step (op : Operation) (h : ∀ f, op ≠ .field f) :
    (c.step t op).events = (c.step t op).exchanges.map .exchange := by
  cases op with
  | field f => exact absurd rfl (h f)
  | _ => simp [Step.events, step]

theorem events_step_field (f : SessionField) :
    (c.step t (.field f)).events =
      match c.client.sessionField f with
      | .ok _ => []
      | .error error => [.refused error] := by
  rw [Step.events, exchanges_step_field, outcome_step_field]
  cases c.client.sessionField f <;> rfl

/-- The last error is that of the last event of the operation. Without an event it stays. -/
theorem lastError_perform (op : Operation) :
    (c.perform t op).1.client.lastError =
      (c.step t op).events.getLast?.elim c.client.lastError Event.error? := by
  induction op using Operation.exhaust with
  | connect k =>
    rw [events_step (.connect k) (by simp), exchanges_step_connect]
    simp [perform, connect_eq, Client.record_lastError, Event.error?]
  | request op endpoint h =>
    rw [events_step op fun f hf => by simp [hf, Operation.endpoint?] at h,
      exchanges_step_request t c h]
    simp [perform_eq_request t c h, request_eq, Client.record_lastError, Event.error?]
  | close =>
    rw [events_step .close (by simp), exchanges_step_close]
    cases h : c.client.isOpen with
    | true => simp [perform, close_of_open t c h, Client.record_lastError, Event.error?]
    | false => simp [perform, close_of_closed t c h]
  | field f =>
    rw [events_step_field]
    simp only [perform, field]
    cases c.client.sessionField f <;> rfl
  | setStructured on =>
    rw [events_step (.setStructured on) (by simp), exchanges_step_setStructured]
    rfl

theorem requests_events (s : Step) : requests s.events = s.exchanges := by
  have hx : (s.exchanges.map Event.exchange).filterMap Event.exchange? = s.exchanges := by
    rw [List.filterMap_map]
    exact List.filterMap_some
  rw [requests, Step.events, List.filterMap_append, hx]
  split <;> simp [Event.exchange?]

theorem requests_history (steps : List Step) : requests (history steps) = exchanges steps := by
  induction steps with
  | nil => rfl
  | cons s steps ih =>
    have hc : history (s :: steps) = s.events ++ history steps := by simp [history]
    rw [hc, requests, List.filterMap_append, ← requests, ← requests, ih, requests_events]
    simp [exchanges]

theorem history_concat (steps : List Step) (s : Step) :
    history (steps ++ [s]) = history steps ++ s.events := by
  simp [history]

theorem Reaches.lastError_eq (h : Reaches t path steps c) :
    c.client.lastError = (history steps).getLast?.bind Event.error? := by
  induction h with
  | fresh => rfl
  | @step steps c h op ih =>
    rw [lastError_perform, ih, history_concat, List.getLast?_append]
    cases (c.step t op).events.getLast? <;> rfl

theorem Reaches.recollects (h : Reaches t path steps c) : Recollects (history steps) c.client := by
  constructor
  · rw [requests_history, ← h.journal_eq]
    exact h.remembers.session
  · rw [requests_history, ← h.journal_eq]
    exact h.remembers.lastQuery
  · rw [requests_history, ← h.journal_eq]
    exact h.remembers.lastCommand
  · exact h.lastError_eq

theorem Reaches.looksUp (h : Reaches t path steps c) (f : SessionField) :
    LooksUp f (Journal.session (exchanges steps)) (c.step t (.field f)).outcome := by
  rw [← h.journal_eq, ← h.remembers.session, outcome_step_field]
  exact looksUp_sessionField c.client f

end

/-- At every point of every run a new client recollects its history: the outcomes of the requests
that were sent, and the look-ups that failed. Nothing else leaves a trace. -/
theorem client_recollects_history (path : String) (t : Transport) (ops : List Operation) :
    let steps := (fresh path).run t ops
    Genuine t path ops steps ∧
      (∀ e ∈ exchanges steps, ∀ outcome, e.Yields outcome ↔ e.outcome = outcome) ∧
      Recollects [] (Client.ofPath path) ∧
      Following (fun before s =>
        (∀ f, s.operation = .field f →
          LooksUp f (Journal.session (exchanges before)) s.outcome) ∧
        Recollects (history (before ++ [s])) s.client) [] steps := by
  refine ⟨genuine_run t path ops, fun e _ => e.yields_iff, ⟨rfl, rfl, rfl, rfl⟩, ?_⟩
  refine following_run (fun h op => ⟨?_, ?_⟩) ops
  · rintro f rfl
    exact h.looksUp f
  · exact (h.step op).recollects

end DocumentRest.Conversation
