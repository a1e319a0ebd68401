import DocumentRest.Proofs.Memory

namespace DocumentRest

namespace Operation

def mode? : Operation → Option Bool
  | setStructured on => some on
  | _ => none

def modeAfter (ops : List Operation) : Bool := (ops.filterMap mode?).getLast?.getD true

theorem modeAfter_concat (ops : List Operation) (op : Operation) :
    modeAfter (ops ++ [op]) = op.mode?.getD (modeAfter ops) := by
  unfold modeAfter
  rw [List.filterMap_append]
  cases h : op.mode? <;> simp [h]

theorem mode?_eq_none {op : Operation} {endpoint : Endpoint} (h : op.endpoint? = some endpoint) :
    op.mode? = none := by
  cases op <;> simp_all [endpoint?, mode?]

end Operation

/-- An exchange is one that took place: its request is that of its endpoint, its mode the one in
force, and its answer what the transport gave after the exchanges before it. -/
structure Exchange.Happened (t : Transport) (p : DatabasePath) (mode : Bool) (past : List Exchange)
    (e : Exchange) : Prop where
  method : e.request.method = e.endpoint.method
  url : e.request.url = e.endpoint.url p
  mode : e.structured = mode
  answer : e.answer = t (past.map (·.request)) e.request

namespace Conversation

section Step

variable (t : Transport) (c : Conversation)

@[simp] theorem path_connect (k : Option Credentials) :
    (c.connect t k).1.client.path = c.client.path := by
  simp [connect_eq]

@[simp] theorem structured_connect (k : Option Credentials) :
    (c.connect t k).1.client.structured = c.client.structured := by
  simp [connect_eq]

@[simp] theorem path_ensureOpen : (c.ensureOpen t).client.path = c.client.path := by
  unfold ensureOpen
  split <;> simp

@[simp] theorem structured_ensureOpen :
    (c.ensureOpen t).client.structured = c.client.structured := by
  unfold ensureOpen
  split <;> simp

theorem path_perform (op : Operation) : (c.perform t op).1.client.path = c.client.path := by
  induction op using Operation.exhaust with
  | connect k => simp [perform]
  | request op endpoint h => simp [perform_eq_request t c h, request_eq]
  | close =>
    cases h : c.client.isOpen with
    | true => simp [perform, close_of_open t c h]
    | false => simp [perform, close_of_closed t c h]
  | field f =>
    simp only [perform, field]
    cases c.client.sessionField f <;> rfl
  | setStructured on => rfl

theorem structured_perform (op : Operation) :
    (c.perform t op).1.client.structured = op.mode?.getD c.client.structured := by
  induction op using Operation.exhaust with
  | connect k => simp [perform, Operation.mode?]
  | request op endpoint h =>
    simp [perform_eq_request t c h, request_eq, Operation.mode?_eq_none h]
  | close =>
    cases h : c.client.isOpen with
    | true => simp [perform, close_of_open t c h, Operation.mode?]
    | false => simp [perform, close_of_closed t c h, Operation.mode?]
  | field f =>
    simp only [perform, field]
    cases c.client.sessionField f <;> rfl
  | setStructured on => rfl

theorem happened_exchange (endpoint : Endpoint) (k : Option Credentials) :
    (c.exchange t endpoint k).Happened t c.client.path c.client.structured c.journal :=
  ⟨rfl, rfl, rfl, rfl⟩

theorem happened_closing (endpoint : Endpoint) :
    (c.closing t endpoint).Happened t c.client.path c.client.structured
      (c.journal ++ c.opening t) := by
  have h := happened_exchange t (c.ensureOpen t) endpoint (c.ensureOpen t).client.credentials
  rwa [path_ensureOpen, structured_ensureOpen, journal_ensureOpen] at h

theorem happened_step (op : Operation) :
    Following (Exchange.Happened t c.client.path c.client.structured) c.journal
      (c.step t op).exchanges := by
  apply following_step
  · exact happened_exchange t c .connect _
  · exact fun endpoint _ => happened_closing t c endpoint
  · exact fun _ _ => happened_exchange t c .disconnect _

end Step

def after (t : Transport) (c : Conversation) : List Operation → Conversation
  | [] => c
  | op :: ops => after t (c.perform t op).1 ops

def exchanges (steps : List Step) : List Exchange := steps.flatMap (·.exchanges)

inductive Reaches (t : Transport) (path : String) : List Step → Conversation → Prop
  | fresh : Reaches t path [] (.fresh path)
  | step {steps : List Step} {c : Conversation} (h : Reaches t path steps c) (op : Operation) :
      Reaches t path (steps ++ [c.step t op]) (c.perform t op).1

section Reaches

variable {t : Transport} {path : String} {steps : List Step} {c : Conversation}

theorem Reaches.journal_eq (h : Reaches t path steps c) : c.journal = exchanges steps := by
  induction h with
  | fresh => rfl
  | step h op ih => simp [journal_perform, ih, exchanges]

theorem Reaches.remembers (h : Reaches t path steps c) : c.Remembers := by
  induction h with
  | fresh => exact remembers_fresh path
  | step h op ih => exact ih.perform op

theorem Reaches.path_eq (h : Reaches t path steps c) : c.client.path = .parse path := by
  induction h with
  | fresh => rfl
  | step h op ih => rw [path_perform, ih]

theorem Reaches.mode_eq (h : Reaches t path steps c) :
    c.client.structured = Operation.modeAfter (steps.map (·.operation)) := by
  induction h with
  | fresh => rfl
  | step h op ih =>
    rw [structured_perform, List.map_append, List.map_singleton, Operation.modeAfter_concat, ih]
    rfl

theorem Reaches.run (h : Reaches t path steps c) (ops : List Operation) :
    Reaches t path (steps ++ c.run t ops) (c.after t ops) := by
  induction ops generalizing steps c with
  | nil => simpa [Conversation.run, after] using h
  | cons op ops ih => simpa [run_cons, after] using ih (h.step op)

theorem reaches_run (t : Transport) (path : String) (ops : List Operation) :
    Reaches t path ((fresh path).run t ops) ((fresh path).after t ops) :=
  Reaches.fresh.run ops

theorem operation_run (t : Transport) (c : Conversation) (ops : List Operation) :
    (c.run t ops).map (·.operation) = ops := by
  induction ops generalizing c with
  | nil => rfl
  | cons op ops ih => rw [run_cons, List.map_cons, ih]; rfl

/-- What holds of a step in every conversation that was reached holds of all steps of a run. -/
theorem following_run {R : List Step → Step → Prop}
    (hR : ∀ {steps c}, Reaches t path steps c → ∀ op, R steps (c.step t op))
    (ops : List Operation) : Following R [] ((fresh path).run t ops) := by
  -- The steps before a run are carried along: they are what `R` speaks of.
  suffices ∀ steps c, Reaches t path steps c → Following R steps (c.run t ops) from
    this [] (fresh path) .fresh
  induction ops with
  | nil => exact fun _ _ _ => trivial
  | cons op ops ih => exact fun steps c h => ⟨hR h op, ih _ _ (h.step op)⟩

end Reaches

section Log

structure Sent where
  operation : Operation
  exchange : Exchange

def log (steps : List Step) : List Sent :=
  steps.flatMap fun s => s.exchanges.map fun e => ⟨s.operation, e⟩

variable {t : Transport} {path : String} {steps : List Step} {c : Conversation}

theorem exchanges_log (steps : List Step) : (log steps).map (·.exchange) = exchanges steps := by
  simp [log, exchanges, List.map_flatMap, Function.comp_def]

theorem log_concat (steps : List Step) (s : Step) :
    log (steps ++ [s]) = log steps ++ s.exchanges.map fun e => ⟨s.operation, e⟩ := by
  simp [log]

theorem Reaches.inSession_log (h : Reaches t path steps c) :
    Following (fun past r => InSession r.operation (past.map (·.exchange)) r.exchange) []
      (log steps) := by
  induction h with
  | fresh => trivial
  | @step steps c h op ih =>
    have hstep := inSession_step (t := t) h.remembers op
    rw [h.journal_eq, ← exchanges_log] at hstep
    have hsent := (following_map (R := fun past (r : Sent) => InSession r.operation past r.exchange)
      (f := Sent.mk op) (g := Sent.exchange) fun _ => rfl).mpr hstep
    rw [log_concat, following_append, List.nil_append]
    exact ⟨ih, hsent⟩

theorem inSession_log_run (t : Transport) (path : String) (ops : List Operation) :
    Following (fun past r => InSession r.operation (past.map (·.exchange)) r.exchange) []
      (log ((fresh path).run t ops)) :=
  (reaches_run t path ops).inSession_log

end Log

/-- Steps are those of some operations of a new client, and their exchanges took place: each had
the mode that was set last, and was answered by the transport. -/
structure Genuine (t : Transport) (path : String) (ops : List Operation) (steps : List Step) :
    Prop where
  operations : steps.map (·.operation) = ops
  happened : Following (fun before s =>
    Following (Exchange.Happened t (.parse path) (Operation.modeAfter (before.map (·.operation))))
      (exchanges before) s.exchanges) [] steps

theorem genuine_run (t : Transport) (path : String) (ops : List Operation) :
    Genuine t path ops ((fresh path).run t ops) := by
  refine ⟨operation_run t (fresh path) ops, following_run (fun h op => ?_) ops⟩
  rw [← h.journal_eq, ← h.mode_eq, ← h.path_eq]
  exact happened_step t _ op

end Conversation

end DocumentRest
