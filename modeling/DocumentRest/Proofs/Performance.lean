import DocumentRest.Client
import DocumentRest.Proofs.Journal

namespace DocumentRest

namespace Client

variable (c : Client) (e : Exchange)

theorem record_session :
    (c.record e.endpoint.family e.outcome).session =
      if e.endpoint = .connect then e.body? else c.session := by
  unfold Exchange.body?
  cases e.endpoint <;> cases e.outcome <;>
    simp [record, withBody, Endpoint.family, Except.toOption]

theorem record_lastQuery :
    (c.record e.endpoint.family e.outcome).lastQuery =
      if e.endpoint.looksUp then e.body? else c.lastQuery := by
  unfold Exchange.body?
  cases e.endpoint <;> cases e.outcome <;>
    simp [record, withBody, Endpoint.family, Endpoint.looksUp, Except.toOption]

theorem record_lastCommand :
    (c.record e.endpoint.family e.outcome).lastCommand =
      if e.endpoint.commands then e.body? else c.lastCommand := by
  unfold Exchange.body?
  cases e.endpoint <;> cases e.outcome <;>
    simp [record, withBody, Endpoint.family, Endpoint.commands, Except.toOption]

theorem record_lastError (f : Family) : (c.record f e.outcome).lastError = e.error? := by
  unfold Exchange.error?
  cases e.outcome <;> rfl

@[simp] theorem withBody_path (b : Option Body) (f : Family) : (c.withBody b f).path = c.path := by
  cases f <;> rfl

@[simp] theorem withBody_structured (b : Option Body) (f : Family) :
    (c.withBody b f).structured = c.structured := by
  cases f <;> rfl

@[simp] theorem withBody_credentials (b : Option Body) (f : Family) :
    (c.withBody b f).credentials = c.credentials := by
  cases f <;> rfl

variable (f : Family) (r : Except ClientError Body)

@[simp] theorem record_path : (c.record f r).path = c.path := by
  cases r <;> simp [record]

@[simp] theorem record_structured : (c.record f r).structured = c.structured := by
  cases r <;> simp [record]

@[simp] theorem record_credentials : (c.record f r).credentials = c.credentials := by
  cases r <;> simp [record]

end Client

namespace Operation

def endpoint? : Operation → Option Endpoint
  | query sql limit fetchPlan => some (.query sql limit fetchPlan)
  | load rid fetchPlan => some (.document rid fetchPlan)
  | classInfo name => some (.classInfo name)
  | createClass name => some (.createClass name)
  | browseCluster name => some (.cluster name)
  | executeCommand sql => some (.command sql)
  | serverInfo => some .server
  | connect _ | close | field _ | setStructured _ => none

def credentials : Operation → Option Credentials
  | connect k => k
  | _ => none

theorem movesSession_eq_false {op : Operation} {endpoint : Endpoint}
    (h : op.endpoint? = some endpoint) : endpoint.movesSession = false := by
  cases op <;> simp only [endpoint?, Option.some.injEq, reduceCtorEq] at h <;> subst h <;> rfl

theorem credentials_eq_none {op : Operation} {endpoint : Endpoint}
    (h : op.endpoint? = some endpoint) : op.credentials = none := by
  cases op <;> simp_all [endpoint?, credentials]

/-- The five ways in which operations are carried out. -/
theorem exhaust {motive : Operation → Prop} (connect : ∀ k, motive (.connect k))
    (request : ∀ op endpoint, op.endpoint? = some endpoint → motive op) (close : motive .close)
    (field : ∀ f, motive (.field f)) (setStructured : ∀ on, motive (.setStructured on))
    (op : Operation) : motive op := by
  cases op with
  | connect k => exact connect k
  | close => exact close
  | field f => exact field f
  | setStructured on => exact setStructured on
  | _ => exact request _ _ rfl

end Operation

namespace Conversation

variable (t : Transport) (c : Conversation)

def fresh (path : String) : Conversation := ⟨.ofPath path, []⟩

def exchange (endpoint : Endpoint) (credentials : Option Credentials) : Exchange :=
  let request := c.client.request endpoint credentials
  ⟨endpoint, c.client.structured, request, t (c.journal.map (·.request)) request⟩

def step (op : Operation) : Step :=
  ⟨op, (c.perform t op).2, (c.perform t op).1.journal.drop c.journal.length,
    (c.perform t op).1.client⟩

theorem run_cons (op : Operation) (ops : List Operation) :
    c.run t (op :: ops) = c.step t op :: (c.perform t op).1.run t ops := rfl

theorem send_eq (endpoint : Endpoint) (credentials : Option Credentials) :
    c.send t endpoint credentials =
      (⟨c.client.record endpoint.family (c.exchange t endpoint credentials).outcome,
        c.journal ++ [c.exchange t endpoint credentials]⟩,
        (c.exchange t endpoint credentials).outcome) := rfl

theorem perform_eq_request {op : Operation} {endpoint : Endpoint}
    (h : op.endpoint? = some endpoint) : c.perform t op = c.request t endpoint := by
  cases op <;> simp only [Operation.endpoint?, Option.some.injEq, reduceCtorEq] at h <;>
    subst h <;> rfl

theorem connect_eq (k : Option Credentials) :
    c.connect t k =
      (⟨{ c.client.record .connect (c.exchange t .connect k).outcome with
          credentials := (c.exchange t .connect k).sessionCredentials },
        c.journal ++ [c.exchange t .connect k]⟩, (c.exchange t .connect k).outcome) := by
  have hs : (c.exchange t .connect k).sessionCredentials =
      if (c.exchange t .connect k).outcome.isOk then k else none := by
    rw [Exchange.sessionCredentials, Exchange.opensSession_eq_isOk rfl]
    rfl
  simp only [connect, send_eq, hs]
  cases (c.exchange t .connect k).outcome <;> rfl

theorem ensureOpen_of_open (h : c.client.isOpen = true) : c.ensureOpen t = c := if_pos h

theorem ensureOpen_of_closed (h : c.client.isOpen = false) :
    c.ensureOpen t = (c.connect t none).1 := by
  simp [ensureOpen, h]

def opening : List Exchange := if c.client.isOpen then [] else [c.exchange t .connect none]

def closing (endpoint : Endpoint) : Exchange :=
  (c.ensureOpen t).exchange t endpoint (c.ensureOpen t).client.credentials

theorem journal_ensureOpen : (c.ensureOpen t).journal = c.journal ++ c.opening t := by
  unfold opening
  cases h : c.client.isOpen with
  | true => simp [ensureOpen_of_open t c h]
  | false => simp [ensureOpen_of_closed t c h, connect_eq]

theorem request_eq (endpoint : Endpoint) :
    c.request t endpoint =
      (⟨(c.ensureOpen t).client.record endpoint.family (c.closing t endpoint).outcome,
        c.journal ++ c.opening t ++ [c.closing t endpoint]⟩,
        (c.closing t endpoint).outcome.map .body) := by
  rw [← journal_ensureOpen]
  rfl

theorem close_of_open (h : c.client.isOpen = true) :
    c.close t =
      (⟨{ c.client.record .command (c.exchange t .disconnect c.client.credentials).outcome with
          session := none, credentials := none },
        c.journal ++ [c.exchange t .disconnect c.client.credentials]⟩,
        (c.exchange t .disconnect c.client.credentials).outcome.map fun b => .closed (some b)) := by
  simp only [close, h, if_true]
  rfl

theorem close_of_closed (h : c.client.isOpen = false) :
    c.close t = (c, .ok (.closed c.client.lastCommand)) := by
  simp [close, h]

section Exchanges

theorem exchanges_step_connect (k : Option Credentials) :
    (c.step t (.connect k)).exchanges = [c.exchange t .connect k] := by
  simp [step, perform, connect_eq]

theorem exchanges_step_request {op : Operation} {endpoint : Endpoint}
    (h : op.endpoint? = some endpoint) :
    (c.step t op).exchanges = c.opening t ++ [c.closing t endpoint] := by
  simp [step, perform_eq_request t c h, request_eq]

theorem exchanges_step_close :
    (c.step t .close).exchanges =
      if c.client.isOpen then [c.exchange t .disconnect c.client.credentials] else [] := by
  cases h : c.client.isOpen with
  | true => simp [step, perform, close_of_open t c h]
  | false => simp [step, perform, close_of_closed t c h]

theorem exchanges_step_field (f : SessionField) : (c.step t (.field f)).exchanges = [] := by
  simp only [step, perform, field]
  cases c.client.sessionField f <;> simp

theorem exchanges_step_setStructured (on : Bool) :
    (c.step t (.setStructured on)).exchanges = [] := by
  simp [step, perform, setStructured]

theorem outcome_step_field (f : SessionField) :
    (c.step t (.field f)).outcome = (c.client.sessionField f).map .field := by
  simp only [step, perform, field]
  cases c.client.sessionField f <;> rfl

theorem journal_perform (op : Operation) :
    (c.perform t op).1.journal = c.journal ++ (c.step t op).exchanges := by
  induction op using Operation.exhaust with
  | connect k => simp [exchanges_step_connect, perform, connect_eq]
  | request op endpoint h =>
    simp [exchanges_step_request t c h, perform_eq_request t c h, request_eq]
  | close =>
    cases h : c.client.isOpen with
    | true => simp [exchanges_step_close, perform, close_of_open t c h, h]
    | false => simp [exchanges_step_close, perform, close_of_closed t c h, h]
  | field f =>
    simp only [exchanges_step_field, perform, field]
    cases c.client.sessionField f <;> simp
  | setStructured on => simp [exchanges_step_setStructured, perform, setStructured]

/-- A relation of requests to those before them holds of an operation's requests if it holds of a
connect request, of the request of an operation in a session, and of a disconnect request. -/
theorem following_step {R : List Exchange → Exchange → Prop} (op : Operation)
    (connect : R c.journal (c.exchange t .connect op.credentials))
    (closing : ∀ endpoint, op.endpoint? = some endpoint →
      R (c.journal ++ c.opening t) (c.closing t endpoint))
    (disconnect : op = .close → c.client.isOpen = true →
      R c.journal (c.exchange t .disconnect c.client.credentials)) :
    Following R c.journal (c.step t op).exchanges := by
  induction op using Operation.exhaust with
  | connect k =>
    rw [exchanges_step_connect]
    exact ⟨connect, trivial⟩
  | request op endpoint h =>
    rw [exchanges_step_request t c h, following_append]
    refine ⟨?_, closing endpoint h, trivial⟩
    rw [Operation.credentials_eq_none h] at connect
    unfold opening
    split
    · trivial
    · exact ⟨connect, trivial⟩
  | close =>
    rw [exchanges_step_close]
    split
    · exact ⟨disconnect rfl ‹_›, trivial⟩
    · trivial
  | field f =>
    rw [exchanges_step_field]
    trivial
  | setStructured on =>
    rw [exchanges_step_setStructured]
    trivial

end Exchanges

end Conversation

end DocumentRest
