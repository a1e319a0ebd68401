import DocumentRest.Proofs.Performance

namespace DocumentRest

def Request.anonymous (r : Request) : Request := { r with credentials := none }

/-- Answers that depend on nobody's credentials. -/
def Transport.IgnoresCredentials (t : Transport) : Prop :=
  ∀ past request, t (past.map Request.anonymous) request.anonymous = t past request

theorem Transport.ignoresCredentials_scripted (answers : List Answer) :
    (scripted answers).IgnoresCredentials := by
  intro past request
  unfold scripted
  rw [List.length_map]

namespace Exchange

def anonymous (e : Exchange) : Exchange := { e with request := e.request.anonymous }

@[simp] theorem outcome_anonymous (e : Exchange) : e.anonymous.outcome = e.outcome := rfl

theorem map_request_anonymous (journal : List Exchange) :
    (journal.map anonymous).map (·.request) =
      (journal.map (·.request)).map Request.anonymous := by
  rw [List.map_map, List.map_map]
  rfl

end Exchange

namespace Client

variable (c : Client)

def anonymous : Client := { c with credentials := none }

theorem request_anonymous (endpoint : Endpoint) (k : Option Credentials) :
    c.anonymous.request endpoint none = (c.request endpoint k).anonymous := rfl

theorem record_anonymous (f : Family) (r : Except ClientError Body) :
    c.anonymous.record f r = (c.record f r).anonymous := by
  cases r with
  | ok b => cases f <;> rfl
  | error e => cases f <;> rfl

theorem sessionField_anonymous (f : SessionField) :
    c.anonymous.sessionField f = c.sessionField f := rfl

end Client

def Operation.anonymous : Operation → Operation
  | connect _ => connect none
  | op => op

theorem Operation.endpoint?_anonymous (op : Operation) :
    op.anonymous.endpoint? = op.endpoint? := by
  cases op <;> rfl

namespace Conversation

variable {t : Transport} (c : Conversation)

def anonymous : Conversation := ⟨c.client.anonymous, c.journal.map Exchange.anonymous⟩

@[simp] theorem isOpen_anonymous : c.anonymous.client.isOpen = c.client.isOpen := rfl

theorem exchange_anonymous (ht : t.IgnoresCredentials) (endpoint : Endpoint)
    (k : Option Credentials) :
    c.anonymous.exchange t endpoint none = (c.exchange t endpoint k).anonymous := by
  have hanswer : t (c.anonymous.journal.map (·.request)) (c.anonymous.client.request endpoint none) =
      t (c.journal.map (·.request)) (c.client.request endpoint k) := by
    have hpast : c.anonymous.journal.map (·.request) =
        (c.journal.map (·.request)).map Request.anonymous :=
      Exchange.map_request_anonymous c.journal
    have hrequest : c.anonymous.client.request endpoint none =
        (c.client.request endpoint k).anonymous := c.client.request_anonymous endpoint k
    rw [hpast, hrequest, ht]
  exact congrArg (Exchange.mk endpoint c.client.structured _) hanswer

theorem send_anonymous (ht : t.IgnoresCredentials) (endpoint : Endpoint)
    (k : Option Credentials) :
    c.anonymous.send t endpoint none = (c.send t endpoint k).map anonymous id := by
  have he := c.exchange_anonymous ht endpoint k
  have hclient := c.client.record_anonymous endpoint.family (c.exchange t endpoint k).outcome
  have hjournal : (c.journal ++ [c.exchange t endpoint k]).map Exchange.anonymous =
      c.journal.map Exchange.anonymous ++ [(c.exchange t endpoint k).anonymous] := List.map_append
  rw [send_eq, send_eq, he]
  simp only [Prod.map, id, anonymous, Exchange.outcome_anonymous, hclient, hjournal]

theorem connect_anonymous (ht : t.IgnoresCredentials) (k : Option Credentials) :
    c.anonymous.connect t none = (c.connect t k).map anonymous id := by
  unfold connect
  rw [c.send_anonymous ht .connect k]
  obtain ⟨d, outcome⟩ := c.send t .connect k
  cases outcome with
  | ok b => rfl
  | error e => rfl

theorem ensureOpen_anonymous (ht : t.IgnoresCredentials) :
    c.anonymous.ensureOpen t = (c.ensureOpen t).anonymous := by
  cases h : c.client.isOpen with
  | true => rw [ensureOpen_of_open t c h, ensureOpen_of_open t c.anonymous h]
  | false =>
    rw [ensureOpen_of_closed t c h, ensureOpen_of_closed t c.anonymous h,
      c.connect_anonymous ht none]
    rfl

theorem call_anonymous (ht : t.IgnoresCredentials) (endpoint : Endpoint) :
    c.anonymous.call t endpoint = (c.call t endpoint).map anonymous id :=
  c.send_anonymous ht endpoint c.client.credentials

theorem request_anonymous (ht : t.IgnoresCredentials) (endpoint : Endpoint) :
    c.anonymous.request t endpoint = (c.request t endpoint).map anonymous id := by
  have hcall := (c.ensureOpen t).call_anonymous ht endpoint
  unfold request
  rw [c.ensureOpen_anonymous ht, hcall]
  rfl

theorem close_anonymous (ht : t.IgnoresCredentials) :
    c.anonymous.close t = (c.close t).map anonymous id := by
  have hcall := c.call_anonymous ht .disconnect
  cases h : c.client.isOpen with
  | true =>
    unfold close
    rw [isOpen_anonymous, h, hcall]
    rfl
  | false =>
    rw [close_of_closed t c h, close_of_closed t c.anonymous h]
    rfl

theorem field_anonymous (f : SessionField) :
    c.anonymous.field f = (c.field f).map anonymous id := by
  have hf : c.anonymous.client.sessionField f = c.client.sessionField f :=
    c.client.sessionField_anonymous f
  unfold field
  rw [hf]
  cases c.client.sessionField f <;> rfl

/-- Without its credentials, a conversation is led on as it is with them. -/
theorem perform_anonymous (ht : t.IgnoresCredentials) (op : Operation) :
    c.anonymous.perform t op.anonymous = (c.perform t op).map anonymous id := by
  induction op using Operation.exhaust with
  | connect k =>
    have hconnect := c.connect_anonymous ht k
    show ((c.anonymous.connect t none).1, (c.anonymous.connect t none).2.map Reply.opened) = _
    rw [hconnect]
    rfl
  | request op endpoint h =>
    have h' : op.anonymous.endpoint? = some endpoint := by rw [op.endpoint?_anonymous, h]
    rw [perform_eq_request t c h, perform_eq_request t c.anonymous h', c.request_anonymous ht]
  | close => exact c.close_anonymous ht
  | field f => exact c.field_anonymous f
  | setStructured on => rfl

end Conversation

end DocumentRest
