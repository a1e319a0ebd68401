import DocumentRest.Proofs.Reach
import Mathlib.Data.List.Forall2

namespace DocumentRest

def Transport.AnswersJson (t : Transport) : Prop :=
  ∀ past request text, t past request = .ok text → ∃ b, Body.ofText true text = .ok b

/-- Bodies that stand for the same answer: equal ones, or a text and the value that it parses to. -/
inductive Body.Corresponds : Body → Body → Prop
  | same (b : Body) : Corresponds b b
  | read {text : String} {v : Json.Value} (h : Json.Value.parse text = .ok v) :
      Corresponds (.structured v) (.raw text)
  | kept {text : String} {v : Json.Value} (h : Json.Value.parse text = .ok v) :
      Corresponds (.raw text) (.structured v)

inductive Reply.Corresponds : Reply → Reply → Prop
  | opened {b b' : Body} (h : b.Corresponds b') : Corresponds (.opened b) (.opened b')
  | body {b b' : Body} (h : b.Corresponds b') : Corresponds (.body b) (.body b')
  | closed {b b' : Option Body} (h : Option.Rel Body.Corresponds b b') :
      Corresponds (.closed b) (.closed b')
  | field (v : Option Json.Value) : Corresponds (.field v) (.field v)

inductive SameOutcome {α : Type} (R : α → α → Prop) :
    Except ClientError α → Except ClientError α → Prop
  | ok {a a' : α} (h : R a a') : SameOutcome R (.ok a) (.ok a')
  | error (e : ClientError) : SameOutcome R (.error e) (.error e)

theorem SameOutcome.map {α β : Type} {R : α → α → Prop} {S : β → β → Prop} {f : α → β}
    {r r' : Except ClientError α} (hf : ∀ {a a'}, R a a' → S (f a) (f a'))
    (h : SameOutcome R r r') : SameOutcome S (r.map f) (r'.map f) := by
  cases h with
  | ok h => exact .ok (hf h)
  | error e => exact .error e

structure Exchange.Corresponds (e e' : Exchange) : Prop where
  endpoint : e.endpoint = e'.endpoint
  request : e.request = e'.request
  answer : e.answer = e'.answer

namespace Exchange.Corresponds

variable {e e' : Exchange}

/-- What is kept as it came does not depend on the mode. -/
theorem outcome_eq (h : e.Corresponds e') (hk : e.endpoint.KeepsText) : e.outcome = e'.outcome := by
  have hp := e.endpoint.parsesAnswer_eq_false_iff.mpr hk
  unfold outcome
  rw [← h.endpoint, ← h.answer, hp, Bool.and_false, Bool.and_false]

theorem sameOutcome (h : e.Corresponds e')
    (hj : ∀ text, e.answer = .ok text → ∃ b, Body.ofText true text = .ok b) :
    SameOutcome Body.Corresponds e.outcome e'.outcome := by
  unfold outcome
  rw [← h.endpoint, ← h.answer]
  cases ha : e.answer with
  | error failure => exact .error _
  | ok text =>
    obtain ⟨b, hb⟩ := hj text ha
    cases hv : Json.Value.parse text with
    | error error => simp [Body.ofText, hv, Except.map] at hb
    | ok v =>
      have hs : Body.ofText true text = .ok (.structured v) := by
        simp [Body.ofText, hv, Except.map]
      have hr : Body.ofText false text = .ok (.raw text) := by simp [Body.ofText]
      cases hm : (e.structured && e.endpoint.parsesAnswer) <;>
        cases hm' : (e'.structured && e.endpoint.parsesAnswer)
      · simpa only [hr] using SameOutcome.ok (.same (.raw text))
      · simpa only [hr, hs] using SameOutcome.ok (.kept hv)
      · simpa only [hr, hs] using SameOutcome.ok (.read hv)
      · simpa only [hs] using SameOutcome.ok (.same (.structured v))

theorem opensSession_eq (h : e.Corresponds e')
    (ho : SameOutcome Body.Corresponds e.outcome e'.outcome) :
    e.opensSession = e'.opensSession := by
  by_cases hc : e.endpoint = .connect
  · rw [opensSession_eq_isOk hc, opensSession_eq_isOk (h.endpoint ▸ hc)]
    generalize e.outcome = r, e'.outcome = r' at ho
    cases ho <;> rfl
  · simp [opensSession, hc, h.endpoint ▸ hc]

end Exchange.Corresponds

structure Client.Alike (c d : Client) : Prop where
  path : c.path = d.path
  credentials : c.credentials = d.credentials
  session : Option.Rel Body.Corresponds c.session d.session
  lastQuery : Option.Rel Body.Corresponds c.lastQuery d.lastQuery
  lastCommand : Option.Rel Body.Corresponds c.lastCommand d.lastCommand
  lastError : c.lastError = d.lastError

namespace Client.Alike

variable {c d : Client}

theorem isOpen_eq (h : c.Alike d) : c.isOpen = d.isOpen := by
  obtain ⟨_, _, hs, _, _, _⟩ := h
  unfold isOpen
  generalize c.session = s, d.session = s' at hs
  cases hs <;> rfl

theorem withBody (h : c.Alike d) {b b' : Option Body} (hb : Option.Rel Body.Corresponds b b')
    (f : Family) : (c.withBody b f).Alike (d.withBody b' f) := by
  cases f with
  | connect => exact { h with session := hb }
  | query => exact { h with lastQuery := hb }
  | command => exact { h with lastCommand := hb }

theorem record (h : c.Alike d) (f : Family) {r r' : Except ClientError Body}
    (hr : SameOutcome Body.Corresponds r r') : (c.record f r).Alike (d.record f r') := by
  cases hr with
  | ok hb => exact { h.withBody (.some hb) f with lastError := rfl }
  | error e => exact { h.withBody .none f with lastError := rfl }

theorem sessionField_eq (h : c.Alike d) (f : SessionField) :
    c.sessionField f = d.sessionField f := by
  obtain ⟨_, _, hs, _, _, _⟩ := h
  unfold sessionField
  generalize c.session = s, d.session = s' at hs
  cases hs with
  | none => rfl
  | some hb =>
    cases hb with
    | same => rfl
    | read hv => simp [Body.field, Body.value, hv, Except.map]
    | kept hv => simp [Body.field, Body.value, hv, Except.map]

end Client.Alike

namespace Conversation

structure Alike (c d : Conversation) : Prop where
  client : c.client.Alike d.client
  journal : List.Forall₂ Exchange.Corresponds c.journal d.journal

theorem map_request_eq {l l' : List Exchange} (h : List.Forall₂ Exchange.Corresponds l l') :
    l.map (·.request) = l'.map (·.request) := by
  induction h with
  | nil => rfl
  | cons h _ ih => rw [List.map_cons, List.map_cons, h.request, ih]

theorem forall₂_concat {l l' : List Exchange} {e e' : Exchange}
    (h : List.Forall₂ Exchange.Corresponds l l') (he : e.Corresponds e') :
    List.Forall₂ Exchange.Corresponds (l ++ [e]) (l' ++ [e']) :=
  List.rel_append h (.cons he .nil)

namespace Alike

variable {t : Transport} {c d : Conversation}

theorem refl (c : Conversation) : c.Alike c := by
  have hrefl : ∀ b : Option Body, Option.Rel Body.Corresponds b b := by
    rintro (_ | b)
    · exact .none
    · exact .some (.same b)
  exact ⟨⟨rfl, rfl, hrefl _, hrefl _, hrefl _, rfl⟩,
    List.forall₂_same.mpr fun e _ => ⟨rfl, rfl, rfl⟩⟩

theorem exchange (h : c.Alike d) (endpoint : Endpoint) (k : Option Credentials) :
    (c.exchange t endpoint k).Corresponds (d.exchange t endpoint k) := by
  have hr : c.client.request endpoint k = d.client.request endpoint k := by
    rw [Client.request, Client.request, h.client.path]
  refine ⟨rfl, hr, ?_⟩
  show t _ (c.client.request endpoint k) = t _ (d.client.request endpoint k)
  rw [map_request_eq h.journal, hr]

theorem outcome (ht : t.AnswersJson) (h : c.Alike d) (endpoint : Endpoint)
    (k : Option Credentials) :
    SameOutcome Body.Corresponds (c.exchange t endpoint k).outcome
      (d.exchange t endpoint k).outcome :=
  (h.exchange endpoint k).sameOutcome fun text => ht _ _ text

theorem connect (ht : t.AnswersJson) (h : c.Alike d) (k : Option Credentials) :
    (c.connect t k).1.Alike (d.connect t k).1 := by
  have he := h.exchange (t := t) .connect k
  have ho := h.outcome ht .connect k
  have hk : (c.exchange t .connect k).sessionCredentials =
      (d.exchange t .connect k).sessionCredentials := by
    rw [Exchange.sessionCredentials, Exchange.sessionCredentials, he.opensSession_eq ho, he.request]
  rw [connect_eq, connect_eq]
  exact ⟨{ h.client.record .connect ho with credentials := hk }, forall₂_concat h.journal he⟩

theorem ensureOpen (ht : t.AnswersJson) (h : c.Alike d) :
    (c.ensureOpen t).Alike (d.ensureOpen t) := by
  cases hc : c.client.isOpen with
  | true => rwa [ensureOpen_of_open t c hc, ensureOpen_of_open t d (h.client.isOpen_eq ▸ hc)]
  | false =>
    rw [ensureOpen_of_closed t c hc, ensureOpen_of_closed t d (h.client.isOpen_eq ▸ hc)]
    exact h.connect ht none

theorem opening (h : c.Alike d) :
    List.Forall₂ Exchange.Corresponds (c.opening t) (d.opening t) := by
  unfold Conversation.opening
  rw [h.client.isOpen_eq]
  split
  · exact .nil
  · exact .cons (h.exchange .connect none) .nil

theorem closing (ht : t.AnswersJson) (h : c.Alike d) (endpoint : Endpoint) :
    (c.closing t endpoint).Corresponds (d.closing t endpoint) := by
  have he := h.ensureOpen ht
  unfold Conversation.closing
  rw [he.client.credentials]
  exact he.exchange endpoint _

theorem outcome_closing (ht : t.AnswersJson) (h : c.Alike d) (endpoint : Endpoint) :
    SameOutcome Body.Corresponds (c.closing t endpoint).outcome (d.closing t endpoint).outcome :=
  (h.closing ht endpoint).sameOutcome fun text => ht _ _ text

theorem disconnect (h : c.Alike d) :
    (c.exchange t .disconnect c.client.credentials).Corresponds
      (d.exchange t .disconnect d.client.credentials) := by
  rw [h.client.credentials]
  exact h.exchange .disconnect _

theorem outcome_disconnect (ht : t.AnswersJson) (h : c.Alike d) :
    SameOutcome Body.Corresponds (c.exchange t .disconnect c.client.credentials).outcome
      (d.exchange t .disconnect d.client.credentials).outcome :=
  h.disconnect.sameOutcome fun text => ht _ _ text

theorem exchanges_step (ht : t.AnswersJson) (h : c.Alike d) (op : Operation) :
    List.Forall₂ Exchange.Corresponds (c.step t op).exchanges (d.step t op).exchanges := by
  induction op using Operation.exhaust with
  | connect k =>
    rw [exchanges_step_connect, exchanges_step_connect]
    exact .cons (h.exchange .connect k) .nil
  | request op endpoint ho =>
    rw [exchanges_step_request t c ho, exchanges_step_request t d ho]
    exact forall₂_concat h.opening (h.closing ht endpoint)
  | close =>
    rw [exchanges_step_close, exchanges_step_close, h.client.isOpen_eq]
    split
    · exact .cons h.disconnect .nil
    · exact .nil
  | field f =>
    rw [exchanges_step_field, exchanges_step_field]
    exact .nil
  | setStructured on =>
    rw [exchanges_step_setStructured, exchanges_step_setStructured]
    exact .nil

theorem request (ht : t.AnswersJson) (h : c.Alike d) (endpoint : Endpoint) :
    (c.request t endpoint).1.client.Alike (d.request t endpoint).1.client ∧
      SameOutcome Reply.Corresponds (c.request t endpoint).2 (d.request t endpoint).2 := by
  have ho := h.outcome_closing ht endpoint
  rw [request_eq, request_eq]
  exact ⟨(h.ensureOpen ht).client.record _ ho, ho.map .body⟩

theorem close (ht : t.AnswersJson) (h : c.Alike d) :
    (c.close t).1.client.Alike (d.close t).1.client ∧
      SameOutcome Reply.Corresponds (c.close t).2 (d.close t).2 := by
  cases hc : c.client.isOpen with
  | true =>
    have ho := h.outcome_disconnect ht
    rw [close_of_open t c hc, close_of_open t d (h.client.isOpen_eq ▸ hc)]
    exact ⟨{ h.client.record .command ho with session := .none, credentials := rfl },
      ho.map fun hb => .closed (.some hb)⟩
  | false =>
    rw [close_of_closed t c hc, close_of_closed t d (h.client.isOpen_eq ▸ hc)]
    exact ⟨h.client, .ok (.closed h.client.lastCommand)⟩

theorem field (h : c.Alike d) (f : SessionField) :
    (c.field f).1.client.Alike (d.field f).1.client ∧
      SameOutcome Reply.Corresponds (c.field f).2 (d.field f).2 := by
  unfold Conversation.field
  rw [h.client.sessionField_eq]
  cases d.client.sessionField f with
  | ok v => exact ⟨h.client, .ok (.field v)⟩
  | error e => exact ⟨{ h.client with lastError := rfl }, .error e⟩

theorem client_perform (ht : t.AnswersJson) (h : c.Alike d) (op : Operation) :
    (c.perform t op).1.client.Alike (d.perform t op).1.client := by
  induction op using Operation.exhaust with
  | connect k => exact (h.connect ht k).client
  | request op endpoint ho =>
    rw [perform_eq_request t c ho, perform_eq_request t d ho]
    exact (h.request ht endpoint).1
  | close => exact (h.close ht).1
  | field f => exact (h.field f).1
  | setStructured on => exact { h.client with }

theorem perform (ht : t.AnswersJson) (h : c.Alike d) (op : Operation) :
    (c.perform t op).1.Alike (d.perform t op).1 := by
  refine ⟨h.client_perform ht op, ?_⟩
  rw [journal_perform, journal_perform]
  exact List.rel_append h.journal (h.exchanges_step ht op)

theorem setStructured_left (h : c.Alike d) (on : Bool) :
    (c.perform t (.setStructured on)).1.Alike d := ⟨{ h.client with }, h.journal⟩

theorem setStructured_right (h : c.Alike d) (on : Bool) :
    c.Alike (d.perform t (.setStructured on)).1 := ⟨{ h.client with }, h.journal⟩

theorem outcome_step (ht : t.AnswersJson) (h : c.Alike d) {op : Operation}
    (hop : op.mode? = none) :
    SameOutcome Reply.Corresponds (c.step t op).outcome (d.step t op).outcome := by
  induction op using Operation.exhaust with
  | connect k => exact (h.outcome ht .connect k).map .opened
  | request op endpoint ho =>
    simp only [step, perform_eq_request t c ho, perform_eq_request t d ho]
    exact (h.request ht endpoint).2
  | close => exact (h.close ht).2
  | field f => exact (h.field f).2
  | setStructured on => simp [Operation.mode?] at hop

end Alike

end Conversation

end DocumentRest
