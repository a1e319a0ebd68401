import DocumentRest.Proofs.Performance

namespace DocumentRest.Conversation

variable {t : Transport} {c : Conversation}

structure Remembers (c : Conversation) : Prop where
  session : c.client.session = Journal.session c.journal
  credentials : c.client.credentials = Journal.credentials c.journal
  lastQuery : c.client.lastQuery = Journal.lastBody c.journal Endpoint.looksUp
  lastCommand : c.client.lastCommand = Journal.lastBody c.journal Endpoint.commands

theorem remembers_fresh (path : String) : (fresh path).Remembers := ⟨rfl, rfl, rfl, rfl⟩

namespace Remembers

theorem isOpen_eq (h : c.Remembers) : c.client.isOpen = Journal.isOpen c.journal := by
  rw [Client.isOpen, h.session, Journal.isSome_session]

theorem lastQuery_record (h : c.Remembers) (e : Exchange) :
    (c.client.record e.endpoint.family e.outcome).lastQuery =
      Journal.lastBody (c.journal ++ [e]) Endpoint.looksUp := by
  rw [Client.record_lastQuery, Journal.lastBody_concat, h.lastQuery]

theorem lastCommand_record (h : c.Remembers) (e : Exchange) :
    (c.client.record e.endpoint.family e.outcome).lastCommand =
      Journal.lastBody (c.journal ++ [e]) Endpoint.commands := by
  rw [Client.record_lastCommand, Journal.lastBody_concat, h.lastCommand]

theorem connect (h : c.Remembers) (k : Option Credentials) : (c.connect t k).1.Remembers := by
  rw [connect_eq]
  let e := c.exchange t .connect k
  have he : e.endpoint = .connect := rfl
  constructor
  · rw [Journal.session_concat_connect he]
    exact (c.client.record_session e).trans (if_pos he)
  · exact (Journal.credentials_concat_connect he).symm
  · exact h.lastQuery_record e
  · exact h.lastCommand_record e

theorem ensureOpen (h : c.Remembers) : (c.ensureOpen t).Remembers := by
  cases hc : c.client.isOpen with
  | true => rwa [ensureOpen_of_open t c hc]
  | false =>
    rw [ensureOpen_of_closed t c hc]
    exact h.connect none

theorem call (h : c.Remembers) {endpoint : Endpoint} (hm : endpoint.movesSession = false)
    (k : Option Credentials) : (c.send t endpoint k).1.Remembers := by
  rw [send_eq]
  let e := c.exchange t endpoint k
  have he : e.endpoint ≠ .connect := fun he => by
    simp [show endpoint = .connect from he, Endpoint.movesSession] at hm
  constructor
  · rw [Journal.session_concat_other hm, ← h.session]
    exact (c.client.record_session e).trans (if_neg he)
  · rw [Journal.credentials_concat_other hm, ← h.credentials]
    exact c.client.record_credentials _ _
  · exact h.lastQuery_record e
  · exact h.lastCommand_record e

theorem close (h : c.Remembers) : (c.close t).1.Remembers := by
  cases hc : c.client.isOpen with
  | false => rwa [close_of_closed t c hc]
  | true =>
    rw [close_of_open t c hc]
    let e := c.exchange t .disconnect c.client.credentials
    have he : e.endpoint = .disconnect := rfl
    constructor
    · exact (Journal.session_concat_disconnect he).symm
    · exact (Journal.credentials_concat_disconnect he).symm
    · exact h.lastQuery_record e
    · exact h.lastCommand_record e

theorem field (h : c.Remembers) (f : SessionField) : (c.field f).1.Remembers := by
  unfold Conversation.field
  cases c.client.sessionField f with
  | ok v => exact h
  | error e => exact ⟨h.session, h.credentials, h.lastQuery, h.lastCommand⟩

theorem perform (h : c.Remembers) (op : Operation) : (c.perform t op).1.Remembers := by
  induction op using Operation.exhaust with
  | connect k => exact h.connect k
  | request op endpoint ho =>
    rw [perform_eq_request t c ho]
    exact h.ensureOpen.call (Operation.movesSession_eq_false ho) _
  | close => exact h.close
  | field f => exact h.field f
  | setStructured on => exact ⟨h.session, h.credentials, h.lastQuery, h.lastCommand⟩

end Remembers

/-- How a request belongs to the session: a connect request has the credentials that its operation
was given, any other comes after a connect request and has the credentials of its session, and a
disconnect request needs a session to be open. -/
structure InSession (op : Operation) (past : List Exchange) (e : Exchange) : Prop where
  connect : e.endpoint = .connect → e.request.credentials = op.credentials
  session : e.endpoint ≠ .connect → ∃ k, Journal.lastMove? past = some k ∧
    k.endpoint = .connect ∧ e.request.credentials = k.sessionCredentials
  disconnect : e.endpoint = .disconnect → Journal.isOpen past = true

theorem inSession_connect (op : Operation) (k : Option Credentials) (hk : k = op.credentials) :
    InSession op c.journal (c.exchange t .connect k) where
  connect _ := hk
  session h := absurd rfl h
  disconnect h := by
    have he : Endpoint.connect = .disconnect := h
    cases he

/-- Once a session was asked for, the last connect or disconnect request is a connect request. -/
theorem exists_connect_ensureOpen (h : c.Remembers) :
    ∃ k, Journal.lastMove? (c.ensureOpen t).journal = some k ∧ k.endpoint = .connect := by
  cases hc : c.client.isOpen with
  | true =>
    rw [ensureOpen_of_open t c hc]
    obtain ⟨k, hk, ho⟩ := Journal.exists_opensSession (h.isOpen_eq.symm.trans hc)
    exact ⟨k, hk, Exchange.connect_of_opensSession ho⟩
  | false =>
    have hlast : Journal.lastMove? (c.journal ++ [c.exchange t .connect none]) =
        some (c.exchange t .connect none) := by
      rw [Journal.lastMove?_concat]
      rfl
    rw [ensureOpen_of_closed t c hc, connect_eq]
    exact ⟨c.exchange t .connect none, hlast, rfl⟩

theorem inSession_closing (h : c.Remembers) {op : Operation} {endpoint : Endpoint}
    (ho : op.endpoint? = some endpoint) :
    InSession op (c.journal ++ c.opening t) (c.closing t endpoint) := by
  have hm := Operation.movesSession_eq_false ho
  rw [← journal_ensureOpen]
  refine ⟨fun he => ?_, fun _ => ?_, fun he => ?_⟩
  · simp [show endpoint = .connect from he, Endpoint.movesSession] at hm
  · obtain ⟨k, hk, hc⟩ := exists_connect_ensureOpen (t := t) h
    refine ⟨k, hk, hc, ?_⟩
    have hcred := (h.ensureOpen (t := t)).credentials
    rwa [Journal.credentials, hk, Option.bind_some] at hcred
  · simp [show endpoint = .disconnect from he, Endpoint.movesSession] at hm

theorem inSession_disconnect (h : c.Remembers) (hc : c.client.isOpen = true) :
    InSession .close c.journal (c.exchange t .disconnect c.client.credentials) := by
  have ho := h.isOpen_eq.symm.trans hc
  obtain ⟨k, hk, hs⟩ := Journal.exists_opensSession ho
  have hcred := h.credentials
  rw [Journal.credentials, hk, Option.bind_some] at hcred
  refine ⟨fun h => ?_, fun _ => ⟨k, hk, Exchange.connect_of_opensSession hs, hcred⟩, fun _ => ho⟩
  have he : Endpoint.disconnect = .connect := h
  cases he

theorem inSession_step (h : c.Remembers) (op : Operation) :
    Following (InSession op) c.journal (c.step t op).exchanges := by
  apply following_step
  · exact inSession_connect op _ rfl
  · exact fun endpoint ho => inSession_closing h ho
  · rintro rfl hc
    exact inSession_disconnect h hc

end DocumentRest.Conversation
