import DocumentRest.Proofs.Reach

namespace DocumentRest.Conversation

def lastConnect? (past : List Exchange) : Option Exchange :=
  past.findRev? fun e => e.endpoint = .connect

/-- The credentials of a request: those that its operation was given if it is a connect request. Any
other has a connect request before it, and the credentials of the last one if that succeeded. -/
structure CarriesCredentials (past : List Exchange) (r : Sent) : Prop where
  connect : r.exchange.endpoint = .connect →
    r.exchange.request.credentials = r.operation.credentials
  other : r.exchange.endpoint ≠ .connect → ∃ k, lastConnect? past = some k ∧
    r.exchange.request.credentials = if k.opensSession then k.request.credentials else none

/-- Whether a request leaves no session behind: a disconnect request, however it was answered, or a
connect request that failed. -/
def endsSession (e : Exchange) : Bool := e.endpoint.movesSession && !e.opensSession

theorem lastConnect?_of_lastMove? {past : List Exchange} {k : Exchange}
    (h : Journal.lastMove? past = some k) (hk : k.endpoint = .connect) :
    lastConnect? past = some k := by
  refine findRev?_of_imp h (fun e he => ?_) (by simpa using hk)
  rw [Endpoint.movesSession_iff]
  exact .inl (by simpa using he)

theorem InSession.carriesCredentials {past : List Exchange} {r : Sent}
    (h : InSession r.operation past r.exchange) : CarriesCredentials past r := by
  refine ⟨h.connect, fun he => ?_⟩
  obtain ⟨k, hk, hc, hcred⟩ := h.session he
  exact ⟨k, lastConnect?_of_lastMove? hk hc, hcred⟩

/-- A request has no credentials if the last session ended before it and none was asked for with
credentials since. -/
theorem credentials_eq_none_of_ended {past between : List Sent} {q r : Sent}
    (hbetween : ∀ x ∈ between, x.exchange.endpoint = .connect →
      x.exchange.request.credentials = none)
    (hq : endsSession q.exchange = true) (hr : r.operation.credentials = none)
    (h : InSession r.operation ((past ++ q :: between).map (·.exchange)) r.exchange) :
    r.exchange.request.credentials = none := by
  by_cases hc : r.exchange.endpoint = .connect
  · rw [h.connect hc, hr]
  · obtain ⟨k, hk, hkc, hcred⟩ := h.session hc
    rw [hcred, Exchange.sessionCredentials]
    rw [List.map_append, List.map_cons] at hk
    simp only [endsSession, Bool.and_eq_true, Bool.not_eq_true'] at hq
    -- The connect request whose session `r` belongs to is `q`, which opened none, or behind it.
    rcases Journal.eq_or_mem_of_lastMove? hq.1 hk with rfl | hmem
    · rw [hq.2]
      rfl
    · obtain ⟨x, hx, rfl⟩ := List.mem_map.mp hmem
      rw [hbetween x hx hkc, ite_self]

/-- In every run of a new client the credentials on the wire are those of the sessions. After a
disconnect request or a connect request that failed, no request has any until a session is asked for
with credentials again. -/
theorem credentials_follow_sessions (path : String) (t : Transport) (ops : List Operation) :
    let steps := (fresh path).run t ops
    Genuine t path ops steps ∧
      Following (fun past r => CarriesCredentials (past.map (·.exchange)) r) [] (log steps) ∧
      ∀ past q between r rest, log steps = past ++ q :: (between ++ r :: rest) →
        endsSession q.exchange = true → (∀ x ∈ between ++ [r], x.operation.credentials = none) →
        r.exchange.request.credentials = none := by
  intro steps
  have hlog := inSession_log_run t path ops
  refine ⟨genuine_run t path ops, hlog.imp fun _ _ h => h.carriesCredentials, ?_⟩
  intro past q between r rest hsplit hq hnone
  have hr := hlog.at_split
    (show log steps = (past ++ q :: between) ++ r :: rest by simpa using hsplit)
  refine credentials_eq_none_of_ended (fun x hx hc => ?_) hq (hnone r (by simp)) hr
  obtain ⟨as, bs, rfl⟩ := List.append_of_mem hx
  have hx' := hlog.at_split
    (show log steps = (past ++ q :: as) ++ x :: (bs ++ r :: rest) by simpa using hsplit)
  rw [hx'.connect hc, hnone x (by simp)]

end DocumentRest.Conversation
