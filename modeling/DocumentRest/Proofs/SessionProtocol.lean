import DocumentRest.Proofs.Reach

namespace DocumentRest

def Operation.endpoints (isOpen : Bool) : Operation → List Endpoint
  | connect _ => [.connect]
  | close => if isOpen then [.disconnect] else []
  | op => match op.endpoint? with
    | some endpoint => if isOpen then [endpoint] else [.connect, endpoint]
    | none => []

theorem Operation.endpoints_of_endpoint? {op : Operation} {endpoint : Endpoint}
    (h : op.endpoint? = some endpoint) (isOpen : Bool) :
    op.endpoints isOpen = if isOpen then [endpoint] else [.connect, endpoint] := by
  cases op <;> simp_all [endpoint?, endpoints]

namespace Conversation

/-- The requests of a step are those that its operation sends behind `past`, connect requests have
the credentials that the operation was given, and the client knows whether a session is open. -/
structure FollowsSession (p : DatabasePath) (past : List Exchange) (s : Step) : Prop where
  endpoints : s.exchanges.map (·.endpoint) = s.operation.endpoints (Journal.isOpen past)
  requests : s.exchanges.map (fun e => (e.request.method, e.request.url)) =
    (s.operation.endpoints (Journal.isOpen past)).map fun endpoint =>
      (endpoint.method, endpoint.url p)
  credentials : ∀ e ∈ s.exchanges, e.endpoint = .connect →
    e.request.credentials = s.operation.credentials
  isOpen : s.client.isOpen = Journal.isOpen (past ++ s.exchanges)

section

variable {t : Transport} {path : String} {steps : List Step} {c : Conversation}

theorem endpoints_step (t : Transport) (c : Conversation) (op : Operation) :
    (c.step t op).exchanges.map (·.endpoint) = op.endpoints c.client.isOpen := by
  induction op using Operation.exhaust with
  | connect k =>
    rw [exchanges_step_connect]
    rfl
  | request op endpoint h =>
    rw [exchanges_step_request t c h, Operation.endpoints_of_endpoint? h, opening]
    split <;> rfl
  | close =>
    rw [exchanges_step_close, Operation.endpoints]
    split <;> rfl
  | field f =>
    rw [exchanges_step_field]
    rfl
  | setStructured on =>
    rw [exchanges_step_setStructured]
    rfl

theorem Reaches.followsSession (h : Reaches t path steps c) (op : Operation) :
    FollowsSession (.parse path) (exchanges steps) (c.step t op) := by
  have he : (c.step t op).exchanges.map (·.endpoint) =
      (c.step t op).operation.endpoints (Journal.isOpen (exchanges steps)) := by
    rw [← h.journal_eq, ← h.remembers.isOpen_eq]
    exact endpoints_step t c op
  refine ⟨he, ?_, fun e hm hc => ?_, ?_⟩
  · rw [← he, List.map_map]
    refine List.map_congr_left fun e hm => ?_
    obtain ⟨past, hp⟩ := (happened_step t c op).exists_of_mem hm
    rw [hp.method, hp.url, h.path_eq]
    rfl
  · obtain ⟨past, hp⟩ := (inSession_step h.remembers op).exists_of_mem hm
    exact hp.connect hc
  · rw [← h.journal_eq, ← journal_perform]
    exact (h.remembers.perform op).isOpen_eq

/-- Between two disconnect requests there is a connect request that succeeded. -/
theorem exists_opensSession_between {past between : List Sent} {d d' : Sent}
    (hd : d.exchange.endpoint = .disconnect) (hd' : d'.exchange.endpoint = .disconnect)
    (h : InSession d'.operation ((past ++ d :: between).map (·.exchange)) d'.exchange) :
    ∃ k ∈ between, k.exchange.opensSession = true := by
  obtain ⟨k, hk, ho⟩ := Journal.exists_opensSession (h.disconnect hd')
  rw [List.map_append, List.map_cons] at hk
  rcases Journal.eq_or_mem_of_lastMove? (by rw [hd]; rfl) hk with rfl | hmem
  · exact absurd (Exchange.connect_of_opensSession ho) (by simp [hd])
  · obtain ⟨x, hx, rfl⟩ := List.mem_map.mp hmem
    exact ⟨x, hx, ho⟩

end

/-- In every run of a new client the requests follow the sessions: an operation that needs a session
sends its own request, behind a connect request without credentials if no session is open, a session
is ended once, and look-ups and changes of the mode send nothing. -/
theorem requests_follow_sessions (path : String) (t : Transport) (ops : List Operation) :
    let steps := (fresh path).run t ops
    Genuine t path ops steps ∧
      Following (fun before s => FollowsSession (.parse path) (exchanges before) s) [] steps ∧
      ∀ past d between d' rest, log steps = past ++ d :: (between ++ d' :: rest) →
        d.exchange.endpoint = .disconnect → d'.exchange.endpoint = .disconnect →
        ∃ k ∈ between, k.exchange.opensSession = true := by
  refine ⟨genuine_run t path ops, following_run (fun h op => h.followsSession op) ops, ?_⟩
  intro past d between d' rest hsplit hd hd'
  have h := (inSession_log_run t path ops).at_split
    (show log _ = (past ++ d :: between) ++ d' :: rest by simpa using hsplit)
  exact exists_opensSession_between hd hd' h

end Conversation

end DocumentRest
