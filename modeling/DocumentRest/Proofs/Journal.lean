import DocumentRest.Proofs.Following
import DocumentRest.Proofs.Outcome

namespace DocumentRest.Journal

variable (journal : List Exchange) (e : Exchange)

/-- The last connect or disconnect request. -/
def lastMove? : Option Exchange := journal.findRev? (·.endpoint.movesSession)

def isOpen : Bool := (lastMove? journal).any (·.opensSession)

/-- The server's description of the session, as long as there is one. -/
def session : Option Body :=
  (lastMove? journal).bind fun e => if e.endpoint = .connect then e.body? else none

def credentials : Option Credentials := (lastMove? journal).bind (·.sessionCredentials)

def lastBody (p : Endpoint → Bool) : Option Body :=
  (journal.findRev? (p ·.endpoint)).bind (·.body?)

theorem lastMove?_concat :
    lastMove? (journal ++ [e]) = if e.endpoint.movesSession then some e else lastMove? journal :=
  findRev?_concat ..

theorem lastBody_concat (p : Endpoint → Bool) :
    lastBody (journal ++ [e]) p = if p e.endpoint then e.body? else lastBody journal p := by
  unfold lastBody
  rw [findRev?_concat]
  split <;> rfl

theorem eq_or_mem_of_lastMove? {past between : List Exchange} {q k : Exchange}
    (hq : q.endpoint.movesSession = true) (h : lastMove? (past ++ q :: between) = some k) :
    k = q ∨ k ∈ between := by
  rw [lastMove?, findRev?_append, ← List.singleton_append, findRev?_append] at h
  cases hm : between.findRev? (·.endpoint.movesSession) with
  | some m =>
    rw [hm, Option.some_or, Option.some_or, Option.some.injEq] at h
    rw [List.findRev?_eq_find?_reverse] at hm
    exact .inr (h ▸ List.mem_reverse.mp (List.mem_of_find?_eq_some hm))
  | none =>
    rw [hm] at h
    simp only [List.findRev?, hq, if_true, Option.none_or, Option.some_or, Option.some.injEq] at h
    exact .inl h.symm

theorem isSome_session : (session journal).isSome = isOpen journal := by
  unfold session isOpen
  cases lastMove? journal with
  | none => rfl
  | some k =>
    by_cases hk : k.endpoint = .connect
    · simp [hk, Exchange.isSome_body?]
    · have hc : k.opensSession = false :=
        Bool.eq_false_iff.mpr fun h => hk (Exchange.connect_of_opensSession h)
      simp [hk, hc]

variable {journal} {e}

theorem session_concat_connect (h : e.endpoint = .connect) :
    session (journal ++ [e]) = e.body? := by
  simp [session, lastMove?_concat, h, Endpoint.movesSession]

theorem session_concat_disconnect (h : e.endpoint = .disconnect) :
    session (journal ++ [e]) = none := by
  simp [session, lastMove?_concat, h, Endpoint.movesSession]

theorem session_concat_other (h : e.endpoint.movesSession = false) :
    session (journal ++ [e]) = session journal := by
  simp [session, lastMove?_concat, h]

theorem credentials_concat_connect (h : e.endpoint = .connect) :
    credentials (journal ++ [e]) = e.sessionCredentials := by
  simp [credentials, lastMove?_concat, h, Endpoint.movesSession]

theorem credentials_concat_disconnect (h : e.endpoint = .disconnect) :
    credentials (journal ++ [e]) = none := by
  simp [credentials, lastMove?_concat, h, Endpoint.movesSession, Exchange.sessionCredentials,
    Exchange.opensSession]

theorem credentials_concat_other (h : e.endpoint.movesSession = false) :
    credentials (journal ++ [e]) = credentials journal := by
  simp [credentials, lastMove?_concat, h]

/-- In an open session the last connect or disconnect request is the one that opened it. -/
theorem exists_opensSession (h : isOpen journal = true) :
    ∃ k, lastMove? journal = some k ∧ k.opensSession = true := by
  simpa only [isOpen, Option.any_eq_true] using h

end DocumentRest.Journal
