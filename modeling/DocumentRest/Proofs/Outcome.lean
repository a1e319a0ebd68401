import DocumentRest.Exchange

namespace DocumentRest

namespace Endpoint

def KeepsText (e : Endpoint) : Prop := (∃ name, e = .createClass name) ∨ ∃ sql, e = .command sql

def looksUp : Endpoint → Bool
  | query .. | document .. => true
  | _ => false

def commands : Endpoint → Bool
  | classInfo _ | createClass _ | cluster _ | command _ | server | disconnect => true
  | _ => false

def movesSession : Endpoint → Bool
  | connect | disconnect => true
  | _ => false

theorem parsesAnswer_eq_false_iff (e : Endpoint) : e.parsesAnswer = false ↔ e.KeepsText := by
  cases e <;> simp [parsesAnswer, KeepsText]

theorem parsesAnswer_eq_true_iff (e : Endpoint) : e.parsesAnswer = true ↔ ¬ e.KeepsText := by
  rw [← parsesAnswer_eq_false_iff, Bool.not_eq_false]

theorem movesSession_iff (e : Endpoint) :
    e.movesSession = true ↔ e = .connect ∨ e = .disconnect := by
  cases e <;> simp [movesSession]

end Endpoint

namespace Exchange

inductive Yields (e : Exchange) : Except ClientError Body → Prop
  | kept {text : String} (granted : e.answer = .ok text)
      (plain : e.structured = false ∨ e.endpoint.KeepsText) : Yields e (.ok (.raw text))
  | read {text : String} {v : Json.Value} (granted : e.answer = .ok text)
      (parsed : e.structured = true) (free : ¬ e.endpoint.KeepsText)
      (json : Json.Value.parse text = .ok v) : Yields e (.ok (.structured v))
  | unreadable {text : String} {error : Json.Error} (granted : e.answer = .ok text)
      (parsed : e.structured = true) (free : ¬ e.endpoint.KeepsText)
      (json : Json.Value.parse text = .error error) :
      Yields e (.error (.requestFailed e.endpoint.family text))
  | refused {failure : TransportFailure} (refused : e.answer = .error failure) :
      Yields e (.error (.requestFailed e.endpoint.family failure.body))

theorem yields_outcome (e : Exchange) : e.Yields e.outcome := by
  unfold outcome
  cases ha : e.answer with
  | error failure => exact .refused ha
  | ok text =>
    cases hs : e.structured with
    | false => exact .kept ha (.inl hs)
    | true =>
      cases hp : e.endpoint.parsesAnswer with
      | false => exact .kept ha (.inr (e.endpoint.parsesAnswer_eq_false_iff.mp hp))
      | true =>
        have hk := e.endpoint.parsesAnswer_eq_true_iff.mp hp
        cases hj : Json.Value.parse text with
        | ok v => simpa [Body.ofText, hj, Except.map] using Yields.read ha hs hk hj
        | error error => simpa [Body.ofText, hj, Except.map] using Yields.unreadable ha hs hk hj

theorem Yields.unique {e : Exchange} {r r' : Except ClientError Body} (h : e.Yields r)
    (h' : e.Yields r') : r = r' := by
  cases h <;> cases h' <;> simp_all

theorem yields_iff (e : Exchange) (r : Except ClientError Body) : e.Yields r ↔ e.outcome = r :=
  ⟨fun h => e.yields_outcome.unique h, fun h => h ▸ e.yields_outcome⟩

theorem exists_raw_of_outcome {e : Exchange} {b : Body} (hk : e.endpoint.KeepsText)
    (h : e.outcome = .ok b) : ∃ text, b = .raw text := by
  cases (e.yields_iff (.ok b)).mpr h with
  | kept => exact ⟨_, rfl⟩
  | read _ _ free _ => exact absurd hk free

def body? (e : Exchange) : Option Body := e.outcome.toOption

def error? (e : Exchange) : Option ClientError :=
  match e.outcome with
  | .ok _ => none
  | .error error => some error

/-- Whether an exchange opened a session: a connect request that was granted, by a JSON text if
answers were to be parsed. -/
def opensSession (e : Exchange) : Bool :=
  decide (e.endpoint = .connect) && match e.answer with
    | .ok text => !e.structured || (Json.Value.parse text).isOk
    | .error _ => false

def sessionCredentials (e : Exchange) : Option Credentials :=
  if e.opensSession then e.request.credentials else none

theorem connect_of_opensSession {e : Exchange} (h : e.opensSession = true) :
    e.endpoint = .connect := by
  simp only [opensSession, Bool.and_eq_true, decide_eq_true_eq] at h
  exact h.1

theorem opensSession_eq_isOk {e : Exchange} (h : e.endpoint = .connect) :
    e.opensSession = e.outcome.isOk := by
  unfold opensSession outcome
  cases ha : e.answer with
  | error failure => simp [Except.isOk, Except.toBool]
  | ok text =>
    cases hs : e.structured with
    | false => simp [h, Endpoint.parsesAnswer, Body.ofText, Except.isOk, Except.toBool]
    | true =>
      cases hj : Json.Value.parse text <;>
        simp [h, hj, Endpoint.parsesAnswer, Body.ofText, Except.map, Except.isOk, Except.toBool]

theorem isSome_body? {e : Exchange} (h : e.endpoint = .connect) :
    e.body?.isSome = e.opensSession := by
  rw [opensSession_eq_isOk h, body?]
  cases e.outcome <;> rfl

end Exchange

end DocumentRest
