import DocumentRest.Proofs.SettingsInForce

namespace DocumentRest

def Operation.slot? : Operation → Option Family
  | connect _ => some .connect
  | query .. | load .. => some .query
  | classInfo _ | createClass _ | browseCluster _ | executeCommand _ | serverInfo => some .command
  | close | field _ | setStructured _ => none

def Reply.body? : Reply → Option Body
  | opened b | body b => some b
  | closed last => last
  | field _ | structured _ => none

namespace Client

/-- The client remembers the outcome of a request: a body that was returned is kept, and there is no
last error; of a failure no body is kept, and it is the last error. -/
inductive Reports (c : Client) (slot : Family) : Except ClientError Reply → Prop
  | granted {reply : Reply} {b : Body} (returned : reply.body? = some b)
      (kept : c.kept slot = some b) (noError : c.lastError = none) : Reports c slot (.ok reply)
  | failed {e : ClientError} (kept : c.kept slot = none) (error : c.lastError = some e) :
      Reports c slot (.error e)

theorem reports_record (c : Client) (slot : Family) (r : Except ClientError Body)
    (reply : Body → Reply) (hreply : ∀ b, (reply b).body? = some b) :
    (c.record slot r).Reports slot (r.map reply) := by
  have hkept := c.kept_record slot r
  cases r with
  | ok b => exact .granted (hreply b) hkept rfl
  | error e => exact .failed hkept rfl

theorem Reports.congr {c d : Client} {slot : Family} {r : Except ClientError Reply}
    (h : c.Reports slot r) (hkept : d.kept slot = c.kept slot)
    (herror : d.lastError = c.lastError) : d.Reports slot r := by
  cases h with
  | granted returned kept noError => exact .granted returned (hkept.trans kept) (herror.trans noError)
  | failed kept error => exact .failed (hkept.trans kept) (herror.trans error)

end Client

namespace Conversation

variable (t : Transport) (c : Conversation)

theorem slot?_of_endpoint? {op : Operation} {endpoint : Endpoint}
    (h : op.endpoint? = some endpoint) : op.slot? = some endpoint.family := by
  cases op <;> cases h <;> rfl

theorem reports_perform {op : Operation} {slot : Family} (h : op.slot? = some slot) :
    (c.perform t op).1.client.Reports slot (c.perform t op).2 := by
  induction op using Operation.exhaust with
  | connect k =>
    cases h
    have hr := c.client.reports_record .connect (c.exchange t .connect k).outcome
      .opened fun _ => rfl
    simp only [perform, connect_eq]
    exact hr.congr rfl rfl
  | request op endpoint ho =>
    rw [slot?_of_endpoint? ho] at h
    cases h
    rw [perform_eq_request t c ho, request_eq]
    exact Client.reports_record _ _ _ _ fun _ => rfl
  | close => cases h
  | field f => cases h
  | setStructured on => cases h

/-- Closing an open client reports under the family of commands, and ends the session whatever the
outcome. -/
theorem reports_close (h : c.client.isOpen = true) :
    (c.perform t .close).1.client.Reports .command (c.perform t .close).2 ∧
      (c.perform t .close).1.client.session = none ∧
      (c.perform t .close).1.client.credentials = none := by
  have hr := c.client.reports_record .command
    (c.exchange t .disconnect c.client.credentials).outcome
    (fun b => .closed (some b)) fun _ => rfl
  rw [perform, close_of_open t c h]
  exact ⟨hr.congr rfl rfl, rfl, rfl⟩

theorem perform_field (f : SessionField) :
    (∀ reply, (c.perform t (.field f)).2 = .ok reply → (c.perform t (.field f)).1 = c) ∧
      ∀ e, (c.perform t (.field f)).2 = .error e →
        (c.perform t (.field f)).1 = { c with client := { c.client with lastError := some e } } := by
  simp only [perform, field]
  cases c.client.sessionField f with
  | ok v => exact ⟨fun _ _ => rfl, fun e h => by cases h⟩
  | error error =>
    refine ⟨fun reply h => (by cases h), fun e h => ?_⟩
    cases h
    rfl

theorem perform_field_unreadable {text : String} {error : Json.Error}
    (h : c.client.session = some (.raw text)) (hj : Json.Value.parse text = .error error)
    (f : SessionField) :
    (c.perform t (.field f)).2 = .error (.requestFailed .connect text) := by
  have hf : (Body.raw text).field f.key = .error error := by
    simp [Body.field, Body.value, hj, Except.map]
  have hs : c.client.sessionField f = .error (.requestFailed .connect text) := by
    simp only [Client.sessionField, h, hf]
  simp only [perform, field, hs]

end Conversation

namespace Command

def isLocal : Command → Bool
  | limit _ | fetchPlan _ | status | help | quit => true
  | _ => false

end Command

namespace Console

variable (t : Transport) (c : Console)

theorem operation?_eq_none_iff (command : Command) :
    c.operation? command = none ↔ command.isLocal = true := by
  cases command <;> simp [operation?, Command.isLocal]

theorem conversation_execute_local {command : Command} (h : command.isLocal = true) :
    (c.execute t command).1.conversation = c.conversation := by
  rw [conversation_execute, (c.operation?_eq_none_iff command).mpr h]
  rfl

theorem conversation_after_local {commands : List Command} (h : ∀ k ∈ commands, k.isLocal = true) :
    (c.after t commands).conversation = c.conversation := by
  induction commands generalizing c with
  | nil => rfl
  | cons command commands ih =>
    obtain ⟨hcommand, hcommands⟩ := List.forall_mem_cons.mp h
    rw [← c.conversation_execute_local t hcommand]
    exact ih _ hcommands

theorem text_execute {command : Command} {op : Operation} (h : c.operation? command = some op) :
    (c.execute t command).2 =
      match (c.conversation.perform t op).2 with
      | .ok reply => reply.text c.client.path.database
      | .error e => errorText e.message := by
  cases hanswer : (c.conversation.perform t op).2 with
  | ok reply => simp only [execute, h, hanswer]
  | error e => simp only [execute, h, hanswer]

theorem client_execute {command : Command} {op : Operation} (h : c.operation? command = some op) :
    (c.execute t command).1.client = (c.conversation.perform t op).1.client := by
  rw [client, conversation_execute, h]
  rfl

theorem exists_status : ∃ shown, (c.execute t .status).2 =
    shown ++ "\nlast error: " ++ settingText (c.client.lastError.map (·.message)) :=
  ⟨_, rfl⟩

/-- What is shown for a command agrees with what its client remembers then. A failure is shown as the
last error, and so does a status show it for as long as only commands follow that take no client. -/
structure Tells (command : Command) : Prop where
  failure : ∀ op e, c.operation? command = some op → (c.conversation.perform t op).2 = .error e →
    (c.execute t command).2 = "!! " ++ e.message ∧
    (c.execute t command).1.client.lastError = some e ∧
    ∀ commands : List Command, (∀ k ∈ commands, k.isLocal = true) →
      ∃ shown, (((c.execute t command).1.after t commands).execute t .status).2 =
        shown ++ "\nlast error: " ++ e.message
  success : ∀ op reply, c.operation? command = some op →
    (c.conversation.perform t op).2 = .ok reply →
    (c.execute t command).2 = reply.text c.client.path.database ∧
    (op.slot?.isSome = true → (c.execute t command).1.client.lastError = none)
  withoutClient : command.isLocal = true → (c.execute t command).1.conversation = c.conversation

theorem lastError_of_failure {op : Operation} {e : ClientError}
    (h : (c.conversation.perform t op).2 = .error e) :
    (c.conversation.perform t op).1.client.lastError = some e := by
  have herror {d : Client} {slot : Family} (hd : d.Reports slot (.error e)) :
      d.lastError = some e := by
    cases hd with
    | failed _ error => exact error
  cases hs : op.slot? with
  | some slot => exact herror (h ▸ c.conversation.reports_perform t hs)
  | none =>
    cases op with
    | close =>
      cases hc : c.conversation.client.isOpen with
      | true => exact herror (h ▸ (c.conversation.reports_close t hc).1)
      | false =>
        rw [Conversation.perform, Conversation.close_of_closed _ _ hc] at h
        cases h
    | field f => rw [(c.conversation.perform_field t f).2 e h]
    | setStructured on => cases h
    | _ => cases hs

theorem tells_execute (command : Command) : c.Tells t command where
  failure op e hop he := by
    have hlast : (c.execute t command).1.client.lastError = some e := by
      rw [c.client_execute t hop]
      exact c.lastError_of_failure t he
    have htext := c.text_execute t hop
    rw [he] at htext
    refine ⟨htext, hlast, fun commands hlocal => ?_⟩
    let d := (c.execute t command).1
    have hclient : (d.after t commands).client.lastError = some e := by
      rw [client, d.conversation_after_local t hlocal]
      exact hlast
    obtain ⟨shown, hshown⟩ := (d.after t commands).exists_status t
    rw [hclient] at hshown
    exact ⟨shown, hshown⟩
  success op reply hop hreply := by
    have htext := c.text_execute t hop
    rw [hreply] at htext
    refine ⟨htext, fun hs => ?_⟩
    obtain ⟨slot, hs⟩ := Option.isSome_iff_exists.mp hs
    have hr := c.conversation.reports_perform t hs
    rw [hreply] at hr
    rw [c.client_execute t hop]
    cases hr with
    | granted _ _ noError => exact noError
  withoutClient h := c.conversation_execute_local t h

end Console

/-- Whatever the state of a client and of a console: a request returns what is kept of it, or the last
error, with which nothing is kept; so does closing an open client, and the session ends in either case;
closing a closed client and a look-up that succeeds change nothing, and a look-up that fails only the
last error; and what a console shows agrees with all that. -/
theorem returned_as_remembered (t : Transport) :
    (∀ (c : Conversation) (op : Operation) (slot : Family), op.slot? = some slot →
      (c.perform t op).1.client.Reports slot (c.perform t op).2) ∧
    (∀ c : Conversation, c.client.isOpen = true →
      (c.perform t .close).1.client.Reports .command (c.perform t .close).2 ∧
      (c.perform t .close).1.client.session = none ∧
      (c.perform t .close).1.client.credentials = none) ∧
    (∀ c : Conversation, c.client.isOpen = false →
      c.perform t .close = (c, .ok (.closed c.client.lastCommand))) ∧
    (∀ (c : Conversation) (f : SessionField),
      (∀ reply, (c.perform t (.field f)).2 = .ok reply → (c.perform t (.field f)).1 = c) ∧
      (∀ e, (c.perform t (.field f)).2 = .error e →
        (c.perform t (.field f)).1 = { c with client := { c.client with lastError := some e } }) ∧
      (∀ text error, c.client.session = some (.raw text) → Json.Value.parse text = .error error →
        (c.perform t (.field f)).2 = .error (.requestFailed .connect text))) ∧
    ∀ (c : Console) (command : Command), c.Tells t command := by
  refine ⟨?_, ?_, ?_, ?_, ?_⟩
  · exact fun c op slot => c.reports_perform t
  · exact fun c => c.reports_close t
  · exact fun c => c.close_of_closed t
  · intro c f
    obtain ⟨hok, herror⟩ := c.perform_field t f
    exact ⟨hok, herror, fun text error hs hj => c.perform_field_unreadable t hs hj f⟩
  · exact fun c => c.tells_execute t

/-- A session whose description is no JSON outlives a look-up in it, and ends although the server
refuses to. -/
theorem returned_as_remembered_html :
    let t := Transport.scripted [.ok "<html>", .error ⟨some 500, "down"⟩]
    let c := (Console.new (.ofPath "http://localhost:2480/demo") {}).after t
      [.raw true, .connect none]
    let schema := c.execute t .schema
    let disconnect := c.execute t .disconnect
    c.client.session = some (.raw "<html>") ∧ (∃ error, Json.Value.parse "<html>" = .error error) ∧
      schema.2 = "!! Connect error: <html>" ∧
      schema.1.conversation = { c.conversation with
        client := { c.client with lastError := some (.requestFailed .connect "<html>") } } ∧
      (∃ shown, ((schema.1.after t [.limit none, .help]).execute t .status).2 =
        shown ++ "\nlast error: " ++ "Connect error: <html>") ∧
      disconnect.2 = "!! Command error: down" ∧ disconnect.1.client.session = none ∧
      disconnect.1.client.lastCommand = none := by
  intro t c schema disconnect
  obtain ⟨_, hclose, _, hfield, htells⟩ := returned_as_remembered t
  have hs : c.client.session = some (.raw "<html>") := rfl
  obtain ⟨error, hj⟩ : ∃ error, Json.Value.parse "<html>" = .error error := ⟨_, rfl⟩
  have hlookup := (hfield c.conversation .classes).2.2 "<html>" error hs hj
  obtain ⟨htext, _, hstatus⟩ := (htells c .schema).failure (.field .classes) _ rfl hlookup
  have hdown : (c.conversation.perform t .close).2 = .error (.requestFailed .command "down") := rfl
  obtain ⟨hclosed, -, -⟩ := (htells c .disconnect).failure .close _ rfl hdown
  obtain ⟨hreports, hsession, _⟩ := hclose c.conversation rfl
  rw [hdown] at hreports
  refine ⟨hs, ⟨error, hj⟩, htext, (hfield c.conversation .classes).2.1 _ hlookup,
    hstatus [.limit none, .help] (by decide), hclosed, hsession, ?_⟩
  cases hreports with
  | failed kept _ => exact kept

end DocumentRest
