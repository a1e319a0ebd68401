import DocumentRest.Console
import DocumentRest.Proofs.Anonymity
import Mathlib.Data.List.Forall2

namespace DocumentRest

def Command.anonymous : Command → Command
  | connect _ => connect none
  | other => other

namespace Console

variable {t : Transport} (c : Console)

def anonymous : Console := { c with conversation := c.conversation.anonymous }

theorem operation?_anonymous (command : Command) :
    c.anonymous.operation? command.anonymous = (c.operation? command).map Operation.anonymous := by
  cases command <;> rfl

theorem adjust_anonymous (command : Command) :
    c.anonymous.adjust command.anonymous = (c.adjust command).map anonymous id := by
  cases command <;> rfl

theorem execute_anonymous (ht : t.IgnoresCredentials) (command : Command) :
    c.anonymous.execute t command.anonymous = (c.execute t command).map anonymous id := by
  have hop := c.operation?_anonymous command
  cases h : c.operation? command with
  | none =>
    rw [h, Option.map_none] at hop
    simp only [execute, h, hop]
    exact c.adjust_anonymous command
  | some op =>
    rw [h, Option.map_some] at hop
    have hperform : c.anonymous.conversation.perform t op.anonymous =
        (c.conversation.perform t op).map Conversation.anonymous id :=
      c.conversation.perform_anonymous ht op
    simp only [execute, h, hop, hperform]
    rfl

structure Execution where
  text : String
  exchanges : List Exchange
  console : Console

def execution (t : Transport) (command : Command) : Execution :=
  ⟨(c.execute t command).2,
    (c.execute t command).1.conversation.journal.drop c.conversation.journal.length,
    (c.execute t command).1⟩

def executions (t : Transport) (c : Console) : List Command → List Execution
  | [] => []
  | command :: commands =>
    c.execution t command :: (c.execute t command).1.executions t commands

namespace Execution

def anonymous (x : Execution) : Execution :=
  ⟨x.text, x.exchanges.map Exchange.anonymous, x.console.anonymous⟩

/-- Executions that can be told apart by nothing but the credentials of their requests. -/
structure SameButCredentials (x y : Execution) : Prop where
  text : x.text = y.text
  status : x.console.status = y.console.status
  path : x.console.client.path = y.console.client.path
  isOpen : x.console.client.isOpen = y.console.client.isOpen
  session : x.console.client.session = y.console.client.session
  lastQuery : x.console.client.lastQuery = y.console.client.lastQuery
  lastCommand : x.console.client.lastCommand = y.console.client.lastCommand
  lastError : x.console.client.lastError = y.console.client.lastError
  structured : x.console.client.structured = y.console.client.structured
  limit : x.console.limit = y.console.limit
  fetchPlan : x.console.fetchPlan = y.console.fetchPlan
  requests : x.exchanges.map (fun e => (e.request.method, e.request.url)) =
    y.exchanges.map fun e => (e.request.method, e.request.url)
  exchanges : x.exchanges.map Exchange.anonymous = y.exchanges.map Exchange.anonymous

theorem requests_anonymous (x : Execution) :
    x.anonymous.exchanges.map (fun e => (e.request.method, e.request.url)) =
      x.exchanges.map fun e => (e.request.method, e.request.url) := List.map_map

theorem sameButCredentials_of_anonymous_eq {x y : Execution} (h : x.anonymous = y.anonymous) :
    x.SameButCredentials y := by
  have hconsole : x.console.anonymous = y.console.anonymous := congrArg Execution.console h
  have hclient : x.console.client.anonymous = y.console.client.anonymous :=
    congrArg Console.client hconsole
  have hsession : x.console.client.session = y.console.client.session :=
    (congrArg Client.session hclient :)
  exact {
    text := (congrArg Execution.text h :)
    status := (congrArg Console.status hconsole :)
    path := (congrArg Client.path hclient :)
    isOpen := (congrArg Option.isSome hsession :)
    session := hsession
    lastQuery := (congrArg Client.lastQuery hclient :)
    lastCommand := (congrArg Client.lastCommand hclient :)
    lastError := (congrArg Client.lastError hclient :)
    structured := (congrArg Client.structured hclient :)
    limit := (congrArg Console.limit hconsole :)
    fetchPlan := (congrArg Console.fetchPlan hconsole :)
    requests := by rw [← requests_anonymous, h, requests_anonymous]
    exchanges := (congrArg Execution.exchanges h :) }

end Execution

theorem execution_anonymous (ht : t.IgnoresCredentials) (command : Command) :
    c.anonymous.execution t command.anonymous = (c.execution t command).anonymous := by
  have hdrop : (c.execute t command).1.anonymous.conversation.journal.drop
        c.anonymous.conversation.journal.length =
      ((c.execute t command).1.conversation.journal.drop
        c.conversation.journal.length).map Exchange.anonymous := by
    have hlength : c.anonymous.conversation.journal.length = c.conversation.journal.length :=
      List.length_map _
    rw [hlength]
    exact List.map_drop.symm
  simp only [execution, c.execute_anonymous ht, Prod.map, id, hdrop]
  rfl

/-- Step by step, a console without credentials does what it does with them. -/
theorem executions_anonymous (ht : t.IgnoresCredentials) (commands : List Command) :
    c.anonymous.executions t (commands.map Command.anonymous) =
      (c.executions t commands).map Execution.anonymous := by
  induction commands generalizing c with
  | nil => rfl
  | cons command commands ih =>
    have hnext : (c.anonymous.execute t command.anonymous).1 = (c.execute t command).1.anonymous :=
      congrArg Prod.fst (c.execute_anonymous ht command)
    rw [List.map_cons, executions, executions, List.map_cons, c.execution_anonymous ht command,
      hnext, ih]

/-- If answers depend on nobody's credentials, two runs of a console with the same commands, but for
the credentials of connect commands and whether there are any, agree command by command in all but
the credentials of the requests. -/
theorem credentials_stay_in_requests (ht : t.IgnoresCredentials) {commands commands' : List Command}
    (h : commands.map Command.anonymous = commands'.map Command.anonymous) :
    List.Forall₂ Execution.SameButCredentials (c.executions t commands)
      (c.executions t commands') := by
  have heq : (c.executions t commands).map Execution.anonymous =
      (c.executions t commands').map Execution.anonymous := by
    rw [← c.executions_anonymous ht, h, c.executions_anonymous ht]
  have hall : List.Forall₂ (· = ·) ((c.executions t commands).map Execution.anonymous)
      ((c.executions t commands').map Execution.anonymous) := by rw [List.forall₂_eq_eq_eq, heq]
  rw [List.forall₂_map_left_iff, List.forall₂_map_right_iff] at hall
  exact hall.imp fun x y => Execution.sameButCredentials_of_anonymous_eq

/-- A session with credentials and one without. The requests differ in them, and nothing else does.
-/
theorem credentials_stay_in_requests_session :
    let t := Transport.scripted [.ok "\x7b\x7d", .error ⟨some 401, "who is root?"⟩, .ok "42"]
    let c := Console.new (.ofPath "http://localhost:2480/demo") {}
    let root : Credentials := ⟨"root", "hunter2"⟩
    let commands := [.connect (some root), .query "select from V", .status, .raw true, .disconnect]
    let commands' := [.connect none, .query "select from V", .status, .raw true, .disconnect]
    t.IgnoresCredentials ∧
      commands.map Command.anonymous = commands'.map Command.anonymous ∧
      List.Forall₂ Execution.SameButCredentials (c.executions t commands)
        (c.executions t commands') ∧
      (c.executions t commands).flatMap (·.exchanges.map (·.request.credentials)) =
        [some root, some root, some root] ∧
      (c.executions t commands').flatMap (·.exchanges.map (·.request.credentials)) =
        [none, none, none] := by
  intro t c root commands commands'
  have ht : t.IgnoresCredentials := Transport.ignoresCredentials_scripted _
  have h : commands.map Command.anonymous = commands'.map Command.anonymous := rfl
  exact ⟨ht, h, c.credentials_stay_in_requests ht h, by decide +kernel, by decide +kernel⟩

end Console

end DocumentRest
