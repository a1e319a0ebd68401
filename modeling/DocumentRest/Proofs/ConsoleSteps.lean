import DocumentRest.Proofs.ProgramRun
import DocumentRest.Proofs.Reach

namespace DocumentRest

def Command.ofLine? (line : String) : Option Command := (Command.parse line).toOption.join

namespace Console

open Program (commands)

variable (t : Transport) (c : Console)

def operationOn? (line : String) : Option Operation := (Command.ofLine? line).bind c.operation?

def step (line : String) : Step :=
  ⟨(c.react t (Command.parse line)).2,
    (c.react t (Command.parse line)).1.conversation.journal.drop c.conversation.journal.length,
    (c.react t (Command.parse line)).1⟩

theorem run_cons (line : String) (lines : List String) :
    c.run t (line :: lines) = c.step t line :: (c.step t line).console.run t lines := rfl

theorem console_step (line : String) :
    (c.step t line).console = c.after t (commands [line]) :=
  (Program.react_eq t c line).1

theorem commands_singleton (line : String) :
    commands [line] = (Command.ofLine? line).toList := by
  unfold commands Command.ofLine?
  cases h : (Command.parse line).toOption.join <;> simp [h]

theorem getElem?_run (lines : List String) (i : Nat) :
    (c.run t lines)[i]? =
      lines[i]?.map fun line => (c.after t (commands (lines.take i))).step t line := by
  induction lines generalizing c i with
  | nil => rfl
  | cons line lines ih =>
    rw [run_cons]
    cases i with
    | zero => rfl
    | succ i =>
      rw [List.getElem?_cons_succ, List.getElem?_cons_succ, ih, List.take_succ_cons,
        Program.commands_cons, after_append, console_step]

theorem console_getLastD (lines : List String) (i : Nat) (hi : i ≤ lines.length) :
    (((c.run t lines).take i).map (·.console)).getLastD c =
      c.after t (commands (lines.take i)) := by
  induction lines generalizing c i with
  | nil =>
    have h0 : i = 0 := by simpa using hi
    subst h0
    rfl
  | cons line lines ih =>
    cases i with
    | zero => rfl
    | succ i =>
      have hi' : i ≤ lines.length := by simpa using hi
      rw [run_cons, List.take_succ_cons, List.map_cons, List.getLastD_cons, ih _ i hi',
        List.take_succ_cons, Program.commands_cons, after_append, console_step]

theorem conversation_execute (command : Command) :
    (c.execute t command).1.conversation =
      (c.operation? command).elim c.conversation fun op => (c.conversation.perform t op).1 := by
  unfold execute
  cases c.operation? command with
  | some op => rfl
  | none => cases command <;> rfl

theorem conversation_step (line : String) :
    (c.step t line).console.conversation =
      (c.operationOn? line).elim c.conversation fun op => (c.conversation.perform t op).1 := by
  rw [console_step, commands_singleton, operationOn?]
  cases Command.ofLine? line with
  | none => rfl
  | some command => exact c.conversation_execute t command

theorem exchanges_step (line : String) :
    (c.step t line).exchanges =
      (c.operationOn? line).elim [] fun op => (c.conversation.step t op).exchanges := by
  have hd : (c.step t line).exchanges =
      (c.step t line).console.conversation.journal.drop c.conversation.journal.length := rfl
  rw [hd, conversation_step]
  cases c.operationOn? line with
  | none => exact List.drop_length
  | some op => rfl

variable {t} {c}

theorem exists_operation_of_mem {line : String} {e : Exchange}
    (he : e ∈ (c.step t line).exchanges) :
    ∃ op, c.operationOn? line = some op ∧ e ∈ (c.conversation.step t op).exchanges := by
  rw [exchanges_step] at he
  cases ho : c.operationOn? line with
  | none =>
    rw [ho] at he
    cases he
  | some op =>
    rw [ho] at he
    exact ⟨op, rfl, he⟩

theorem happened_of_mem {line : String} {e : Exchange} (he : e ∈ (c.step t line).exchanges) :
    ∃ past, e.Happened t c.client.path c.client.structured past := by
  obtain ⟨op, _, hop⟩ := exists_operation_of_mem he
  exact (Conversation.happened_step t c.conversation op).exists_of_mem hop

end Console

namespace Command

def limit? : Command → Option (Option String)
  | limit value => some value
  | _ => none

def fetchPlan? : Command → Option (Option String)
  | fetchPlan value => some value
  | _ => none

def mode? : Command → Option Bool
  | raw on => some !on
  | _ => none

end Command

namespace Console

variable (t : Transport) (c : Console)

theorem limit_execute (command : Command) :
    (c.execute t command).1.limit = command.limit?.getD c.limit := by
  cases command <;> rfl

theorem fetchPlan_execute (command : Command) :
    (c.execute t command).1.fetchPlan = command.fetchPlan?.getD c.fetchPlan := by
  cases command <;> rfl

theorem mode?_of_operation? {command : Command} {op : Operation}
    (h : c.operation? command = some op) : op.mode? = command.mode? := by
  cases command <;> cases h <;> rfl

theorem mode?_eq_none_of_operation? {command : Command} (h : c.operation? command = none) :
    command.mode? = none := by
  cases command <;> first | rfl | cases h

theorem structured_execute (command : Command) :
    (c.execute t command).1.client.structured = command.mode?.getD c.client.structured := by
  unfold client
  rw [conversation_execute]
  cases h : c.operation? command with
  | none => rw [c.mode?_eq_none_of_operation? h]; rfl
  | some op => rw [← c.mode?_of_operation? h]; exact c.conversation.structured_perform t op

theorem path_execute (command : Command) :
    (c.execute t command).1.client.path = c.client.path := by
  unfold client
  rw [conversation_execute]
  cases c.operation? command with
  | none => rfl
  | some op => exact c.conversation.path_perform t op

/-- A setting that every command leaves alone or sets is, behind some commands, as it was set last.
-/
theorem after_setting {α : Type} (get : Console → α) {set? : Command → Option α}
    (h : ∀ (c : Console) (command : Command),
      get (c.execute t command).1 = (set? command).getD (get c)) (commands : List Command) :
    get (c.after t commands) = (commands.filterMap set?).getLastD (get c) := by
  induction commands generalizing c with
  | nil => rfl
  | cons command commands ih =>
    have hnext : get (c.after t (command :: commands)) =
        (commands.filterMap set?).getLastD (get (c.execute t command).1) := ih _
    rw [hnext, h, List.filterMap_cons]
    cases set? command with
    | none => rfl
    | some a => exact (List.getLastD_cons ..).symm

theorem path_after (commands : List Command) :
    (c.after t commands).client.path = c.client.path := by
  induction commands generalizing c with
  | nil => rfl
  | cons command commands ih => exact (ih _).trans (c.path_execute t command)

end Console

end DocumentRest
