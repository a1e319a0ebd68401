import DocumentRest.Proofs.Correspondence

namespace DocumentRest

theorem Body.exists_ofText {text : String} (h : (Json.Value.parse text).isOk = true) :
    ∃ b, Body.ofText true text = .ok b := by
  cases hv : Json.Value.parse text with
  | ok v => exact ⟨.structured v, by simp [ofText, hv, Except.map]⟩
  | error error => simp [hv, Except.isOk, Except.toBool] at h

theorem Transport.answersJson_scripted {answers : List Answer}
    (h : ∀ text, .ok text ∈ answers → (Json.Value.parse text).isOk = true) :
    (Transport.scripted answers).AnswersJson := by
  intro past request text ha
  rw [Transport.scripted, List.getD_eq_getElem?_getD] at ha
  cases hn : answers[past.length]? with
  | some answer =>
    rw [hn, Option.getD_some] at ha
    exact Body.exists_ofText (h text (ha ▸ List.mem_of_getElem? hn))
  | none =>
    rw [hn, Option.getD_none, Except.ok.injEq] at ha
    exact ha ▸ Body.exists_ofText (by decide +kernel)

namespace Operation

def keepsMode (op : Operation) : Bool := op.mode?.isNone

theorem exists_eq_setStructured {op : Operation} (h : op.keepsMode = false) :
    ∃ on, op = .setStructured on := by
  cases op with
  | setStructured on => exact ⟨on, rfl⟩
  | _ => simp [keepsMode, mode?] at h

theorem mode?_eq_none_of_keepsMode {op : Operation} (h : op.keepsMode = true) : op.mode? = none :=
  Option.isNone_iff_eq_none.mp h

/-- The same operations, with changes of the mode anywhere among them. -/
inductive SameButMode : List Operation → List Operation → Prop
  | nil : SameButMode [] []
  | left {ops ops' : List Operation} (on : Bool) (h : SameButMode ops ops') :
      SameButMode (.setStructured on :: ops) ops'
  | right {ops ops' : List Operation} (on : Bool) (h : SameButMode ops ops') :
      SameButMode ops (.setStructured on :: ops')
  | both {op : Operation} {ops ops' : List Operation} (hop : op.keepsMode = true)
      (h : SameButMode ops ops') : SameButMode (op :: ops) (op :: ops')

theorem SameButMode.append_right {ops ops' before : List Operation} (h : SameButMode ops ops')
    (hbefore : ∀ op ∈ before, op.keepsMode = false) : SameButMode ops (before ++ ops') := by
  induction before with
  | nil => exact h
  | cons op before ih =>
    obtain ⟨on, rfl⟩ := exists_eq_setStructured (hbefore op (by simp))
    exact .right on (ih fun op hop => hbefore op (by simp [hop]))

theorem sameButMode_of_filter_eq {ops ops' : List Operation}
    (h : ops.filter keepsMode = ops'.filter keepsMode) : SameButMode ops ops' := by
  induction ops generalizing ops' with
  | nil =>
    rw [List.filter_nil, eq_comm, List.filter_eq_nil_iff] at h
    rw [← List.append_nil ops']
    exact SameButMode.nil.append_right fun op hop => Bool.eq_false_iff.mpr (h op hop)
  | cons op ops ih =>
    cases hop : op.keepsMode with
    | false =>
      obtain ⟨on, rfl⟩ := exists_eq_setStructured hop
      rw [List.filter_cons_of_neg (by simp [hop])] at h
      exact .left on (ih h)
    | true =>
      rw [List.filter_cons_of_pos hop, eq_comm, List.filter_eq_cons_iff] at h
      obtain ⟨before, rest, rfl, hbefore, _, hrest⟩ := h
      exact (SameButMode.both hop (ih hrest.symm)).append_right fun op hm =>
        Bool.eq_false_iff.mpr (hbefore op hm)

end Operation

namespace Conversation

/-- Steps of the same operation that cannot be told apart but by the form of the bodies, and not
even by that where the answer is kept as it came. -/
structure StepsCorrespond (s s' : Step) : Prop where
  operation : s.operation = s'.operation
  exchanges : List.Forall₂ Exchange.Corresponds s.exchanges s'.exchanges
  outcome : SameOutcome Reply.Corresponds s.outcome s'.outcome
  client : s.client.Alike s'.client
  isOpen : s.client.isOpen = s'.client.isOpen
  field : ∀ f, s.operation = .field f → s.outcome = s'.outcome
  text : ∀ endpoint, s.operation.endpoint? = some endpoint → endpoint.KeepsText →
    s.outcome = s'.outcome ∧ ∀ reply, s.outcome = .ok reply → ∃ text, reply = .body (.raw text)

/-- Conversations that correspond as far as they went. The body of the last command is the same
text if its answer was kept as it came. -/
structure EndsCorrespond (c d : Conversation) : Prop where
  alike : c.Alike d
  text : ∀ e, c.journal.findRev? (·.endpoint.commands) = some e → e.endpoint.KeepsText →
    c.client.lastCommand = d.client.lastCommand ∧
      ∀ b, c.client.lastCommand = some b → ∃ text, b = .raw text

section

variable {t : Transport} {c d : Conversation}

theorem outcome_step_request {op : Operation} {endpoint : Endpoint}
    (h : op.endpoint? = some endpoint) :
    (c.step t op).outcome = (c.closing t endpoint).outcome.map .body := by
  simp only [step, perform_eq_request t c h, request_eq]

theorem exists_raw_of_map {e : Exchange} (hk : e.endpoint.KeepsText) {reply : Reply}
    (h : e.outcome.map .body = .ok reply) : ∃ text, reply = .body (.raw text) := by
  cases ho : e.outcome with
  | error error => simp [ho, Except.map] at h
  | ok b =>
    obtain ⟨text, rfl⟩ := Exchange.exists_raw_of_outcome hk ho
    rw [ho, Except.map, Except.ok.injEq] at h
    exact ⟨text, h.symm⟩

theorem Alike.step (ht : t.AnswersJson) (h : c.Alike d) {op : Operation}
    (hop : op.keepsMode = true) : StepsCorrespond (c.step t op) (d.step t op) where
  operation := rfl
  exchanges := h.exchanges_step ht op
  outcome := h.outcome_step ht (Operation.mode?_eq_none_of_keepsMode hop)
  client := h.client_perform ht op
  isOpen := (h.client_perform ht op).isOpen_eq
  field f hf := by
    have hop : op = .field f := hf
    rw [hop, outcome_step_field, outcome_step_field, h.client.sessionField_eq]
  text endpoint ho hk := by
    have hop : op.endpoint? = some endpoint := ho
    rw [outcome_step_request hop, outcome_step_request hop]
    exact ⟨congrArg _ ((h.closing ht endpoint).outcome_eq hk), fun _ => exists_raw_of_map hk⟩

/-- Behind a change of the mode, the steps that count are those of the operations after it. -/
theorem filter_run_setStructured (on : Bool) (ops : List Operation) :
    (c.run t (.setStructured on :: ops)).filter (·.operation.keepsMode) =
      ((c.perform t (.setStructured on)).1.run t ops).filter (·.operation.keepsMode) := by
  rw [run_cons]
  exact List.filter_cons_of_neg (by simp [step, Operation.keepsMode, Operation.mode?])

theorem filter_run_cons {op : Operation} (hop : op.keepsMode = true) (ops : List Operation) :
    (c.run t (op :: ops)).filter (·.operation.keepsMode) =
      c.step t op :: ((c.perform t op).1.run t ops).filter (·.operation.keepsMode) := by
  rw [run_cons]
  exact List.filter_cons_of_pos hop

/-- Changes of the mode leave two conversations alike, and all other operations correspond. -/
theorem Alike.run (ht : t.AnswersJson) (h : c.Alike d) {ops ops' : List Operation}
    (hops : Operation.SameButMode ops ops') :
    List.Forall₂ StepsCorrespond ((c.run t ops).filter (·.operation.keepsMode))
        ((d.run t ops').filter (·.operation.keepsMode)) ∧
      (c.after t ops).Alike (d.after t ops') := by
  induction hops generalizing c d with
  | nil => exact ⟨.nil, h⟩
  -- A change of the mode in one run is matched by no operation of the other.
  | left on _ ih =>
    rw [filter_run_setStructured]
    exact ih (h.setStructured_left on)
  | right on _ ih =>
    rw [filter_run_setStructured]
    exact ih (h.setStructured_right on)
  | @both op _ _ hop _ ih =>
    obtain ⟨hsteps, hend⟩ := ih (h.perform ht op)
    rw [filter_run_cons hop, filter_run_cons hop]
    exact ⟨.cons (h.step ht hop) hsteps, hend⟩

theorem findRev?_corresponds {l l' : List Exchange} (p : Endpoint → Bool)
    (h : List.Forall₂ Exchange.Corresponds l l') :
    Option.Rel Exchange.Corresponds (l.findRev? (p ·.endpoint)) (l'.findRev? (p ·.endpoint)) := by
  induction h with
  | nil => exact .none
  | @cons e e' l l' he _ ih =>
    rw [List.findRev?, List.findRev?, ← he.endpoint]
    generalize l.findRev? _ = r, l'.findRev? _ = r' at ih ⊢
    cases ih with
    | some hr => exact .some hr
    | none =>
      dsimp only
      split
      · exact .some he
      · exact .none

theorem Alike.endsCorrespond (h : c.Alike d) (hc : c.Remembers) (hd : d.Remembers) :
    EndsCorrespond c d := by
  refine ⟨h, fun e he hk => ?_⟩
  have hr := findRev?_corresponds Endpoint.commands h.journal
  rw [hc.lastCommand, hd.lastCommand, Journal.lastBody, Journal.lastBody]
  rw [he] at hr ⊢
  generalize d.journal.findRev? _ = r at hr ⊢
  cases hr with
  | some hee =>
    rw [Option.bind_some, Option.bind_some, Exchange.body?, Exchange.body?, ← hee.outcome_eq hk]
    refine ⟨rfl, fun b hb => ?_⟩
    cases ho : e.outcome with
    | error error => simp [ho, Except.toOption] at hb
    | ok b' =>
      rw [ho, Except.toOption, Option.some.injEq] at hb
      exact Exchange.exists_raw_of_outcome hk (hb ▸ ho)

end

/-- If all answers are JSON, two runs of a new client with the same operations, but for changes of
the mode anywhere among them, correspond operation by operation and at their ends, so between any
two operations too. -/
theorem runs_correspond (path : String) (t : Transport) (ht : t.AnswersJson)
    (ops ops' : List Operation)
    (hops : ops.filter Operation.keepsMode = ops'.filter Operation.keepsMode) :
    let steps := (fresh path).run t ops
    let steps' := (fresh path).run t ops'
    Genuine t path ops steps ∧ Genuine t path ops' steps' ∧
      List.Forall₂ StepsCorrespond (steps.filter (·.operation.keepsMode))
        (steps'.filter (·.operation.keepsMode)) ∧
      EndsCorrespond ((fresh path).after t ops) ((fresh path).after t ops') := by
  have hbut := Operation.sameButMode_of_filter_eq hops
  obtain ⟨hsteps, hend⟩ := (Alike.refl (fresh path)).run ht hbut
  exact ⟨genuine_run t path ops, genuine_run t path ops', hsteps,
    hend.endsCorrespond (reaches_run t path ops).remembers (reaches_run t path ops').remembers⟩

/-- A session with a command, where the mode is changed in one run before it and in the other within
it, and the disconnect request finds no server. -/
theorem runs_correspond_session :
    let t := Transport.scripted [.ok "\x7b\"classes\":[]\x7d", .ok "42", .error ⟨none, "refused"⟩]
    let ops : List Operation := [.setStructured false, .connect none, .executeCommand "vacuum",
      .field .classes, .close]
    let ops' : List Operation := [.connect none, .executeCommand "vacuum", .setStructured false,
      .field .classes, .setStructured true, .close]
    t.AnswersJson ∧ ops.filter Operation.keepsMode = ops'.filter Operation.keepsMode ∧
      List.Forall₂ StepsCorrespond
        (((fresh "db").run t ops).filter (·.operation.keepsMode))
        (((fresh "db").run t ops').filter (·.operation.keepsMode)) ∧
      EndsCorrespond ((fresh "db").after t ops) ((fresh "db").after t ops') := by
  intro t ops ops'
  have ht : t.AnswersJson := by
    refine Transport.answersJson_scripted fun text hm => ?_
    simp only [List.mem_cons, Except.ok.injEq, reduceCtorEq, List.not_mem_nil, or_false] at hm
    rcases hm with rfl | rfl <;> decide +kernel
  have hops : ops.filter Operation.keepsMode = ops'.filter Operation.keepsMode := rfl
  obtain ⟨_, _, hsteps, hends⟩ := runs_correspond "db" t ht ops ops' hops
  exact ⟨ht, hops, hsteps, hends⟩

end Conversation

end DocumentRest
