import DocumentRest.Proofs.ConsoleSteps
import DocumentRest.Proofs.SessionCredentials

namespace DocumentRest

namespace Console

variable {t : Transport} {c : Console}

theorem remembers_execute (h : c.conversation.Remembers) (command : Command) :
    (c.execute t command).1.conversation.Remembers := by
  rw [conversation_execute]
  cases c.operation? command with
  | none => exact h
  | some op => exact h.perform op

theorem remembers_after (h : c.conversation.Remembers) (commands : List Command) :
    (c.after t commands).conversation.Remembers := by
  induction commands generalizing c with
  | nil => exact h
  | cons command commands ih => exact ih (remembers_execute h command)

/-- A disconnect request that is sent behind a console, with the credentials of the connect request
that opened its session. -/
structure EndsSession (t : Transport) (c : Console) (e : Exchange) : Prop where
  endpoint : e.endpoint = .disconnect
  happened : e.Happened t c.client.path c.client.structured c.conversation.journal
  session : ∃ k, Conversation.lastConnect? c.conversation.journal = some k ∧
    k.opensSession = true ∧ e.request.credentials = k.request.credentials

/-- A console whose session is closed, by one disconnect request if it was open behind `c`, and by
none otherwise. -/
structure Closes (t : Transport) (c d : Console) : Prop where
  closed : d.client.isOpen = false
  unsent : c.client.isOpen = false → d.conversation.journal = c.conversation.journal
  sent : c.client.isOpen = true → ∃ e, EndsSession t c e ∧
    d.conversation.journal = c.conversation.journal ++ [e]

theorem closes_self (h : c.client.isOpen = false) : Closes t c c := by
  refine ⟨h, fun _ => rfl, fun hopen => ?_⟩
  rw [h] at hopen
  cases hopen

theorem endsSession_disconnect (h : c.conversation.Remembers) (hopen : c.client.isOpen = true) :
    EndsSession t c (c.conversation.exchange t .disconnect c.client.credentials) := by
  have hjournal : Journal.isOpen c.conversation.journal = true := h.isOpen_eq.symm.trans hopen
  obtain ⟨k, hk, hopens⟩ := Journal.exists_opensSession hjournal
  have hconnect := Exchange.connect_of_opensSession hopens
  have hcred : c.client.credentials = k.request.credentials := by
    have hkept : c.client.credentials = Journal.credentials c.conversation.journal := h.credentials
    rw [hkept, Journal.credentials, hk, Option.bind_some, Exchange.sessionCredentials,
      if_pos hopens]
  exact ⟨rfl, Conversation.happened_exchange t c.conversation .disconnect c.client.credentials,
    k, Conversation.lastConnect?_of_lastMove? hk hconnect, hopens, hcred⟩

theorem closes_disconnect (h : c.conversation.Remembers) (hopen : c.client.isOpen = true) :
    Closes t c (c.execute t .disconnect).1 := by
  have hconversation : (c.execute t .disconnect).1.conversation = (c.conversation.close t).1 :=
    c.conversation_execute t .disconnect
  rw [Conversation.close_of_open t c.conversation hopen] at hconversation
  refine ⟨?_, fun hclosed => ?_, fun _ => ⟨_, endsSession_disconnect h hopen, ?_⟩⟩
  · rw [client, hconversation]
    rfl
  · rw [hopen] at hclosed
    cases hclosed
  · rw [hconversation]
    rfl

end Console

namespace Program

variable (t : Transport)

def stopped (config : Config) (texts : List String) : Console :=
  ((newConsole config).after t (openingCommands config)).after t (commands texts)

theorem remembers_stopped (config : Config) (texts : List String) :
    (stopped t config texts).conversation.Remembers := by
  have hnew : (newConsole config).conversation.Remembers := ⟨rfl, rfl, rfl, rfl⟩
  exact Console.remembers_after (Console.remembers_after hnew _) _

variable {t}

theorem closes_finish {c : Console} (h : c.conversation.Remembers) :
    c.Closes t (finish t c).1 := by
  cases hopen : c.client.isOpen with
  | true =>
    have hfinish : (finish t c).1 = (c.execute t .disconnect).1 := by simp [finish, hopen]
    rw [hfinish]
    exact Console.closes_disconnect h hopen
  | false =>
    have hfinish : (finish t c).1 = c := by simp [finish, hopen]
    rw [hfinish]
    exact Console.closes_self hopen

/-- Only a line that is no text keeps a program from ending its session. -/
theorem console_run {config : Config} {input : List UInt8} {texts : List String} {ending : Ending}
    (h : Reads (inputLines input) texts ending) :
    (run t config input).console =
      if ending = .noText then stopped t config texts
      else (finish t (stopped t config texts)).1 := by
  obtain ⟨hconsole, _, hstop⟩ :=
    converse_of_reads (t := t) (c := (start t config).1) h (map_outcome?_lines input)
  have hstopped : (converse t (start t config).1 (lines input)).console =
      stopped t config texts := by
    rw [hconsole, start_eq]
    rfl
  unfold run
  dsimp only
  cases hs : (converse t (start t config).1 (lines input)).stop with
  | left => rw [if_neg (hstop.mp hs), ← hstopped]
  | unreadable fault =>
    have hending : ending = .noText := by
      by_contra hne
      rw [hstop.mpr hne] at hs
      cases hs
    rw [if_pos hending, ← hstopped]

/-- A program ends its session, by one disconnect request with the credentials of the session, just
if it was told to quit, or its input ended, or there was no session to end. A line that is no text
leaves the console as it was. -/
theorem session_ends_unless_no_text (t : Transport) (config : Config) (input : List UInt8) :
    (∃ texts ending, Reads (inputLines input) texts ending) ∧
      ∀ texts ending, Reads (inputLines input) texts ending →
        let c := stopped t config texts
        let d := (run t config input).console
        (c.Closes t d ↔ ending ≠ .noText ∨ c.client.isOpen = false) ∧
          (ending = .noText → d = c) := by
  refine ⟨exists_reads _, fun texts ending h => ?_⟩
  dsimp only
  rw [console_run h]
  by_cases hending : ending = .noText
  -- Nothing is sent behind a line that is no text, so an open session would have to close by itself.
  · rw [if_pos hending]
    refine ⟨⟨fun hcloses => .inr hcloses.closed, fun hor => ?_⟩, fun _ => rfl⟩
    exact Console.closes_self (hor.resolve_left fun hne => hne hending)
  · rw [if_neg hending]
    refine ⟨⟨fun _ => .inl hending, fun _ => ?_⟩, fun he => absurd he hending⟩
    exact closes_finish (remembers_stopped t config texts)

/-- A session that was opened before the first line and is ended on the last one. The request before
that is refused, which leaves the session open. -/
theorem session_ends_unless_no_text_quit :
    let t := Transport.scripted [.ok "\x7b\x7d", .error ⟨some 500, "no"⟩]
    let config : Config := { username := some "root", password := some "pw" }
    let input := Text.utf8Bytes "server\nquit".toList
    let root : Option Credentials := some ⟨"root", "pw"⟩
    let c := stopped t config ["server"]
    let d := (run t config input).console
    Reads (inputLines input) ["server"] .quit ∧ c.client.isOpen = true ∧ c.Closes t d ∧
      d.conversation.journal.map (fun e => (e.endpoint, e.request.credentials)) =
        [(.connect, root), (.server, root), (.disconnect, root)] := by
  intro t config input root c d
  have hlines : inputLines input =
      ["server", "quit"].map fun text => Text.utf8Bytes text.toList := by decide +kernel
  have hreads : Reads (inputLines input) ["server"] .quit := by
    rw [hlines]
    exact .next (fun h => by cases h) (.quit rfl [])
  obtain ⟨hcloses, _⟩ := (session_ends_unless_no_text t config input).2 _ _ hreads
  exact ⟨hreads, by decide +kernel, hcloses.mpr (.inl (by decide)), by decide +kernel⟩

/-- A session that is left open: it was opened on the first line, and the second one is no text. The
connect request is the only one that is sent. -/
theorem session_left_open :
    let t := Transport.scripted [.ok "\x7b\x7d"]
    let input := Text.utf8Bytes "connect root pw\n".toList ++ [0xFF]
    let c := stopped t {} ["connect root pw"]
    let d := (run t {} input).console
    Reads (inputLines input) ["connect root pw"] .noText ∧
      d.client.isOpen = true ∧ d.conversation.journal.map (·.endpoint) = [.connect] ∧
      ¬ c.Closes t d := by
  intro t input c d
  have hlines : inputLines input = [Text.utf8Bytes "connect root pw".toList, [0xFF]] := by
    decide +kernel
  have hnone (text : String) : Text.utf8Bytes text.toList ≠ [0xFF] := by
    intro h
    rw [← Text.ofUtf8_eq_ok_iff] at h
    cases h
  have hreads : Reads (inputLines input) ["connect root pw"] .noText := by
    rw [hlines]
    exact .next (fun h => by cases h) (.noText hnone [])
  have hopen : d.client.isOpen = true := by decide +kernel
  refine ⟨hreads, hopen, by decide +kernel, fun hcloses => ?_⟩
  have hclosed := hcloses.closed
  rw [hopen] at hclosed
  cases hclosed

end Program

end DocumentRest
