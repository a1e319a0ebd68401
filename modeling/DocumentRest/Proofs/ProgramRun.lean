import DocumentRest.Proofs.InputLines

namespace DocumentRest

def Console.after (t : Transport) (c : Console) (commands : List Command) : Console :=
  commands.foldl (fun c command => (c.execute t command).1) c

theorem Console.after_append (t : Transport) (c : Console) (commands commands' : List Command) :
    c.after t (commands ++ commands') = (c.after t commands).after t commands' :=
  List.foldl_append

namespace Program

inductive Ending
  | endOfInput
  | quit
  | noText
  deriving DecidableEq, Repr

/-- The texts of the lines before the first that is no text or that leaves the program. -/
inductive Reads : List (List UInt8) → List String → Ending → Prop
  | endOfInput : Reads [] [] .endOfInput
  | quit {text : String} (leaves : Command.parse text = .ok (some .quit))
      (lines : List (List UInt8)) : Reads (Text.utf8Bytes text.toList :: lines) [] .quit
  | noText {line : List UInt8} (h : ∀ text : String, Text.utf8Bytes text.toList ≠ line)
      (lines : List (List UInt8)) : Reads (line :: lines) [] .noText
  | next {text : String} (stays : Command.parse text ≠ .ok (some .quit))
      {lines : List (List UInt8)} {texts : List String} {ending : Ending}
      (rest : Reads lines texts ending) :
      Reads (Text.utf8Bytes text.toList :: lines) (text :: texts) ending

def commands (texts : List String) : List Command :=
  texts.filterMap fun text => (Command.parse text).toOption.join

def answer (t : Transport) (c : Console) (text : String) : String :=
  match Command.parse text with
  | .ok none => ""
  | .ok (some command) => (c.execute t command).2 ++ "\n"
  | .error e => "!! " ++ e.message ++ "\n"

/-- What is shown for lines: for each a prompt and what is shown for it, where the commands on the
lines before it have been carried out. -/
def transcript (t : Transport) (c : Console) (texts : List String) : String :=
  String.join (texts.mapIdx fun i text =>
    prompt ++ answer t (c.after t (commands (texts.take i))) text)

def openingCommands (config : Config) : List Command :=
  match config.username, config.password with
  | some username, some password => [.connect (some ⟨username, password⟩)]
  | _, _ => []

def newConsole (config : Config) : Console := .new (.ofConfig config) config.query

def greeting (t : Transport) (config : Config) : String :=
  banner config ++ String.join ((openingCommands config).map fun command =>
    ((newConsole config).execute t command).2 ++ "\n")

def farewell (t : Transport) (c : Console) (ending : Ending) : String :=
  if ending ≠ .noText ∧ c.client.isOpen = true then (c.execute t .disconnect).2 ++ "\n" else ""

/-- The content of a program's configuration file, and what is left of the input for its lines. -/
inductive Supplies (d : Directory) (path : FilePath) (input : List UInt8) :
    Except FileError (List UInt8) → List UInt8 → Prop
  | file {bytes : List UInt8} (h : d.read path = .ok (.content bytes)) :
      Supplies d path input (.ok bytes) input
  | input (h : d.read path = .ok .input) : Supplies d path input (.ok input) []
  | missing {e : FileError} (h : d.read path = .error e) : Supplies d path input (.error e) input

theorem exists_reads (lines : List (List UInt8)) : ∃ texts ending, Reads lines texts ending := by
  induction lines with
  | nil => exact ⟨[], .endOfInput, .endOfInput⟩
  | cons line lines ih =>
    by_cases h : ∃ text : String, Text.utf8Bytes text.toList = line
    · obtain ⟨text, rfl⟩ := h
      by_cases hq : Command.parse text = .ok (some .quit)
      · exact ⟨[], .quit, .quit hq lines⟩
      · obtain ⟨texts, ending, hr⟩ := ih
        exact ⟨text :: texts, ending, .next hq hr⟩
    · exact ⟨[], .noText, .noText (not_exists.mp h) lines⟩

section Transcript

variable (t : Transport) (c : Console)

theorem commands_cons (text : String) (texts : List String) :
    commands (text :: texts) = commands [text] ++ commands texts := by
  rw [← List.singleton_append, commands, commands, commands, List.filterMap_append]

theorem transcript_cons (text : String) (texts : List String) :
    transcript t c (text :: texts) =
      prompt ++ answer t c text ++ transcript t (c.after t (commands [text])) texts := by
  have hafter (i : Nat) : c.after t (commands ((text :: texts).take (i + 1))) =
      (c.after t (commands [text])).after t (commands (texts.take i)) := by
    rw [List.take_succ_cons, commands_cons, Console.after_append]
  rw [transcript, List.mapIdx_cons, String.join_cons]
  simp only [hafter]
  rfl

theorem react_eq (text : String) :
    (c.react t (Command.parse text)).1 = c.after t (commands [text]) ∧
      (c.react t (Command.parse text)).2.shown = answer t c text := by
  unfold answer commands
  simp only [List.filterMap_cons, List.filterMap_nil]
  cases Command.parse text with
  | error e => exact ⟨rfl, rfl⟩
  | ok command =>
    cases command with
    | none => exact ⟨rfl, rfl⟩
    | some command => exact ⟨rfl, rfl⟩

end Transcript

section Converse

variable {t : Transport} {c : Console} {line : List UInt8}

theorem outcome?_unended : outcome? (unended line) = (lineText line).toOption.map Command.parse :=
  rfl

theorem converse_noText (h : outcome? (unended line) = none) (lines : List (List UInt8)) :
    ∃ fault, converse t c (line :: lines) = ⟨c, prompt, .unreadable fault⟩ := by
  rw [outcome?_unended] at h
  cases hr : lineText line with
  | error fault => exact ⟨fault, by rw [converse, hr]⟩
  | ok text =>
    rw [hr] at h
    cases h

theorem exists_text {outcome : Except UsageError (Option Command)}
    (h : outcome? (unended line) = some outcome) :
    ∃ text, lineText line = .ok text ∧ Command.parse text = outcome := by
  rw [outcome?_unended] at h
  cases hr : lineText line with
  | error fault =>
    rw [hr] at h
    cases h
  | ok text =>
    rw [hr] at h
    exact ⟨text, rfl, Option.some.inj h⟩

theorem converse_quit (h : outcome? (unended line) = some (.ok (some .quit)))
    (lines : List (List UInt8)) : converse t c (line :: lines) = ⟨c, prompt, .left⟩ := by
  obtain ⟨text, htext, hparse⟩ := exists_text h
  rw [converse, htext]
  simp only [turn, hparse]

theorem converse_next {outcome : Except UsageError (Option Command)}
    (h : outcome? (unended line) = some outcome) (hq : outcome ≠ .ok (some .quit))
    (lines : List (List UInt8)) :
    converse t c (line :: lines) =
      { converse t (c.react t outcome).1 lines with
        shown := prompt ++ (c.react t outcome).2.shown ++
          (converse t (c.react t outcome).1 lines).shown } := by
  obtain ⟨text, htext, hparse⟩ := exists_text h
  have hturn : turn t c text = .next (c.react t outcome).1 (c.react t outcome).2.shown := by
    unfold turn
    rw [hparse]
    split
    · exact absurd rfl hq
    · rfl
  rw [converse, htext]
  simp only [hturn]

/-- A dialogue shows what the console gives for the commands on the lines, and a last prompt. -/
theorem converse_of_reads {lines' : List (List UInt8)} {texts : List String} {ending : Ending}
    (h : Reads lines' texts ending) {lines : List (List UInt8)}
    (hl : lines.map (fun line => outcome? (unended line)) = lines'.map outcome?) :
    (converse t c lines).console = c.after t (commands texts) ∧
      (converse t c lines).shown = transcript t c texts ++ prompt ∧
      ((converse t c lines).stop = .left ↔ ending ≠ .noText) := by
  induction h generalizing lines c with
  | endOfInput =>
    rw [List.map_nil, List.map_eq_nil_iff] at hl
    rw [hl]
    exact ⟨rfl, rfl, by simp [converse]⟩
  | quit leaves rest =>
    obtain ⟨line, lines, rfl, hline, hl⟩ := List.map_eq_cons_iff.mp hl
    rw [outcome?_of_utf8 rfl, leaves] at hline
    rw [converse_quit hline]
    exact ⟨rfl, rfl, by simp⟩
  | noText hno rest =>
    obtain ⟨line, lines, rfl, hline, hl⟩ := List.map_eq_cons_iff.mp hl
    rw [outcome?_eq_none hno] at hline
    obtain ⟨fault, hfault⟩ := converse_noText (t := t) (c := c) hline lines
    rw [hfault]
    exact ⟨rfl, rfl, by simp⟩
  | @next text stays rest texts ending hr ih =>
    obtain ⟨line, lines, rfl, hline, hl⟩ := List.map_eq_cons_iff.mp hl
    rw [outcome?_of_utf8 rfl] at hline
    obtain ⟨hconsole, hshown⟩ := react_eq t c text
    obtain ⟨ihconsole, ihshown, ihstop⟩ := ih (c := c.after t (commands [text])) hl
    rw [converse_next hline stays, hconsole, hshown]
    refine ⟨?_, ?_, ihstop⟩
    · rw [ihconsole, commands_cons text texts, Console.after_append]
    · simp only [ihshown, transcript_cons, String.append_assoc]

end Converse

section Run

variable {t : Transport}

theorem start_eq (config : Config) :
    start t config =
      ((newConsole config).after t (openingCommands config), greeting t config) := by
  unfold start greeting openingCommands Config.credentials
  cases config.username with
  | none => simp [Console.after, newConsole]
  | some username =>
    cases config.password with
    | none => simp [Console.after, newConsole]
    | some password => simp [Console.after, newConsole, String.append_assoc]

theorem farewell_eq_finish (c : Console) {ending : Ending} (h : ending ≠ .noText) :
    farewell t c ending = (finish t c).2 := by
  unfold finish farewell
  cases hopen : c.client.isOpen with
  | true => simp [h]
  | false => simp

theorem run_of_left {config : Config} {input : List UInt8}
    (h : (converse t (start t config).1 (lines input)).stop = .left) :
    (run t config input).fatal = none ∧
      (run t config input).shown =
        (start t config).2 ++ (converse t (start t config).1 (lines input)).shown ++
          (finish t (converse t (start t config).1 (lines input)).console).2 := by
  simp only [run, h, and_self]

theorem run_of_unreadable {config : Config} {input : List UInt8}
    (h : (converse t (start t config).1 (lines input)).stop ≠ .left) :
    (run t config input).fatal.isSome ∧
      (run t config input).shown =
        (start t config).2 ++ (converse t (start t config).1 (lines input)).shown := by
  cases hstop : (converse t (start t config).1 (lines input)).stop with
  | left => exact absurd hstop h
  | unreadable fault => simp only [run, hstop, Option.isSome_some, and_self]

theorem run_of_reads (config : Config) {input : List UInt8} {texts : List String}
    {ending : Ending} (h : Reads (inputLines input) texts ending) :
    let c := (newConsole config).after t (openingCommands config)
    (run t config input).shown =
        greeting t config ++ transcript t c texts ++ prompt ++
          farewell t (c.after t (commands texts)) ending ∧
      exitCode (run t config input).fatal = if ending = .noText then 1 else 0 := by
  intro c
  obtain ⟨hconsole, hshown, hstop⟩ :=
    converse_of_reads (t := t) (c := (start t config).1) h (map_outcome?_lines input)
  have hc : (start t config).1 = c := by rw [start_eq]
  have hgreeting : (start t config).2 = greeting t config := by rw [start_eq]
  by_cases hending : ending = .noText
  · have hleft : (converse t (start t config).1 (lines input)).stop ≠ .left :=
      fun hleft => hstop.mp hleft hending
    obtain ⟨hfatal, hrun⟩ := run_of_unreadable hleft
    have hfarewell : farewell t (c.after t (commands texts)) ending = "" :=
      if_neg fun hopen => hopen.1 hending
    constructor
    · rw [hrun, hshown, hgreeting, hc, hfarewell, String.append_empty, ← String.append_assoc]
    · rw [exitCode, if_pos hfatal, if_pos hending]
  · obtain ⟨hfatal, hrun⟩ := run_of_left (hstop.mpr hending)
    constructor
    · rw [hrun, hshown, hconsole, hgreeting, hc, ← farewell_eq_finish _ hending,
        ← String.append_assoc]
    · rw [hfatal, if_neg hending]
      rfl

theorem configIn_of_supplies {d : Directory} {arguments : List String}
    {input lineInput : List UInt8} {content : Except FileError (List UInt8)}
    (h : Supplies d (configPath arguments) input content lineInput) :
    configIn d arguments input = ((Config.load content).toOption.getD {}, lineInput) := by
  have hconfig (content : Except FileError (List UInt8)) :
      config content = (Config.load content).toOption.getD {} := by
    unfold config
    cases Config.load content <;> rfl
  unfold configIn
  cases h with
  | file h | input h | missing h => rw [h, ← hconfig]

theorem runIn_of_openLog {d d' : Directory} {arguments : List String}
    {input lineInput : List UInt8} {config : Config}
    (h : configIn d arguments input = (config, lineInput))
    (hlog : d.openLog ⟨config.log.directory⟩ logName = .ok d') :
    runIn t d arguments input =
      ⟨(run t config lineInput).shown, (run t config lineInput).fatal, d'⟩ := by
  unfold runIn
  rw [h]
  dsimp only
  rw [hlog]

end Run

/-- A run of the program, whatever its configuration file holds and whatever the bytes of its input,
where a file that cannot be loaded stands for the default configuration and its log could be opened.
The lines are read up to the first that leaves the program or is no text; the program shows the
banner and then what one console gives for the commands, with a prompt before each line and one more
at the end; and its exit code is 1 just if it was ended by a line that is no text. -/
theorem runIn_is_console_run (t : Transport) {d d' : Directory} {arguments : List String}
    {input lineInput : List UInt8} {content : Except FileError (List UInt8)}
    (hsupply : Supplies d (configPath arguments) input content lineInput)
    (hlog : d.openLog ⟨((Config.load content).toOption.getD {}).log.directory⟩ logName = .ok d') :
    let config := (Config.load content).toOption.getD {}
    let c := (newConsole config).after t (openingCommands config)
    let outcome := runIn t d arguments input
    (∃ texts ending, Reads (inputLines lineInput) texts ending) ∧
      ∀ texts ending, Reads (inputLines lineInput) texts ending →
        outcome.shown =
            greeting t config ++ transcript t c texts ++ prompt ++
              farewell t (c.after t (commands texts)) ending ∧
          exitCode outcome.fatal = if ending = .noText then 1 else 0 := by
  intro config c outcome
  have houtcome : outcome =
      ⟨(run t config lineInput).shown, (run t config lineInput).fatal, d'⟩ :=
    runIn_of_openLog (configIn_of_supplies hsupply) hlog
  rw [houtcome]
  exact ⟨exists_reads _, fun texts ending h => run_of_reads config h⟩

/-- A run with credentials, of which the first session is refused. The second line ends with a
return, and the last one, which leaves the program, is not ended at all. -/
theorem runIn_is_console_run_quit :
    let t := Transport.scripted [.error ⟨some 401, "no"⟩]
    let file := Text.utf8Bytes
      "\x7b\"username\":\"root\",\"password\":\"pw\",\"logging\":\x7b\"log_dir\":\"l\"\x7d\x7d".toList
    let d := Directory.file "config.json" file .empty
    let d' := Directory.file "config.json" file (.directory "l" (.file logName [] .empty) .empty)
    let input := Text.utf8Bytes "load\nLIMIT 5\r\n\nquit it".toList
    Supplies d (configPath []) input (.ok file) input ∧
      d.openLog ⟨((Config.load (.ok file)).toOption.getD {}).log.directory⟩ logName = .ok d' ∧
      Reads (inputLines input) ["load", "LIMIT 5", ""] .quit ∧
      (runIn t d [] input).shown =
        "OrientDB console for http://localhost:2480/demo\nType 'help' for commands.\n" ++
          "!! Connect error: no\n" ++ "orientdb> !! usage: load <rid> [fetchplan]\n" ++
          "orientdb> limit = 5\n" ++ "orientdb> " ++ "orientdb> " ∧
      exitCode (runIn t d [] input).fatal = 0 := by
  intro t file d d' input
  have hsupply : Supplies d (configPath []) input (.ok file) input := .file (by decide +kernel)
  have hlog : d.openLog ⟨((Config.load (.ok file)).toOption.getD {}).log.directory⟩ logName =
      .ok d' := by decide +kernel
  have hlines : inputLines input = ["load", "LIMIT 5", "", "quit it"].map
      fun text => Text.utf8Bytes text.toList := by decide +kernel
  have hstays {text : String} (h : (Command.parse text).toOption ≠ some (some .quit)) :
      Command.parse text ≠ .ok (some .quit) := fun hq => h (congrArg Except.toOption hq)
  have hreads : Reads (inputLines input) ["load", "LIMIT 5", ""] .quit := by
    rw [hlines]
    exact .next (hstays (by decide +kernel)) (.next (hstays (by decide +kernel))
      (.next (hstays (by decide +kernel)) (.quit rfl [])))
  obtain ⟨_, hrun⟩ := runIn_is_console_run t hsupply hlog
  obtain ⟨hshown, hexit⟩ := hrun _ _ hreads
  exact ⟨hsupply, hlog, hreads, hshown.trans (by decide +kernel), hexit⟩

end Program

end DocumentRest
