import BuildScan.PkgConfig
import BuildScan.Proofs.Lookups
import BuildScan.Proofs.Places
import BuildScan.Proofs.Utf8

/-!
# Lookups by a command

A source of flags that runs a command runs it once for each question, with two arguments: the option
of the mode and the library as the directive has it.  `query_runs` says so for one question on any
machine; what the process does then decides the answer (`Reads`).  `resolve_runs_command` puts this
on top of the lookups of a scan: on a machine that keeps a record of its commands, the record grows
by one command for each question.
-/

namespace BuildScan

open BuildScan.Text

variable {σ : Type}

/-! ### Running a command -/

namespace Invocation

variable (host : Host σ) (inv : Invocation) (t : Trace σ)

/-- The trace behind one run of a command whose streams are kept. -/
def ranOnce : Trace σ :=
  { t with
    machine := (host.run inv.command t.machine).2
    log := t.log ++ [⟨.debug, inv.commandLine⟩] }

/-- Launching runs the command once, and a failure is told with the machine that it leaves. -/
theorem launch_runs :
    (inv.launch host).result t =
        (host.run inv.command t.machine).1.mapError
          (inv.startError host (host.run inv.command t.machine).2) ∧
      (inv.launch host).after t = inv.ranOnce host t := by
  simp only [launch, Action.result_bind, Action.after_bind, Action.after_log, Action.result_run,
    Action.after_run]
  cases (host.run inv.command t.machine).1 <;> exact ⟨rfl, rfl⟩

/-- What a command whose streams are kept answers by its process, told with the machine behind
it. -/
def kept (machine : σ) (process : Except OsError Outcome) : Except BuildError Bytes :=
  match process with
  | .error e => .error (inv.startError host machine e)
  | .ok o =>
    if o.ending = .exited 0 then .ok o.stdout
    else .error (.subprocess inv.program inv.argv o.ending.message (decodeLossy o.stderr))

/-- Running with both streams kept is one launch; only the output of a success comes out of it. -/
theorem output_runs :
    (inv.output host).result t =
        inv.kept host (host.run inv.command t.machine).2 (host.run inv.command t.machine).1 ∧
      (inv.output host).after t = inv.ranOnce host t := by
  obtain ⟨hResult, hAfter⟩ := launch_runs host inv t
  rw [output, Action.result_bind, Action.after_bind, hResult, hAfter]
  cases (host.run inv.command t.machine).1 with
  | error e => exact ⟨rfl, rfl⟩
  | ok o =>
    have hVerdict : (inv.verdict o.ending (decodeLossy o.stderr)).map (fun _ => o.stdout) =
        inv.kept host (host.run inv.command t.machine).2 (.ok o) := by
      rw [verdict, kept, Ending.isSuccess]
      by_cases hEnding : o.ending = .exited 0
      · rw [if_pos hEnding, if_pos (beq_iff_eq.mpr hEnding)]
        rfl
      · rw [if_neg hEnding, if_neg (mt beq_iff_eq.mp hEnding)]
        rfl
    exact ⟨hVerdict, rfl⟩

end Invocation

/-! ### One question -/

/-- The command that puts a question. -/
def Question.command (q : Question) (program : String) : Command :=
  ⟨program, [q.1.option, q.2], none⟩

/-- That command as it is shown. -/
def Question.commandLine (q : Question) (program : String) : String :=
  String.intercalate " " [program, q.1.option, q.2]

/-- What the process of a question answers. -/
def Question.read (q : Question) (program : String) :
    Except OsError Outcome → Except BuildError String
  | .error e => .error (.toolNotFound program s!"failed to start: {e.message}")
  | .ok o =>
    if o.ending = .exited 0 then
      match decode o.stdout with
      | .ok text => .ok (trimmed text)
      | .error fault => .error (.malformedOutput (q.commandLine program) fault.message)
    else .error (.subprocess program [q.1.option, q.2] o.ending.message (decodeLossy o.stderr))

/-- An answer is the right one for what the process of a question did. -/
structure Reads (program : String) (q : Question) (process : Except OsError Outcome)
    (answer : Except BuildError String) : Prop where
  /-- There is an entry exactly if the process succeeds and writes a text: that text, trimmed. -/
  entry_iff : ∀ entry, answer = .ok entry ↔
    ∃ o text, process = .ok o ∧ o.ending = .exited 0 ∧ o.stdout = bytesOf text ∧
      entry = trimmed text
  notStarted : ∀ e, process = .error e →
    answer = .error (.toolNotFound program ("failed to start: " ++ e.message))
  /-- What the process writes besides its errors does not matter here. -/
  unsuccessful : ∀ o, process = .ok o → o.ending ≠ .exited 0 →
    answer = .error (.subprocess program [q.1.option, q.2] o.ending.message (decodeLossy o.stderr))
  malformed : ∀ o, process = .ok o → o.ending = .exited 0 → (∀ text, o.stdout ≠ bytesOf text) →
    ∃ fault, decode o.stdout = .error fault ∧
      answer = .error (.malformedOutput (q.commandLine program) fault.message)

/-- What is read off a process is right. -/
theorem reads_read (program : String) (q : Question) (process : Except OsError Outcome) :
    Reads program q process (q.read program process) where
  entry_iff entry := by
    constructor
    · intro h
      cases process with
      | error e => cases h
      | ok o =>
        by_cases hEnding : o.ending = .exited 0
        · rw [Question.read, if_pos hEnding] at h
          cases hDecode : decode o.stdout with
          | ok text =>
            rw [hDecode] at h
            exact ⟨o, text, rfl, hEnding, decode_eq_ok_iff.mp hDecode, (Except.ok.inj h).symm⟩
          | error fault =>
            rw [hDecode] at h
            cases h
        · rw [Question.read, if_neg hEnding] at h
          cases h
    · rintro ⟨o, text, rfl, hEnding, hText, rfl⟩
      rw [Question.read, if_pos hEnding, decode_eq_ok_iff.mpr hText]
  notStarted := by
    rintro e rfl
    rfl
  unsuccessful := by
    rintro o rfl hEnding
    rw [Question.read, if_neg hEnding]
  malformed := by
    rintro o rfl hEnding hNone
    cases hDecode : decode o.stdout with
    | ok text => exact absurd (decode_eq_ok_iff.mp hDecode) (hNone text)
    | error fault =>
      rw [Question.read, if_pos hEnding, hDecode]
      exact ⟨fault, rfl, rfl⟩

/-- A question is put as it stands: splitting at blanks leaves the library alone. -/
theorem splitArgs_question {mode : FlagMode} {library payload : String}
    (h : library ∈ wordsOf payload) :
    splitArgs [mode.option, library] = [mode.option, library] := by
  have hOption : wordsOf mode.option = [mode.option] := by cases mode <;> rfl
  rw [splitArgs, List.flatMap_cons, hOption, List.flatMap_cons, wordsOf_of_mem h]
  rfl

/-- A question runs one command, and its answer follows from what the process did. -/
theorem query_runs (host : Host σ) (pc : PkgConfig) {q : Question} {payload : String}
    (h : q.2 ∈ wordsOf payload) (t : Trace σ) :
    (pc.query host q.1 q.2).result t =
        q.read pc.command (host.run (q.command pc.command) t.machine).1 ∧
      (pc.query host q.1 q.2).after t =
        { t with
          machine := (host.run (q.command pc.command) t.machine).2
          log := t.log ++ [⟨.debug, q.commandLine pc.command⟩] } := by
  have hInv : (Invocation.new pc.command).withArgs [q.1.option, q.2] =
      ⟨pc.command, none, [q.1.option, q.2]⟩ := by
    rw [Invocation.withArgs, splitArgs_question h]
    rfl
  have hOutput := Invocation.output_runs host ⟨pc.command, none, [q.1.option, q.2]⟩ t
  have hCommand : Invocation.command ⟨pc.command, none, [q.1.option, q.2]⟩ = q.command pc.command :=
    rfl
  rw [PkgConfig.query, hInv, Action.result_bind, Action.after_bind, hOutput.1, hOutput.2, hCommand]
  cases (host.run (q.command pc.command) t.machine).1 with
  | error e => exact ⟨rfl, rfl⟩
  | ok o =>
    rw [Invocation.kept, Question.read]
    by_cases hEnding : o.ending = .exited 0
    · rw [if_pos hEnding, if_pos hEnding]
      cases hDecode : decode o.stdout with
      | ok text =>
        simp only [hDecode]
        exact ⟨rfl, rfl⟩
      | error fault =>
        simp only [hDecode]
        exact ⟨rfl, rfl⟩
    · rw [if_neg hEnding, if_neg hEnding]
      exact ⟨rfl, rfl⟩

/-! ### All questions of a scan -/

/-- The machine with a record of the commands that it ran, each answered by the record before it. -/
def Host.recording (base : Host (List Command))
    (oracle : List Command → Command → Except OsError Outcome) : Host (List Command) :=
  { base with run := fun command past => (oracle past command, past ++ [command]) }

/-- How a command works as a source of flags on such a machine. -/
def PkgConfig.noting (pc : PkgConfig) (oracle : List Command → Command → Except OsError Outcome) :
    Noting Command where
  note q := q.command pc.command
  events q := [⟨.debug, q.commandLine pc.command⟩]
  answer past q := q.read pc.command (oracle past (q.command pc.command))

theorem mem_wordsOf_of_mem_questionsOf {q : Question} {ds : List Directive}
    (h : q ∈ questionsOf ds) :
    ∃ payload, q.2 ∈ wordsOf payload := by
  obtain ⟨d, -, hq⟩ := List.mem_flatMap.mp h
  refine ⟨d.payload, ?_⟩
  rw [Directive.questions] at hq
  split at hq
  · rcases List.mem_append.mp hq with hq | hq
    all_goals
      obtain ⟨library, hWord, rfl⟩ := List.mem_map.mp hq
      exact hWord
  · cases hq

/-- A source of flags resolves a scan by running a program once for each question. -/
def ResolvesBy (program : String) (oracle : List Command → Command → Except OsError Outcome)
    (scanned : Scanned) (source : FlagSource (List Command)) (t : Trace (List Command)) : Prop :=
  ∃ told : List ToldDirective, told.map ToldDirective.directive = scanned.directives ∧
    (scanned.resolve source).result t = scanned.unitOf told ∧
    (scanned.resolve source).after t =
      { t with
        machine := t.machine ++ (questionsOf scanned.directives).map (·.command program)
        log := t.log ++ (lookupsOf told).flatMap fun l =>
          ⟨.debug, l.question.commandLine program⟩ :: l.warnings } ∧
    ∀ before l behind, lookupsOf told = before ++ l :: behind →
      Reads program l.question
        (oracle (t.machine ++ before.map fun m => m.question.command program)
          (l.question.command program))
        l.answer

/-- The lookups of `resolve_asks`, on the machine that keeps the record. -/
theorem PkgConfig.resolvesBy (pc : PkgConfig) (base : Host (List Command))
    (oracle : List Command → Command → Except OsError Outcome) (scanned : Scanned)
    (t : Trace (List Command)) :
    ResolvesBy pc.command oracle scanned (pc.flagSource (base.recording oracle)) t := by
  obtain ⟨told, hTold, hAsked, hResult⟩ :=
    resolve_asks (pc.flagSource (base.recording oracle)) scanned t
  have hQuestions := questions_lookupsOf told
  rw [hTold] at hQuestions
  have hDescribes : ∀ l ∈ lookupsOf told,
      (pc.noting oracle).Describes (pc.flagSource (base.recording oracle)) l.question := by
    intro l hl u
    have hMem : l.question ∈ questionsOf scanned.directives :=
      hQuestions ▸ List.mem_map_of_mem hl
    obtain ⟨payload, hPayload⟩ := mem_wordsOf_of_mem_questionsOf hMem
    exact query_runs (base.recording oracle) pc hPayload u
  obtain ⟨hAfter, hAnswers⟩ := Noting.run_of_describes hAsked hDescribes
  refine ⟨told, hTold, hResult, ?_, ?_⟩
  · rw [hAfter, Noting.behind, ← hQuestions, List.map_map]
    rfl
  · intro before l behind hSplit
    rw [hAnswers before l behind hSplit]
    exact reads_read _ _ _

/-- The program that a toolchain asks: the one that it found, or else whatever has the usual
name. -/
theorem ofToolchain_command (toolchain : Toolchain) :
    (PkgConfig.ofToolchain toolchain).command =
      ((toolchain.binding? .pkgConfig).bind ToolBinding.path).getD "pkg-config" := by
  rw [PkgConfig.ofToolchain, Toolchain.path]
  cases (toolchain.binding? .pkgConfig).bind ToolBinding.path <;> rfl

/-- **Resolving by a command runs it once for each question.** The command is given, or it is the
one that a toolchain found; every machine and every way for processes to end is covered, also by
what ran before. -/
theorem resolve_runs_command (base : Host (List Command))
    (oracle : List Command → Command → Except OsError Outcome) (scanned : Scanned)
    (t : Trace (List Command)) :
    (∀ pc : PkgConfig,
      ResolvesBy pc.command oracle scanned (pc.flagSource (base.recording oracle)) t) ∧
    ∀ toolchain : Toolchain,
      ResolvesBy (((toolchain.binding? .pkgConfig).bind ToolBinding.path).getD "pkg-config") oracle
        scanned (toolchain.flagSource (base.recording oracle)) t := by
  refine ⟨fun pc => pc.resolvesBy base oracle scanned t, fun toolchain => ?_⟩
  rw [← ofToolchain_command]
  exact (PkgConfig.ofToolchain toolchain).resolvesBy base oracle scanned t

end BuildScan
