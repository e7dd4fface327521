import BuildScan.CommandLine
import BuildScan.Proofs.PkgConfig
import BuildScan.Proofs.Report

/-!
# How commands end

A command runs with its streams on the program's own (`run`), with its output going elsewhere
(`runDump`), or with both streams kept (`output`).  All three launch the command once, and then one
rule decides (`judged`): whether the process was started, and how it ended.  They differ only in
what they still have of the process, so `Judges` says of each of them the same, up to the errors
that the process wrote.

The program adds an exit code and, where the streams are kept, writes the output of a success only
(`run_exec`).  `ways_of_running_agree` puts both together.
-/

namespace BuildScan

open BuildScan.Text CommandLine

variable {σ : Type} {α : Type}

/-! ### One rule for all -/

/-- What is answered about a process of a command is right.  `machine` is the state behind the
process, and `errors` is what the answer can tell of the errors that the process wrote. -/
structure Judges (host : Host σ) (command : Command) (machine : σ)
    (process : Except OsError Outcome)
    (errors : Outcome → String) (answer : Except BuildError α) : Prop where
  ok_iff : (∃ a, answer = .ok a) ↔ ∃ o, process = .ok o ∧ o.ending = .exited 0
  /-- The directory is named if it is none. -/
  misplaced : ∀ e dir, process = .error e → command.workingDir = some dir →
    host.isDirectory machine dir = false →
    answer = .error (.toolNotFound command.program
      s!"failed to start in working directory '{dir}': {e.message}")
  notStarted : ∀ e, process = .error e →
    (∀ dir, command.workingDir = some dir → host.isDirectory machine dir = true) →
    answer = .error (.toolNotFound command.program s!"failed to start: {e.message}")
  unsuccessful : ∀ o, process = .ok o → o.ending ≠ .exited 0 →
    answer = .error (.subprocess command.program command.args o.ending.message (errors o))

/-- What a process wrote on a stream; one that was not started wrote nothing. -/
def writtenBy (process : Except OsError Outcome) (stream : Outcome → Bytes) : Bytes :=
  (process.toOption.map stream).getD []

namespace Invocation

variable (host : Host σ) (inv : Invocation) (t : Trace σ)

/-- What is answered about a process: `value` is what a success gives. -/
def judged (machine : σ) (errors : Outcome → String) (value : Outcome → α) :
    Except OsError Outcome → Except BuildError α
  | .error e => .error (inv.startError host machine e)
  | .ok o => (inv.verdict o.ending (errors o)).map fun _ => value o

theorem judged_of_success {machine : σ} {errors : Outcome → String} {value : Outcome → α}
    {o : Outcome}
    (h : o.ending = .exited 0) : inv.judged host machine errors value (.ok o) = .ok (value o) := by
  rw [judged, verdict, h]
  rfl

theorem judged_of_failure {machine : σ} {errors : Outcome → String} {value : Outcome → α}
    {o : Outcome} (h : o.ending ≠ .exited 0) :
    inv.judged host machine errors value (.ok o) =
      .error (.subprocess inv.program inv.argv o.ending.message (errors o)) := by
  have hEnding : ¬ o.ending.isSuccess = true := by
    rw [Ending.isSuccess, beq_iff_eq]
    exact h
  rw [judged, verdict, if_neg hEnding]
  rfl

/-- The rule is right, whatever an answer keeps of the process. -/
theorem judges_judged (machine : σ) (process : Except OsError Outcome) (errors : Outcome → String)
    (value : Outcome → α) :
    Judges host inv.command machine process errors
      (inv.judged host machine errors value process) where
  ok_iff := by
    cases process with
    | error e =>
      constructor
      · rintro ⟨a, h⟩
        cases h
      · rintro ⟨o, h, -⟩
        cases h
    | ok o =>
      by_cases hEnding : o.ending = .exited 0
      · rw [judged_of_success host inv hEnding]
        exact ⟨fun _ => ⟨o, rfl, hEnding⟩, fun _ => ⟨value o, rfl⟩⟩
      · rw [judged_of_failure host inv hEnding]
        constructor
        · rintro ⟨a, h⟩
          cases h
        · rintro ⟨o', h, hSuccess⟩
          cases h
          exact absurd hSuccess hEnding
  misplaced := by
    intro e dir hProcess hDir hNone
    have hInv : inv.workingDir = some dir := hDir
    subst hProcess
    rw [judged, startError, hInv]
    simp only [hNone]
    rfl
  notStarted := by
    intro e hProcess hDirs
    have hInv : ∀ dir, inv.workingDir = some dir → host.isDirectory machine dir = true := hDirs
    subst hProcess
    rw [judged, startError]
    cases hDir : inv.workingDir with
    | none => rfl
    | some dir =>
      simp only [hInv dir hDir]
      rfl
  unsuccessful := by
    intro o hProcess hEnding
    subst hProcess
    exact judged_of_failure host inv hEnding

/-! ### The three ways -/

/-- The trace behind one run of a command, some of whose bytes go to the program's own streams. -/
def ranShowing (stdout stderr : Outcome → Bytes) : Trace σ :=
  match (host.run inv.command t.machine).1 with
  | .error _ => inv.ranOnce host t
  | .ok o =>
    { inv.ranOnce host t with stdout := t.stdout ++ stdout o, stderr := t.stderr ++ stderr o }

theorem ranShowing_machine (stdout stderr : Outcome → Bytes) :
    (inv.ranShowing host t stdout stderr).machine = (host.run inv.command t.machine).2 := by
  rw [ranShowing]
  split <;> rfl

theorem ranShowing_streams (stdout stderr : Outcome → Bytes) :
    (inv.ranShowing host t stdout stderr).stdout =
        t.stdout ++ writtenBy (host.run inv.command t.machine).1 stdout ∧
      (inv.ranShowing host t stdout stderr).stderr =
        t.stderr ++ writtenBy (host.run inv.command t.machine).1 stderr := by
  rw [ranShowing]
  cases (host.run inv.command t.machine).1 with
  | error e => exact ⟨(List.append_nil _).symm, (List.append_nil _).symm⟩
  | ok o => exact ⟨rfl, rfl⟩

/-- With both streams kept, nothing goes to the program's own. -/
theorem output_judged :
    (inv.output host).result t =
        inv.judged host (host.run inv.command t.machine).2 (fun o => decodeLossy o.stderr)
          Outcome.stdout (host.run inv.command t.machine).1 ∧
      (inv.output host).after t = inv.ranOnce host t := by
  obtain ⟨hResult, hAfter⟩ := launch_runs host inv t
  refine ⟨?_, (output_runs host inv t).2⟩
  rw [output, Action.result_bind, hResult]
  cases (host.run inv.command t.machine).1 <;> rfl

/-- With the output going elsewhere, the errors go to the program's own stream. -/
theorem runDump_judged :
    (inv.runDump host).result t =
        (inv.judged host (host.run inv.command t.machine).2 (fun _ => "") (fun _ => ())
            (host.run inv.command t.machine).1,
          ((host.run inv.command t.machine).1.toOption.map Outcome.stdout).getD []) ∧
      (inv.runDump host).after t = inv.ranShowing host t (fun _ => []) Outcome.stderr := by
  obtain ⟨hResult, hAfter⟩ := launch_runs host inv t
  rw [runDump, Action.result_bind, Action.after_bind, hResult, hAfter, ranShowing]
  cases (host.run inv.command t.machine).1 with
  | error e => exact ⟨rfl, rfl⟩
  | ok o =>
    have hVerdict : (inv.verdict o.ending "").map (fun _ => ()) = inv.verdict o.ending "" := by
      cases inv.verdict o.ending "" <;> rfl
    have hAnswer : (inv.verdict o.ending "", o.stdout) =
        ((inv.verdict o.ending "").map (fun _ => ()), o.stdout) := by rw [hVerdict]
    exact ⟨hAnswer, rfl⟩

/-- With neither kept, both streams go to the program's own. -/
theorem run_judged :
    (inv.run host).result t =
        inv.judged host (host.run inv.command t.machine).2 (fun _ => "") (fun _ => ())
          (host.run inv.command t.machine).1 ∧
      (inv.run host).after t = inv.ranShowing host t Outcome.stdout Outcome.stderr := by
  obtain ⟨hResult, hAfter⟩ := runDump_judged host inv t
  rw [run, Action.result_bind, Action.after_bind, hResult, hAfter, ranShowing, ranShowing]
  refine ⟨rfl, ?_⟩
  have hForward (u : Trace σ) (out : Bytes) :
      (Action.forward out []).after u = { u with stdout := u.stdout ++ out } := by
    show ({ u with stdout := u.stdout ++ out, stderr := u.stderr ++ [] } : Trace σ) = _
    rw [List.append_nil]
  simp only [Action.after_bind, hForward, Action.after_pure]
  cases (host.run inv.command t.machine).1 with
  | error e =>
    show ({ inv.ranOnce host t with stdout := t.stdout ++ [] } : Trace σ) = inv.ranOnce host t
    rw [List.append_nil]
    rfl
  | ok o =>
    show ({ inv.ranOnce host t with
      stdout := t.stdout ++ [] ++ o.stdout, stderr := t.stderr ++ o.stderr } : Trace σ) = _
    rw [List.append_nil]

end Invocation

/-! ### The program -/

/-- A request to run a command runs it, and a failure is reported with exit code 1. -/
theorem run_exec [Go.Parser] {args : List String} {arguments : Arguments} {dir : Option String}
    {capture : Bool}
    {program : String} {words : List String} (hArgs : Arguments.ofList args = .ok arguments)
    (hRequest : arguments.request = .exec dir capture program words) (host : Host σ) :
    CommandLine.run host args = (do
      match ← runCommand host (Invocation.build program dir words) capture with
      | .ok _ => return 0
      | .error message =>
        report s!"{programName}: {message}\n"
        return 1) := by
  rw [CommandLine.run, hArgs]
  simp only [hRequest, perform]
  rfl

section

variable {args words : List String} {arguments : Arguments} {dir : Option String} {program : String}
  (hArgs : Arguments.ofList args = .ok arguments)
  (hRequest : arguments.request = .exec dir true program words) (host : Host σ) (t : Trace σ)

include hArgs hRequest

theorem run_exec_of_ok [Go.Parser] {out : Bytes}
    (h : ((Invocation.build program dir words).output host).result t = .ok out) :
    (CommandLine.run host args).result t = 0 ∧
      (CommandLine.run host args).after t =
        { (Invocation.build program dir words).ranOnce host t with stdout := t.stdout ++ out } := by
  have hAfter := (Invocation.output_judged host (Invocation.build program dir words) t).2
  rw [run_exec hArgs hRequest, runCommand, if_pos rfl]
  simp only [Action.result_bind, Action.after_bind, h, hAfter]
  refine ⟨rfl, ?_⟩
  show ({ (Invocation.build program dir words).ranOnce host t with
    stdout := t.stdout ++ out, stderr := t.stderr ++ [] } : Trace σ) = _
  rw [List.append_nil]
  rfl

theorem run_exec_of_error [Go.Parser] {e : BuildError}
    (h : ((Invocation.build program dir words).output host).result t = .error e) :
    (CommandLine.run host args).result t = 1 ∧
      (CommandLine.run host args).after t =
        { (Invocation.build program dir words).ranOnce host t with
          stderr := t.stderr ++ bytesOf s!"{programName}: {e.message}\n" } := by
  have hAfter := (Invocation.output_judged host (Invocation.build program dir words) t).2
  rw [run_exec hArgs hRequest, runCommand, if_pos rfl]
  simp only [Action.result_bind, Action.after_bind, h, hAfter]
  refine ⟨rfl, ?_⟩
  show ({ (Invocation.build program dir words).ranOnce host t with
    stdout := t.stdout ++ [], stderr := t.stderr ++ bytesOf s!"{programName}: {e.message}\n" } :
      Trace σ) = _
  rw [List.append_nil]
  rfl

end

theorem build_command (program : String) (dir : Option String) (args : List String) :
    (Invocation.build program dir args).command = ⟨program, args.flatMap wordsOf, dir⟩ := by
  cases dir <;> rfl

/-! ### All of them together -/

/-- The three ways of running an invocation are ways of running one command: they judge its process
alike, and each of its streams goes to the program's own, elsewhere, or into the answer, byte for
byte. -/
structure RunAlike (host : Host σ) (inv : Invocation) (command : Command) (t : Trace σ)
    (process : Except OsError Outcome) (machine : σ) : Prop where
  ran : Judges host command machine process (fun _ => "") ((inv.run host).result t)
  dumped : Judges host command machine process (fun _ => "") ((inv.runDump host).result t).1
  kept : Judges host command machine process (fun o => decodeLossy o.stderr)
    ((inv.output host).result t)
  /-- The machine is as the one process left it. -/
  machine_eq : ((inv.run host).after t).machine = machine ∧
    ((inv.runDump host).after t).machine = machine ∧ ((inv.output host).after t).machine = machine
  ran_streams : ((inv.run host).after t).stdout = t.stdout ++ writtenBy process Outcome.stdout ∧
    ((inv.run host).after t).stderr = t.stderr ++ writtenBy process Outcome.stderr
  dumped_streams : ((inv.runDump host).result t).2 = writtenBy process Outcome.stdout ∧
    ((inv.runDump host).after t).stdout = t.stdout ∧
    ((inv.runDump host).after t).stderr = t.stderr ++ writtenBy process Outcome.stderr
  kept_streams : (∀ out, (inv.output host).result t = .ok out →
      out = writtenBy process Outcome.stdout) ∧
    ((inv.output host).after t).stdout = t.stdout ∧ ((inv.output host).after t).stderr = t.stderr

theorem Invocation.runAlike (host : Host σ) (inv : Invocation) (t : Trace σ) :
    RunAlike host inv inv.command t (host.run inv.command t.machine).1
      (host.run inv.command t.machine).2 := by
  obtain ⟨hRan, hRanAfter⟩ := inv.run_judged host t
  obtain ⟨hDumped, hDumpedAfter⟩ := inv.runDump_judged host t
  obtain ⟨hKept, hKeptAfter⟩ := inv.output_judged host t
  have hNothing : writtenBy (host.run inv.command t.machine).1 (fun _ => []) = [] := by
    cases (host.run inv.command t.machine).1 <;> rfl
  constructor
  case ran =>
    rw [hRan]
    exact inv.judges_judged host _ _ _ _
  case dumped =>
    rw [hDumped]
    exact inv.judges_judged host _ _ _ _
  case kept =>
    rw [hKept]
    exact inv.judges_judged host _ _ _ _
  case machine_eq =>
    rw [hRanAfter, hDumpedAfter, hKeptAfter]
    exact ⟨inv.ranShowing_machine host t _ _, inv.ranShowing_machine host t _ _, rfl⟩
  case ran_streams =>
    rw [hRanAfter]
    exact inv.ranShowing_streams host t _ _
  case dumped_streams =>
    obtain ⟨hOut, hErrors⟩ := inv.ranShowing_streams host t (fun _ => []) Outcome.stderr
    rw [hNothing, List.append_nil] at hOut
    rw [hDumped, hDumpedAfter]
    exact ⟨rfl, hOut, hErrors⟩
  case kept_streams =>
    rw [hKeptAfter]
    refine ⟨fun out hOut => ?_, rfl, rfl⟩
    rw [hKept] at hOut
    cases hProcess : (host.run inv.command t.machine).1 with
    | error e =>
      rw [hProcess] at hOut
      cases hOut
    | ok o =>
      rw [hProcess] at hOut
      by_cases hEnding : o.ending = .exited 0
      · rw [judged_of_success host inv hEnding] at hOut
        exact (Except.ok.inj hOut).symm
      · rw [judged_of_failure host inv hEnding] at hOut
        cases hOut

/-- The program runs a command with its streams kept: a success is shown byte for byte, any other
ending is reported, and the exit code tells which. -/
structure ShowsSuccess (t u : Trace σ) (process : Except OsError Outcome)
    (kept : Except BuildError Bytes) (code : Nat) : Prop where
  success : ∀ o, process = .ok o → o.ending = .exited 0 →
    code = 0 ∧ u.stdout = t.stdout ++ o.stdout ∧ u.stderr = t.stderr
  failure : (∀ o, process = .ok o → o.ending ≠ .exited 0) →
    code = 1 ∧ u.stdout = t.stdout ∧
      ∃ e, kept = .error e ∧ u.stderr = t.stderr ++ bytesOf s!"gbuild: {e.message}\n"

/-- **However a command is run, its ending is judged alike.** The command is the program with the
words of all arguments, and every machine and every way for a process to end is covered. -/
theorem ways_of_running_agree [Go.Parser] (host : Host σ) (program : String) (dir : Option String)
    (args : List String) (t : Trace σ) :
    let inv := Invocation.build program dir args
    let command : Command := ⟨program, args.flatMap wordsOf, dir⟩
    let process := (host.run command t.machine).1
    RunAlike host inv command t process (host.run command t.machine).2 ∧
    ∀ given arguments, Arguments.ofList given = .ok arguments →
      arguments.request = .exec dir true program args →
      ShowsSuccess t ((CommandLine.run host given).after t) process ((inv.output host).result t)
        ((CommandLine.run host given).result t) := by
  intro inv command process
  have hCommand : inv.command = command := build_command program dir args
  have hAlike := inv.runAlike host t
  rw [hCommand] at hAlike
  refine ⟨hAlike, fun given arguments hArgs hRequest => ?_⟩
  constructor
  case success =>
    intro o hProcess hEnding
    obtain ⟨out, hOut⟩ := hAlike.kept.ok_iff.mpr ⟨o, hProcess, hEnding⟩
    have hWritten : out = writtenBy process Outcome.stdout := hAlike.kept_streams.1 out hOut
    rw [hProcess] at hWritten
    obtain ⟨hCode, hAfter⟩ := run_exec_of_ok hArgs hRequest host t hOut
    rw [hCode, hAfter, hWritten]
    exact ⟨rfl, rfl, rfl⟩
  case failure =>
    intro hProcess
    cases hKept : (inv.output host).result t with
    | ok out =>
      obtain ⟨o, hStarted, hEnding⟩ := hAlike.kept.ok_iff.mp ⟨out, hKept⟩
      exact absurd hEnding (hProcess o hStarted)
    | error e =>
      obtain ⟨hCode, hAfter⟩ := run_exec_of_error hArgs hRequest host t hKept
      rw [hCode, hAfter]
      exact ⟨rfl, rfl, e, rfl, rfl⟩

/-- A machine on which every command writes on both streams and fails. -/
def failingHost : Host Unit where
  lookup _ _ := none
  isExecutable _ _ := true
  isPresent _ _ := true
  isDirectory _ _ := true
  readFile _ _ := .error .notFound
  run _ _ := (.ok ⟨.exited 3, [111], [101]⟩, ())

/-- A parser for runs that scan nothing. -/
local instance failingParser : Go.Parser := ⟨.unreadable⟩

/-- There, a compiler that is given its flags in one argument fails, and of its streams only the
errors are told. -/
theorem ways_of_running_agree_failingHost :
    let given := ["exec", "--capture", "6g", "-o main.6"]
    let trace := CommandLine.run failingHost given |>.after (Trace.start ())
    (CommandLine.run failingHost given).result (Trace.start ()) = 1 ∧ trace.stdout = [] ∧
      ((Invocation.build "6g" none ["-o main.6"]).output failingHost).result (Trace.start ()) =
        .error (.subprocess "6g" ["-o", "main.6"] "exit status: 3" "e") := by
  intro given trace
  obtain ⟨hAlike, hShows⟩ :=
    ways_of_running_agree failingHost "6g" none ["-o main.6"] (Trace.start ())
  have hArgs : Arguments.ofList given =
      .ok ⟨⟨none, none, none, []⟩, false, .exec none true "6g" ["-o main.6"]⟩ := by rfl
  have hFailed : (Ending.exited 3) ≠ .exited 0 := by decide
  obtain ⟨hCode, hOut, -⟩ := (hShows given _ hArgs rfl).failure fun o h => by cases h; exact hFailed
  exact ⟨hCode, hOut, hAlike.kept.unsuccessful _ rfl hFailed⟩

end BuildScan
