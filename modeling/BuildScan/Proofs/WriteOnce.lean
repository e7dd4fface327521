import BuildScan.Proofs.Action
import BuildScan.Proofs.Discovery
import BuildScan.Session

/-!
# One toolchain for a process

The toolchain of a process is settled by the first call that wants one or brings one.  `runCalls`
makes calls one after the other, each in a state of the machine of its own, so that files and
variables may change in between in any way.  `toolchain_written_once` says what such a run stores
and what each call is told.

A toolchain that is rejected is given back as it is (`ToolchainCell.install_eq_error_iff`).  A
stored failure is told again word for word, because a discovery fails only in ways that are told so
(`Tellable`).  Every call keeps a stored outcome and tells no more than that outcome
(`perform_stored`), and from there the run follows by induction (`runCalls_stored`).
-/

namespace BuildScan

variable {σ : Type}

/-- What a process does with its toolchain. -/
inductive ToolchainCall where
  /-- Asks for the toolchain, which is discovered if there is none. -/
  | obtain (config : Config)
  /-- Brings a toolchain. -/
  | install (t : Toolchain)
  /-- Looks whether there is a toolchain. -/
  | look
  /-- Opens a session with the toolchain, which is discovered if there is none. -/
  | openSession (config : Config)

/-- What such a call is told. -/
inductive ToolchainReply where
  | obtained (outcome : Except BuildError Toolchain)
  | installed (outcome : Except Toolchain Unit)
  | looked (found : Option Toolchain)
  | opened (session : Except BuildError Session)

/-- A discovery on a machine in a state. -/
def discoveryOn (host : Host σ) (machine : σ) (config : Config) :
    Except BuildError Toolchain × Log :=
  Toolchain.discover config (.ofHost host machine config) (host.probe machine)

namespace ToolchainCall

/-- Makes a call on a cell. -/
def perform (host : Host σ) (cell : ToolchainCell) :
    ToolchainCall → Action σ (ToolchainReply × ToolchainCell)
  | .obtain config => do
    let (outcome, cell) ← cell.obtain host config
    return (.obtained outcome, cell)
  | .install t => return (.installed (cell.install t).1, (cell.install t).2)
  | .look => return (.looked cell.installed?, cell)
  | .openSession config => do
    let (session, cell) ← Session.withToolchain host config cell
    return (.opened session, cell)

/-- What a call writes into an empty cell and what it reports of that, if it writes at all. -/
def writes? (host : Host σ) (machine : σ) :
    ToolchainCall → Option (Except BuildError Toolchain × Log)
  | .obtain config => some (discoveryOn host machine config)
  | .install t => some (.ok t, [])
  | .look => none
  | .openSession config => some (discoveryOn host machine config)

/-- What a call is told when an outcome is stored. -/
def replyOf (outcome : Except BuildError Toolchain) : ToolchainCall → ToolchainReply
  | .obtain _ => .obtained outcome
  | .install t => .installed (.error t)
  | .look => .looked outcome.toOption
  | .openSession config =>
    .opened (outcome.map fun t => ⟨BuildTags.ofConfig config, some t, PkgConfig.ofToolchain t⟩)

/-- What the call is told that stores the outcome. -/
def firstReply (outcome : Except BuildError Toolchain) : ToolchainCall → ToolchainReply
  | .install _ => .installed (.ok ())
  | call => call.replyOf outcome

end ToolchainCall

/-- Makes calls one after the other, each in a state of the machine of its own.  Each leaves its
reply and what it reports. -/
def runCalls (host : Host σ) :
    ToolchainCell → List (σ × ToolchainCall) → List (ToolchainReply × Log) × ToolchainCell
  | cell, [] => ([], cell)
  | cell, (machine, call) :: rest =>
    let act := call.perform host cell
    let told := act.result (.start machine)
    let others := runCalls host told.2 rest
    ((told.1, (act.after (.start machine)).log) :: others.1, others.2)

/-! ### Rejected toolchains -/

theorem ToolchainCell.install_stored (t : Toolchain) (outcome : Except BuildError Toolchain) :
    ToolchainCell.install t (some outcome) = (.error t, some outcome) := rfl

/-- A toolchain is rejected if something is stored, and it is itself what is given back: what the
cell rejects is never a failure, so the toolchain without tools does not come in. -/
theorem ToolchainCell.install_eq_error_iff {t rejected : Toolchain} {cell : ToolchainCell} :
    (cell.install t).1 = .error rejected ↔ cell.isSome = true ∧ rejected = t := by
  cases cell with
  | none => exact ⟨nofun, nofun⟩
  | some outcome =>
    rw [install_stored]
    exact ⟨fun h => ⟨rfl, (Except.error.inj h).symm⟩, fun h => congrArg Except.error h.2.symm⟩

/-! ### Outcomes that are told as they are -/

/-- Callers are told the outcome itself. -/
def Tellable (outcome : Except BuildError Toolchain) : Prop :=
  ToolchainCell.answer outcome = outcome

theorem tellable_ok (t : Toolchain) : Tellable (.ok t) := rfl

theorem tellable_discoveryOn (host : Host σ) (machine : σ) (config : Config) :
    Tellable (discoveryOn host machine config).1 := by
  cases h : (discoveryOn host machine config).1 with
  | ok t => exact tellable_ok t
  | error e =>
    rcases Toolchain.discover_eq_error h with ⟨name, rfl⟩ | ⟨message, rfl⟩
    · rfl
    · rfl

namespace ToolchainCall

variable {host : Host σ} {outcome : Except BuildError Toolchain}
  {written : Except BuildError Toolchain × Log}

theorem tellable_of_writes? {call : ToolchainCall} {machine : σ}
    (h : call.writes? host machine = some written) : Tellable written.1 := by
  cases call with
  | obtain config =>
    obtain rfl := Option.some.inj h
    exact tellable_discoveryOn host machine config
  | install t =>
    obtain rfl := Option.some.inj h
    exact tellable_ok t
  | look => cases h
  | openSession config =>
    obtain rfl := Option.some.inj h
    exact tellable_discoveryOn host machine config

theorem writes?_eq_none_iff {call : ToolchainCall} {machine : σ} :
    call.writes? host machine = none ↔ call = .look := by
  cases call <;> simp [writes?]

/-! ### One call -/

/-- A stored outcome decides the reply and stays; nothing else happens. -/
theorem perform_stored (host : Host σ) (hTell : Tellable outcome) (call : ToolchainCall)
    (t : Trace σ) :
    (call.perform host (some outcome)).result t = (call.replyOf outcome, some outcome) ∧
      (call.perform host (some outcome)).after t = t := by
  cases call with
  | obtain config =>
    have hTold : ((obtain config).perform host (some outcome)).result t =
        (.obtained (ToolchainCell.answer outcome), some outcome) := rfl
    exact ⟨by rw [hTold, hTell]; rfl, rfl⟩
  | install new =>
    have hTold : ((install new).perform host (some outcome)).result t =
        (.installed (ToolchainCell.install new (some outcome)).1,
          (ToolchainCell.install new (some outcome)).2) := rfl
    exact ⟨by rw [hTold, ToolchainCell.install_stored]; rfl, rfl⟩
  | look =>
    cases outcome with
    | ok t => exact ⟨rfl, rfl⟩
    | error e => exact ⟨rfl, rfl⟩
  | openSession config =>
    have hTold : ((openSession config).perform host (some outcome)).result t =
        (.opened ((ToolchainCell.answer outcome).map fun t =>
          ⟨BuildTags.ofConfig config, some t, PkgConfig.ofToolchain t⟩), some outcome) := rfl
    exact ⟨by rw [hTold, hTell]; rfl, rfl⟩

theorem perform_look_empty (host : Host σ) (t : Trace σ) :
    (look.perform host none).result t = (.looked none, none) ∧
    (look.perform host none).after t = t :=
  ⟨rfl, rfl⟩

/-- A call that writes stores what it finds or brings, and is told of that. -/
theorem perform_empty {call : ToolchainCall} {t : Trace σ}
    (h : call.writes? host t.machine = some written) :
    (call.perform host none).result t = (call.firstReply written.1, some written.1) ∧
      (call.perform host none).after t = { t with log := t.log ++ written.2 } := by
  have hTell : ToolchainCell.answer written.1 = written.1 := tellable_of_writes? h
  cases call with
  | obtain config =>
    obtain rfl := Option.some.inj h
    have hTold : ((obtain config).perform host none).result t =
        (.obtained (ToolchainCell.answer (discoveryOn host t.machine config).1),
          some (discoveryOn host t.machine config).1) := rfl
    exact ⟨by rw [hTold, hTell]; rfl, rfl⟩
  | install t =>
    obtain rfl := Option.some.inj h
    refine ⟨rfl, ?_⟩
    simp only [List.append_nil]
    rfl
  | look => cases h
  | openSession config =>
    obtain rfl := Option.some.inj h
    have hTold : ((openSession config).perform host none).result t =
        (.opened ((ToolchainCell.answer (discoveryOn host t.machine config).1).map fun t =>
          ⟨BuildTags.ofConfig config, some t, PkgConfig.ofToolchain t⟩),
          some (discoveryOn host t.machine config).1) := rfl
    exact ⟨by rw [hTold, hTell]; rfl, rfl⟩

end ToolchainCall

/-! ### Runs -/

variable {host : Host σ} {outcome : Except BuildError Toolchain}
  {written : Except BuildError Toolchain × Log}

theorem runCalls_append (cell : ToolchainCell) (before behind : List (σ × ToolchainCall)) :
    runCalls host cell (before ++ behind) =
      ((runCalls host cell before).1 ++ (runCalls host (runCalls host cell before).2 behind).1,
        (runCalls host (runCalls host cell before).2 behind).2) := by
  induction before generalizing cell with
  | nil => rfl
  | cons c rest ih =>
    rw [List.cons_append, runCalls, runCalls, ih]
    rfl

/-- Once an outcome is stored, every call is told of it and no more happens. -/
theorem runCalls_stored (hTell : Tellable outcome) (calls : List (σ × ToolchainCall)) :
    runCalls host (some outcome) calls =
      (calls.map fun c => (c.2.replyOf outcome, []), some outcome) := by
  induction calls with
  | nil => rfl
  | cons c rest ih =>
    obtain ⟨hResult, hAfter⟩ := ToolchainCall.perform_stored host hTell c.2 (.start c.1)
    rw [runCalls, hResult, hAfter, ih]
    rfl

theorem runCalls_looks {calls : List (σ × ToolchainCall)} (h : ∀ c ∈ calls, c.2 = .look) :
    runCalls host none calls = (calls.map fun _ => (.looked none, []), none) := by
  induction calls with
  | nil => rfl
  | cons c rest ih =>
    obtain ⟨hFirst, hRest⟩ := List.forall_mem_cons.mp h
    obtain ⟨hResult, hAfter⟩ := ToolchainCall.perform_look_empty host (.start c.1)
    rw [runCalls, hFirst, hResult, hAfter, ih hRest]
    rfl

/-- From the first call that writes on, its outcome is stored. -/
theorem runCalls_first {machine : σ} {first : ToolchainCall}
    (h : first.writes? host machine = some written) (later : List (σ × ToolchainCall)) :
    runCalls host none ((machine, first) :: later) =
      ((first.firstReply written.1, written.2) :: later.map fun c => (c.2.replyOf written.1, []),
        some written.1) := by
  obtain ⟨hResult, hAfter⟩ := ToolchainCall.perform_empty (t := .start machine) h
  rw [runCalls, hResult, hAfter, runCalls_stored (ToolchainCall.tellable_of_writes? h)]
  rfl

theorem looks_or_first (host : Host σ) (calls : List (σ × ToolchainCall)) :
    (∀ c ∈ calls, c.2 = .look) ∨
      ∃ looks machine first later written, calls = looks ++ (machine, first) :: later ∧
        (∀ c ∈ looks, c.2 = .look) ∧ first.writes? host machine = some written := by
  induction calls with
  | nil => exact .inl (List.forall_mem_nil _)
  | cons c rest ih =>
    obtain ⟨machine, call⟩ := c
    cases h : call.writes? host machine with
    | some written =>
      exact .inr ⟨[], machine, call, rest, written, rfl, List.forall_mem_nil _, h⟩
    | none =>
      have hLook : call = .look := ToolchainCall.writes?_eq_none_iff.mp h
      rcases ih with hLooks | ⟨looks, machine', first, later, written, rfl, hLooks, hWrites⟩
      · exact .inl (List.forall_mem_cons.mpr ⟨hLook, hLooks⟩)
      · exact .inr ⟨(machine, call) :: looks, machine', first, later, written, rfl,
          List.forall_mem_cons.mpr ⟨hLook, hLooks⟩, hWrites⟩

/-- **The toolchain of a process is written once.** As long as callers only look, nothing is stored
and they see nothing.  The first other call stores what it brings or what its discovery comes to, a
failure included, and from then on every call is told of that outcome, whatever its own
configuration and whatever has become of the machine. -/
theorem toolchain_written_once (host : Host σ) (calls : List (σ × ToolchainCall)) :
    ((∀ c ∈ calls, c.2 = .look) ∧
      runCalls host none calls = (calls.map fun _ => (.looked none, []), none)) ∨
    ∃ looks machine first later written,
      calls = looks ++ (machine, first) :: later ∧
      (∀ c ∈ looks, c.2 = .look) ∧
      first.writes? host machine = some written ∧
      -- what is stored after any number of calls
      (∀ n, (runCalls host none (calls.take n)).2 =
        if n ≤ looks.length then none else some written.1) ∧
      -- what each call is told, and what it reports
      (runCalls host none calls).1 =
        looks.map (fun _ => (.looked none, [])) ++
          (first.firstReply written.1, written.2) ::
            later.map fun c => (c.2.replyOf written.1, []) := by
  rcases looks_or_first host calls with
    hLooks | ⟨looks, machine, first, later, written, rfl, hLooks, hWrites⟩
  · exact .inl ⟨hLooks, runCalls_looks hLooks⟩
  refine .inr ⟨looks, machine, first, later, written, rfl, hLooks, hWrites, fun n => ?_, ?_⟩
  · by_cases hEarly : n ≤ looks.length
    · have hTake : ∀ c ∈ looks.take n, c.2 = .look := fun c hc => hLooks c (List.mem_of_mem_take hc)
      rw [if_pos hEarly, List.take_append_of_le_length hEarly, runCalls_looks hTake]
    · obtain ⟨k, rfl⟩ : ∃ k, n = looks.length + (k + 1) := ⟨n - looks.length - 1, by omega⟩
      rw [if_neg hEarly, List.take_length_add_append, List.take_succ_cons, runCalls_append,
        runCalls_looks hLooks, runCalls_first hWrites]
  · rw [runCalls_append, runCalls_looks hLooks, runCalls_first hWrites]

end BuildScan
