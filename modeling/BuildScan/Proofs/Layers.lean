import BuildScan.Proofs.Blanks
import BuildScan.Proofs.ExtraTags
import BuildScan.Proofs.Sessions

/-!
# Layers of the configuration

A value of the platform comes from the first of three layers that has one: an option, a variable
that shows something, the host (`FromLayers`).  The tool directory has two variables in the middle
(`gobin_config_eq_some_iff`).  So of the variables only those matter that the layers name, and of
these only what they show (`config_congr`); a variable with nothing but blanks is as good as none
(`showAlike_without`).

The rest of the program sees the variables through the configuration, and the search path besides
(`run_withVariables`).  `configuration_has_layers` puts this together.
-/

namespace BuildScan

open BuildScan.Text CommandLine

/-- What a machine knows of its variables. -/
abbrev Variables := String → Option String

/-! ### Variables -/

/-- The variable is set to a text that shows something. -/
def Variables.SetTo (vars : Variables) (key value : String) : Prop :=
  vars key = some value ∧ ∃ c ∈ value.toList, isBlank c = false

/-- The variable is not set, or to blanks only. -/
def Variables.Silent (vars : Variables) (key : String) : Prop :=
  ∀ value, vars key = some value → Blanks value.toList

/-- The variables without one of them. -/
def Variables.without (vars : Variables) (key : String) : Variables :=
  fun k => if k = key then none else vars k

/-- Of these keys both show the same. -/
def Variables.ShowAlike (keys : List String) (vars other : Variables) : Prop :=
  ∀ key ∈ keys, ∀ value, vars.SetTo key value ↔ other.SetTo key value

variable {vars other : Variables} {key value : String} {keys : List String}

theorem not_isBlankText_iff :
    (!isBlankText value) = true ↔ ∃ c ∈ value.toList, isBlank c = false := by
  simp [isBlankText]

theorem visible?_eq_some_iff : Config.visible? vars key = some value ↔ vars.SetTo key value := by
  rw [Config.visible?, Option.filter_eq_some_iff, not_isBlankText_iff]
  rfl

theorem visible?_eq_none_iff : Config.visible? vars key = none ↔ vars.Silent key := by
  rw [Config.visible?, Option.filter_eq_none_iff]
  simp [Variables.Silent, isBlankText, Blanks]

theorem visible?_congr (h : Variables.ShowAlike keys vars other) (hKey : key ∈ keys) :
    Config.visible? vars key = Config.visible? other key := by
  refine Option.ext fun value => ?_
  rw [visible?_eq_some_iff, visible?_eq_some_iff]
  exact h key hKey value

/-- Without a variable that shows nothing the others show the same. -/
theorem showAlike_without (h : vars.Silent key) (keys : List String) :
    Variables.ShowAlike keys vars (vars.without key) := by
  intro k _ value
  rw [Variables.SetTo, Variables.SetTo, Variables.without]
  by_cases hSame : k = key
  · subst hSame
    rw [if_pos rfl]
    constructor
    · rintro ⟨hSet, c, hc, hShows⟩
      rw [h value hSet c hc] at hShows
      cases hShows
    · rintro ⟨hSet, -⟩
      cases hSet
  · rw [if_neg hSame]

/-! ### The configuration -/

/-- The variables that a configuration is read from. -/
def Config.variables : List String := ["GOOS", "GOARCH", "GOBIN", "GOROOT"]

/-- The value is that of an option, else what a variable shows, else that of the host. -/
def FromLayers (option : Option String) (vars : Variables) (key host value : String) : Prop :=
  option = some value ∨ option = none ∧ (vars.SetTo key value ∨ vars.Silent key ∧ value = host)

theorem getD_visible?_eq_iff {option : Option String} {host : String} :
    option.getD ((Config.visible? vars key).getD host) = value ↔
      FromLayers option vars key host value := by
  rw [FromLayers, ← visible?_eq_some_iff, ← visible?_eq_none_iff]
  cases option with
  | some given => simp
  | none =>
    cases Config.visible? vars key with
    | some shown => simp
    | none => simp [eq_comm]

namespace PlatformOptions

variable {o : PlatformOptions} {dir : String}

theorem gobin_config_eq_some_iff : (o.config vars).gobin = some dir ↔
    o.gobin = some dir ∨ o.gobin = none ∧ (vars.SetTo "GOBIN" dir ∨
      vars.Silent "GOBIN" ∧ ∃ root, vars.SetTo "GOROOT" root ∧ dir = Path.join root "bin") := by
  rw [config, Config.ofLookup, Option.or_eq_some_iff, Option.or_eq_some_iff, Option.map_eq_some_iff]
  simp only [visible?_eq_some_iff, visible?_eq_none_iff, eq_comm (a := dir)]

theorem gobin_config_eq_none_iff : (o.config vars).gobin = none ↔
    o.gobin = none ∧ vars.Silent "GOBIN" ∧ vars.Silent "GOROOT" := by
  simp only [config, Config.ofLookup, Option.or_eq_none_iff, Option.map_eq_none_iff,
    visible?_eq_none_iff]

theorem config_congr (h : Variables.ShowAlike Config.variables vars other) :
    o.config other = o.config vars := by
  have hShown (key : String) (hKey : key ∈ Config.variables) := visible?_congr h hKey
  rw [config, config, Config.ofLookup, Config.ofLookup, hShown "GOOS" (by decide),
    hShown "GOARCH" (by decide), hShown "GOBIN" (by decide), hShown "GOROOT" (by decide)]

/-- The root is asked only if neither an option nor a variable gives the directory. -/
theorem config_congr_of_gobin (hGobin : (∃ dir, o.gobin = some dir) ∨ ∃ dir, vars.SetTo "GOBIN" dir)
    (h : Variables.ShowAlike ["GOOS", "GOARCH", "GOBIN"] vars other) :
    o.config other = o.config vars := by
  have hShown (key : String) (hKey : key ∈ ["GOOS", "GOARCH", "GOBIN"]) := visible?_congr h hKey
  have hDir : (o.config other).gobin = (o.config vars).gobin := by
    rw [config, config, Config.ofLookup, Config.ofLookup, ← hShown "GOBIN" (by decide)]
    rcases hGobin with ⟨dir, hDir⟩ | ⟨dir, hDir⟩
    · rw [hDir]
      rfl
    · rw [visible?_eq_some_iff.mpr hDir]
      rfl
  have hParts (v : Variables) : o.config v =
      ⟨o.goos.getD ((Config.visible? v "GOOS").getD Config.host.goos),
        o.goarch.getD ((Config.visible? v "GOARCH").getD Config.host.goarch),
        (o.config v).gobin, o.tags⟩ := rfl
  rw [hParts other, hParts vars, hDir, hShown "GOOS" (by decide), hShown "GOARCH" (by decide)]

end PlatformOptions

/-! ### Later steps -/

section

variable {σ : Type} (host : Host σ) (readings : σ → Variables)

/-- The machine with other variables. -/
def Host.withVariables : Host σ := { host with lookup := readings }

variable {host readings} (hPath : ∀ machine, readings machine "PATH" = host.lookup machine "PATH")

include hPath

theorem obtain_withVariables (config : Config) (cell : ToolchainCell) :
    cell.obtain (host.withVariables readings) config = cell.obtain host config := by
  have hLocator (machine : σ) : Locator.ofHost (host.withVariables readings) machine config =
      Locator.ofHost host machine config := by
    show (⟨((readings machine "PATH").map fun path => path.splitOn ":").getD [],
      config.gobin⟩ : Locator) = _
    rw [hPath]
    rfl
  cases cell with
  | some outcome => rfl
  | none =>
    rw [ToolchainCell.obtain, ToolchainCell.obtain]
    simp only [hLocator]
    rfl

omit hPath in
theorem query_withVariables (pc : PkgConfig) :
    pc.query (host.withVariables readings) = pc.query host := rfl

omit hPath in
theorem extractFiles_withVariables [Go.Parser] (s : Session) (files : List String)
    (testMode : Bool) :
    s.extractFiles (host.withVariables readings) files testMode =
      s.extractFiles host files testMode := by
  rw [Session.extractFiles, Session.extractFiles]
  refine congrArg (List.mapM · files) (funext fun path => ?_)
  rw [Session.extractFile, Session.extractFile, PkgConfig.flagSource, PkgConfig.flagSource,
    query_withVariables]
  rfl

theorem scanSession_withVariables (config : Config) :
    scanSession (host.withVariables readings) config = scanSession host config := by
  rw [scanSession, scanSession, Session.withToolchain, Session.withToolchain,
    obtain_withVariables hPath]

theorem perform_withVariables [Go.Parser] (config : Config) (request : Request) :
    perform (host.withVariables readings) config request = perform host config request := by
  cases request with
  | scan files testMode =>
    simp only [perform, scanFiles, scanSession_withVariables hPath, extractFiles_withVariables]
  | tools json => simp only [perform, showTools, obtain_withVariables hPath]
  | exec dir capture command args => rfl

/-- The program sees its variables through the configuration and the search path only. -/
theorem run_withVariables [Go.Parser] (args : List String)
    (hConfig : ∀ (o : PlatformOptions) machine,
      o.config (readings machine) = o.config (host.lookup machine)) :
    run (host.withVariables readings) args = run host args := by
  rw [run, run]
  cases Arguments.ofList args with
  | error interruption => cases interruption <;> rfl
  | ok arguments =>
    dsimp only
    refine bind_congr fun machine => ?_
    have hSame : arguments.platform.config ((host.withVariables readings).lookup machine) =
        arguments.platform.config (host.lookup machine) := hConfig arguments.platform machine
    rw [hSame, perform_withVariables hPath]

end

/-- A session for a configuration: for scanning alone, or with the toolchain of a process. -/
inductive Session.For (config : Config) : Session → Prop
  | forScanning : For config (.forScanning config)
  | withToolchain {σ : Type} {host : Host σ} {cell last : ToolchainCell} {t : Trace σ}
    {session : Session} :
      (Session.withToolchain host config cell).result t = (.ok session, last) → For config session

theorem Session.For.tags_eq {config : Config} {session : Session} (h : session.For config) :
    session.tags = .ofConfig config := by
  cases h with
  | forScanning => rfl
  | withToolchain hSession => exact tags_of_withToolchain hSession

/-- **Where the configuration comes from.** -/
theorem configuration_has_layers [Go.Parser] (o : PlatformOptions) (vars : Variables) :
    let config := o.config vars
    -- an option goes before a variable that shows something, and that before the host
    (∀ goos, config.goos = goos ↔ FromLayers o.goos vars "GOOS" Config.host.goos goos) ∧
    (∀ goarch, config.goarch = goarch ↔
      FromLayers o.goarch vars "GOARCH" Config.host.goarch goarch) ∧
    (∀ dir, config.gobin = some dir ↔
      o.gobin = some dir ∨ o.gobin = none ∧ (vars.SetTo "GOBIN" dir ∨
        vars.Silent "GOBIN" ∧ ∃ root, vars.SetTo "GOROOT" root ∧ dir = Path.join root "bin")) ∧
    (config.gobin = none ↔ o.gobin = none ∧ vars.Silent "GOBIN" ∧ vars.Silent "GOROOT") ∧
    config.tags = o.tags ∧
    -- only what these variables show matters, the root only if nothing else gives the directory
    (∀ other, Variables.ShowAlike Config.variables vars other → o.config other = config) ∧
    ((∃ dir, o.gobin = some dir) ∨ (∃ dir, vars.SetTo "GOBIN" dir) →
      ∀ other, Variables.ShowAlike ["GOOS", "GOARCH", "GOBIN"] vars other →
        o.config other = config) ∧
    -- so a variable with nothing but blanks is as good as none
    (∀ key, vars.Silent key → o.config (vars.without key) = config) ∧
    -- sessions have the platform and the tags of the options for their tags
    (∀ session, Session.For config session → ∀ tags : BuildTags,
      (∀ n, n ∈ tags.satisfied ↔ n ∈ [config.goos, config.goarch, "cgo"] ∨ n ∈ o.tags) →
      ∀ e, session.tags.accepts e = tags.accepts e) ∧
    -- the whole program sees no more of its variables, the search path apart
    ∀ (σ : Type) (host : Host σ) (readings : σ → Variables) (args : List String),
      (∀ machine, readings machine "PATH" = host.lookup machine "PATH") →
      (∀ machine, Variables.ShowAlike Config.variables (host.lookup machine) (readings machine)) →
      run (host.withVariables readings) args = run host args := by
  intro config
  refine ⟨fun goos => getD_visible?_eq_iff, fun goarch => getD_visible?_eq_iff,
    fun dir => PlatformOptions.gobin_config_eq_some_iff, PlatformOptions.gobin_config_eq_none_iff,
    rfl,
    fun other h => PlatformOptions.config_congr h,
    fun hGobin other h => PlatformOptions.config_congr_of_gobin hGobin h,
    fun key h => PlatformOptions.config_congr (showAlike_without h _), ?_, ?_⟩
  · intro session hSession tags hTags e
    rw [hSession.tags_eq]
    refine BuildTags.accepts_congr fun n _ => ?_
    rw [satisfied_ofConfig, Config.tagNames, List.mem_append]
    exact (hTags n).symm
  · intro σ host readings args hPath hShow
    exact run_withVariables hPath args fun o machine => PlatformOptions.config_congr (hShow machine)

/-- An option for the architecture and another tag. -/
def netgoOptions : PlatformOptions := ⟨none, some "arm", none, ["netgo"]⟩

/-- Two of the variables show nothing. -/
def rootVariables : Variables := fun key =>
  [("GOOS", " \t"), ("GOARCH", "386"), ("GOBIN", "\u00a0"), ("GOROOT", "/usr/local/go")].lookup key

/-- The system is that of the host, the architecture that of the option, and the tool directory is
below the root.  A session has these and the tag, in whatever order. -/
theorem configuration_has_layers_root :
    let config := netgoOptions.config rootVariables
    rootVariables.Silent "GOOS" ∧ rootVariables.Silent "GOBIN" ∧
      config.goos = "linux" ∧ config.goarch = "arm" ∧
      config.gobin = some "/usr/local/go/bin" ∧
      netgoOptions.config (rootVariables.without "GOBIN") = config ∧
      (Session.forScanning config).tags.accepts "linux,!386,netgo" = true := by
  intro config
  -- no file is scanned here, so any parser will do
  obtain ⟨hGoos, hGoarch, hGobin, -, -, -, -, hBlank, hSessions, -⟩ :=
    @configuration_has_layers ⟨.unreadable⟩ netgoOptions rootVariables
  have hSystem : rootVariables.Silent "GOOS" := by
    rintro value hSet
    obtain rfl : " \t" = value := Option.some.inj hSet
    decide
  have hDir : rootVariables.Silent "GOBIN" := by
    rintro value hSet
    obtain rfl : "\u00a0" = value := Option.some.inj hSet
    decide
  have hLinux : config.goos = "linux" := (hGoos "linux").mpr (.inr ⟨rfl, .inr ⟨hSystem, rfl⟩⟩)
  have hArm : config.goarch = "arm" := (hGoarch "arm").mpr (.inl rfl)
  have hRoot : rootVariables.SetTo "GOROOT" "/usr/local/go" := ⟨rfl, '/', by decide, by decide⟩
  refine ⟨hSystem, hDir, hLinux, hArm, ?_, hBlank "GOBIN" hDir, ?_⟩
  · exact (hGobin _).mpr (.inr ⟨rfl, .inr ⟨hDir, _, hRoot, by decide +kernel⟩⟩)
  · rw [hSessions _ .forScanning ⟨["netgo", "cgo", "arm", "linux"]⟩]
    · decide
    · intro n
      rw [hLinux, hArm]
      simp only [netgoOptions, List.mem_cons, List.not_mem_nil, or_false]
      tauto

end BuildScan
