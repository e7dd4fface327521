import BuildScan.Toolchain

/-!
# What a discovery finds

A discovery looks for each tool once.  `Locator.search` is what looking for a tool gives, and it
decides everything: `discover_cases` says that the first required tool that is missing is reported,
and that otherwise the toolchain has one binding for each tool, in the order in which tools are
looked for.  `discovery_rule` draws the consequences for success and failure, for what callers get
of a tool, and for files that differ in optional tools only.
-/

namespace BuildScan

/-! ### Tools and architectures -/

namespace Tool

/-- All tools, in the order in which they are looked for. -/
def inOrder : List Tool := required ++ optional

/-- Each tool is looked for once. -/
theorem filter_inOrder (tool : Tool) : (inOrder.filter fun other => other = tool) = [tool] := by
  cases tool <;> rfl

theorem mem_optional_of_notMem_required {tool : Tool} (h : tool ∉ required) : tool ∈ optional := by
  have hOnce : tool ∈ inOrder.filter fun other => other = tool := by
    rw [filter_inOrder]
    exact List.mem_singleton_self tool
  exact (List.mem_append.mp (List.mem_filter.mp hOnce).1).resolve_left h

end Tool

namespace Config

/-- The architectures that have tools. -/
def architectures : List String := ["amd64", "386", "arm", "arm64"]

/-- The error for an architecture that has none. -/
def unsupported (config : Config) : BuildError :=
  .config s!"unsupported architecture '{config.goarch}'"

theorem archLetter_of_notMem {config : Config} (h : config.goarch ∉ architectures) :
    config.archLetter = .error config.unsupported := by
  simp only [architectures, List.mem_cons, List.not_mem_nil, or_false, not_or] at h
  obtain ⟨hAmd64, h386, hArm, hArm64⟩ := h
  rw [archLetter]
  split <;> first | contradiction | rfl

theorem exists_archLetter {config : Config} (h : config.goarch ∈ architectures) :
    ∃ arch, config.archLetter = .ok arch := by
  simp only [architectures, List.mem_cons, List.not_mem_nil, or_false] at h
  rw [archLetter]
  rcases h with h | h | h | h <;> rw [h] <;> exact ⟨_, rfl⟩

end Config

/-- The error of a search that finds nothing under a name. -/
def BuildError.notOnPath (name : String) : BuildError :=
  .toolNotFound name "not found in PATH or tool directory"

/-! ### Searches -/

namespace Locator

variable (locator : Locator) (files : FileProbe) (arch : Char) (tool : Tool)

/-- What looking for a tool of an architecture gives. -/
def search : Except BuildError String := locator.find files tool (tool.binaryName arch)

/-- The tool is found. -/
def Finds : Prop := ∃ path, locator.search files arch tool = .ok path

/-- What a toolchain keeps of the search for a tool. -/
def bindingOf : ToolBinding :=
  ⟨tool, tool.binaryName arch, (locator.search files arch tool).toOption⟩

/-- Of some tools, this is the first that is not found. -/
def FirstMissing (tools : List Tool) : Prop :=
  ∃ before behind, tools = before ++ tool :: behind ∧
    (∀ other ∈ before, locator.Finds files arch other) ∧ ¬ locator.Finds files arch tool

variable {locator files arch tool}

theorem not_finds_iff :
    ¬ locator.Finds files arch tool ↔
      locator.search files arch tool = .error (.notOnPath (tool.binaryName arch)) := by
  rw [Finds, search, find]
  split
  · simp
  · simp [BuildError.notOnPath]

theorem search_eq_ok_iff {path : String} :
    locator.search files arch tool = .ok path ↔
      (locator.search files arch tool).toOption = some path := by
  cases locator.search files arch tool <;> simp [Except.toOption]

theorem not_finds_of_toOption (h : (locator.search files arch tool).toOption = none) :
    ¬ locator.Finds files arch tool := by
  rintro ⟨path, hPath⟩
  rw [hPath] at h
  cases h

theorem FirstMissing.cons {other : Tool} {tools : List Tool}
    (hFound : locator.Finds files arch other) (h : locator.FirstMissing files arch tool tools) :
    locator.FirstMissing files arch tool (other :: tools) := by
  obtain ⟨before, behind, rfl, hBefore, hMissing⟩ := h
  exact ⟨other :: before, behind, rfl, List.forall_mem_cons.mpr ⟨hFound, hBefore⟩, hMissing⟩

theorem FirstMissing.not_forall {tools : List Tool}
    (h : locator.FirstMissing files arch tool tools) :
    ¬ ∀ other ∈ tools, locator.Finds files arch other := by
  obtain ⟨before, behind, rfl, -, hMissing⟩ := h
  exact fun hAll => hMissing (hAll tool (by simp))

end Locator

namespace Toolchain

variable {locator : Locator} {files files' : FileProbe} {arch : Char} {config : Config}

/-! ### The toolchain of a discovery -/

/-- The toolchain when no required tool is missing. -/
def ofSearches (locator : Locator) (files : FileProbe) (arch : Char) : Toolchain :=
  ⟨Tool.inOrder.map (locator.bindingOf files arch)⟩

theorem filter_ofSearches (tool : Tool) :
    ((ofSearches locator files arch).bindings.filter fun b => b.tool = tool) =
      [locator.bindingOf files arch tool] := by
  rw [ofSearches, List.filter_map]
  exact congrArg (List.map _) (Tool.filter_inOrder tool)

theorem binding?_ofSearches (tool : Tool) :
    (ofSearches locator files arch).binding? tool = some (locator.bindingOf files arch tool) := by
  rw [binding?, ← List.head?_filter, filter_ofSearches]
  rfl

theorem path_ofSearches_of_ok {tool : Tool} {found : String}
    (h : locator.search files arch tool = .ok found) :
    (ofSearches locator files arch).path tool = .ok found := by
  rw [path, binding?_ofSearches, Locator.bindingOf, h]
  rfl

theorem path_ofSearches_of_not_finds {tool : Tool} (h : ¬ locator.Finds files arch tool) :
    (ofSearches locator files arch).path tool =
      .error (.toolNotFound (tool.binaryName arch) "not discovered") := by
  rw [path, binding?_ofSearches, Locator.bindingOf, Locator.not_finds_iff.mp h]
  rfl

theorem path_ofSearches_eq_ok_iff {tool : Tool} {found : String} :
    (ofSearches locator files arch).path tool = .ok found ↔
      locator.search files arch tool = .ok found := by
  refine ⟨fun h => ?_, path_ofSearches_of_ok⟩
  by_cases hFinds : locator.Finds files arch tool
  · obtain ⟨other, hOther⟩ := hFinds
    rw [← h, path_ofSearches_of_ok hOther, hOther]
  · rw [path_ofSearches_of_not_finds hFinds] at h
    cases h

theorem mem_optional_of_path_eq_none {b : ToolBinding}
    (hFound : ∀ tool ∈ Tool.required, locator.Finds files arch tool)
    (hMem : b ∈ (ofSearches locator files arch).bindings) (hPath : b.path = none) :
    b.tool ∈ Tool.optional := by
  obtain ⟨tool, -, rfl⟩ := List.mem_map.mp hMem
  refine Tool.mem_optional_of_notMem_required fun hRequired => ?_
  obtain ⟨path, hSearch⟩ := hFound tool hRequired
  rw [Locator.bindingOf, hSearch] at hPath
  cases hPath

/-- The required tools of the toolchain depend on the searches for them alone. -/
theorem filter_isRequired_ofSearches
    (hSame : ∀ tool ∈ Tool.required,
      locator.search files' arch tool = locator.search files arch tool) :
    ((ofSearches locator files' arch).bindings.filter fun b => b.tool.isRequired) =
      (ofSearches locator files arch).bindings.filter fun b => b.tool.isRequired := by
  have hRequired (probe : FileProbe) :
      ((ofSearches locator probe arch).bindings.filter fun b => b.tool.isRequired) =
        Tool.required.map (locator.bindingOf probe arch) := by
    rw [ofSearches, List.filter_map]
    rfl
  rw [hRequired, hRequired]
  refine List.map_congr_left fun tool hMem => ?_
  rw [Locator.bindingOf, hSame tool hMem, Locator.bindingOf]

/-! ### The search for all tools -/

/-- Required tools are all bound, or the first one that is missing is reported. -/
theorem bindRequired_cases (locator : Locator) (files : FileProbe) (arch : Char)
    (tools : List Tool) :
    ((∀ tool ∈ tools, locator.Finds files arch tool) ∧
        (bindRequired locator files arch tools).1 =
          .ok (tools.map (locator.bindingOf files arch))) ∨
      ∃ tool, locator.FirstMissing files arch tool tools ∧
        (bindRequired locator files arch tools).1 = .error (.notOnPath (tool.binaryName arch)) := by
  induction tools with
  | nil => exact .inl ⟨List.forall_mem_nil _, rfl⟩
  | cons tool rest ih =>
    by_cases hFinds : locator.Finds files arch tool
    · obtain ⟨path, hSearch⟩ := hFinds
      have hStep : (bindRequired locator files arch (tool :: rest)).1 =
          (bindRequired locator files arch rest).1.map
            (locator.bindingOf files arch tool :: ·) := by
        have hFind : locator.find files tool (tool.binaryName arch) = .ok path := hSearch
        rw [bindRequired, hFind, Locator.bindingOf, hSearch]
        rfl
      rcases ih with ⟨hRest, hOk⟩ | ⟨missing, hFirst, hError⟩
      · exact .inl ⟨List.forall_mem_cons.mpr ⟨⟨path, hSearch⟩, hRest⟩, by rw [hStep, hOk]; rfl⟩
      · exact .inr ⟨missing, hFirst.cons ⟨path, hSearch⟩, by rw [hStep, hError]; rfl⟩
    · have hFind : locator.find files tool (tool.binaryName arch) =
          .error (.notOnPath (tool.binaryName arch)) := Locator.not_finds_iff.mp hFinds
      refine .inr ⟨tool, ⟨[], rest, rfl, List.forall_mem_nil _, hFinds⟩, ?_⟩
      rw [bindRequired, hFind]

/-- The optional tools have no part in the search for the required ones. -/
theorem bindRequired_congr {tools : List Tool}
    (hSame : ∀ tool ∈ tools, locator.search files' arch tool = locator.search files arch tool) :
    bindRequired locator files' arch tools = bindRequired locator files arch tools := by
  induction tools with
  | nil => rfl
  | cons tool rest ih =>
    obtain ⟨hFirst, hRest⟩ := List.forall_mem_cons.mp hSame
    rw [Locator.search, Locator.search] at hFirst
    rw [bindRequired, bindRequired, hFirst, ih hRest]

theorem bindOptional_fst (tool : Tool) :
    (bindOptional locator files arch tool).1 = locator.bindingOf files arch tool := by
  rw [bindOptional, Locator.bindingOf, Locator.search]
  cases locator.find files tool (tool.binaryName arch) with
  | ok path => rfl
  | error e => rfl

/-- The optional tools are bound whatever becomes of their searches. -/
theorem discover_fst (hArch : config.archLetter = .ok arch) :
    (discover config locator files).1 =
      (bindRequired locator files arch Tool.required).1.map fun required =>
        ⟨required ++ Tool.optional.map (locator.bindingOf files arch)⟩ := by
  have hOptional : (Tool.optional.map (bindOptional locator files arch)).map Prod.fst =
      Tool.optional.map (locator.bindingOf files arch) := by
    rw [List.map_map]
    exact List.map_congr_left fun tool _ => bindOptional_fst tool
  rw [discover, hArch]
  rcases hBound : bindRequired locator files arch Tool.required with ⟨outcome, log⟩
  cases outcome with
  | error e => simp only [hBound, Except.map]
  | ok required => simp only [hBound, hOptional, Except.map]

theorem discover_eq_error_iff (hArch : config.archLetter = .ok arch) {e : BuildError} :
    (discover config locator files).1 = .error e ↔
      (bindRequired locator files arch Tool.required).1 = .error e := by
  rw [discover_fst hArch]
  cases (bindRequired locator files arch Tool.required).1 with
  | error d => simp only [Except.map, Except.error.injEq]
  | ok required => simp only [Except.map, reduceCtorEq]

/-- A discovery finds all required tools, or reports the first one that is missing. -/
theorem discover_cases (hArch : config.archLetter = .ok arch) (locator : Locator)
    (files : FileProbe) :
    ((∀ tool ∈ Tool.required, locator.Finds files arch tool) ∧
        (discover config locator files).1 = .ok (ofSearches locator files arch)) ∨
      ∃ tool, locator.FirstMissing files arch tool Tool.required ∧
        (discover config locator files).1 = .error (.notOnPath (tool.binaryName arch)) := by
  rcases bindRequired_cases locator files arch Tool.required with
    ⟨hFound, hOk⟩ | ⟨tool, hFirst, hError⟩
  · refine .inl ⟨hFound, ?_⟩
    rw [discover_fst hArch, hOk, ofSearches, Tool.inOrder, List.map_append]
    rfl
  · exact .inr ⟨tool, hFirst, (discover_eq_error_iff hArch).mpr hError⟩

theorem discover_eq_ok_iff (hArch : config.archLetter = .ok arch) {t : Toolchain} :
    (discover config locator files).1 = .ok t ↔
      (∀ tool ∈ Tool.required, locator.Finds files arch tool) ∧
        t = ofSearches locator files arch := by
  rcases discover_cases hArch locator files with ⟨hFound, hOk⟩ | ⟨tool, hFirst, hError⟩
  · rw [hOk]
    constructor
    · intro h
      cases h
      exact ⟨hFound, rfl⟩
    · rintro ⟨-, rfl⟩
      rfl
  · rw [hError]
    exact ⟨fun h => (nomatch h), fun h => absurd h.1 hFirst.not_forall⟩

theorem discover_eq_error {e : BuildError} (h : (discover config locator files).1 = .error e) :
    (∃ name, e = .notOnPath name) ∨ ∃ message, e = .config message := by
  by_cases hKnown : config.goarch ∈ Config.architectures
  · obtain ⟨arch, hArch⟩ := Config.exists_archLetter hKnown
    rcases discover_cases hArch locator files with
      ⟨-, hOk⟩ | ⟨tool, -, hError⟩
    · rw [hOk] at h
      cases h
    · rw [hError] at h
      cases h
      exact .inl ⟨_, rfl⟩
  · rw [discover, Config.archLetter_of_notMem hKnown] at h
    cases h
    exact .inr ⟨_, rfl⟩

/-- **The rule of discovery.** -/
theorem discovery_rule (config : Config) (locator : Locator) :
    -- an architecture without tools is refused whatever the files are
    (config.goarch ∉ Config.architectures →
      ∀ files, discover config locator files = (.error config.unsupported, [])) ∧
    (config.goarch ∈ Config.architectures → ∃ arch, config.archLetter = .ok arch ∧ ∀ files,
      -- a discovery succeeds when all required tools are found
      ((∃ t, (discover config locator files).1 = .ok t) ↔
        ∀ tool ∈ Tool.required, locator.Finds files arch tool) ∧
      -- it then binds each tool once, and callers get what was found
      (∀ t, (discover config locator files).1 = .ok t →
        t.bindings = Tool.inOrder.map (locator.bindingOf files arch) ∧
        (∀ tool, (t.bindings.filter fun b => b.tool = tool) =
          [locator.bindingOf files arch tool]) ∧
        (∀ b ∈ t.bindings, b.path = none → b.tool ∈ Tool.optional) ∧
        (∀ tool path, t.path tool = .ok path ↔ locator.search files arch tool = .ok path) ∧
        ∀ tool, ¬ locator.Finds files arch tool →
          t.path tool = .error (.toolNotFound (tool.binaryName arch) "not discovered")) ∧
      -- it fails for the first required tool that is missing
      (∀ e, (discover config locator files).1 = .error e →
        ∃ tool, locator.FirstMissing files arch tool Tool.required ∧
          e = .notOnPath (tool.binaryName arch)) ∧
      -- files that differ in optional tools only make no difference to the required ones
      ∀ files', (∀ tool ∈ Tool.required,
          locator.search files' arch tool = locator.search files arch tool) →
        (∀ e, (discover config locator files').1 = .error e ↔
          (discover config locator files).1 = .error e) ∧
        ∀ t t', (discover config locator files).1 = .ok t →
          (discover config locator files').1 = .ok t' →
          (t'.bindings.filter fun b => b.tool.isRequired) =
            t.bindings.filter fun b => b.tool.isRequired) := by
  refine ⟨fun hUnknown files => ?_, fun hKnown => ?_⟩
  · rw [discover, Config.archLetter_of_notMem hUnknown]
  obtain ⟨arch, hArch⟩ := Config.exists_archLetter hKnown
  refine ⟨arch, hArch, fun files => ⟨⟨?_, ?_⟩, ?_, ?_, ?_⟩⟩
  · rintro ⟨t, hOk⟩
    exact ((discover_eq_ok_iff hArch).mp hOk).1
  · intro hFound
    exact ⟨_, (discover_eq_ok_iff hArch).mpr ⟨hFound, rfl⟩⟩
  · intro t hOk
    obtain ⟨hFound, rfl⟩ := (discover_eq_ok_iff hArch).mp hOk
    exact ⟨rfl, filter_ofSearches, fun b => mem_optional_of_path_eq_none hFound,
      fun tool path => path_ofSearches_eq_ok_iff, fun tool => path_ofSearches_of_not_finds⟩
  · intro e hError
    rcases discover_cases hArch locator files with ⟨-, hOk⟩ | ⟨tool, hFirst, hReport⟩
    · rw [hOk] at hError
      cases hError
    · rw [hReport] at hError
      cases hError
      exact ⟨tool, hFirst, rfl⟩
  · intro files' hSame
    refine ⟨fun e => ?_, fun t t' hOk hOk' => ?_⟩
    · rw [discover_eq_error_iff hArch, discover_eq_error_iff hArch, bindRequired_congr hSame]
    · obtain ⟨-, rfl⟩ := (discover_eq_ok_iff hArch).mp hOk
      obtain ⟨-, rfl⟩ := (discover_eq_ok_iff hArch).mp hOk'
      exact filter_isRequired_ofSearches hSame

/-- Files among which those of a list are executable. -/
def filesOf (paths : List String) : FileProbe := ⟨fun path => paths.contains path, fun _ => false⟩

/-- With and without a C compiler beside the required tools a discovery finds the same required
tools, with the first of them alone it fails, and for another architecture it fails at once. -/
theorem discovery_rule_bin :
    let locator : Locator := ⟨["/bin"], none⟩
    let amd64 : Config := ⟨"linux", "amd64", none, []⟩
    let sparc : Config := ⟨"linux", "sparc", none, []⟩
    let bare := filesOf ["/bin/6g", "/bin/6a", "/bin/6l", "/bin/gopack"]
    let full := filesOf ["/bin/6g", "/bin/6a", "/bin/6l", "/bin/gopack", "/bin/gcc"]
    let broken := filesOf ["/bin/6g"]
    sparc.goarch ∉ Config.architectures ∧
      discover sparc locator full = (.error sparc.unsupported, []) ∧
      amd64.goarch ∈ Config.architectures ∧
      (∀ tool ∈ Tool.required, locator.search full '6' tool = locator.search bare '6' tool) ∧
      (∃ t t', (discover amd64 locator bare).1 = .ok t ∧ (discover amd64 locator full).1 = .ok t' ∧
        t.path .compiler = .ok "/bin/6g" ∧ t'.path .gcc = .ok "/bin/gcc" ∧
        ¬ locator.Finds bare '6' .gcc ∧
        t.path .gcc = .error (.toolNotFound "gcc" "not discovered") ∧
        (t'.bindings.filter fun b => b.tool.isRequired) =
          t.bindings.filter fun b => b.tool.isRequired) ∧
      ∃ e tool, (discover amd64 locator broken).1 = .error e ∧
        locator.FirstMissing broken '6' tool Tool.required ∧
        e = .notOnPath (tool.binaryName '6') := by
  intro locator amd64 sparc bare full broken
  have hUnknown : sparc.goarch ∉ Config.architectures := by decide
  have hKnown : amd64.goarch ∈ Config.architectures := by decide
  have hBare : ∀ tool ∈ Tool.required,
      locator.search bare '6' tool = .ok ("/bin/" ++ tool.binaryName '6') := by
    simp only [Locator.search_eq_ok_iff]
    decide +kernel
  have hFull : ∀ tool ∈ Tool.required,
      locator.search full '6' tool = .ok ("/bin/" ++ tool.binaryName '6') := by
    simp only [Locator.search_eq_ok_iff]
    decide +kernel
  have hSame :
      ∀ tool ∈ Tool.required, locator.search full '6' tool = locator.search bare '6' tool :=
    fun tool hTool => (hFull tool hTool).trans (hBare tool hTool).symm
  have hGcc : locator.search full '6' .gcc = .ok "/bin/gcc" :=
    Locator.search_eq_ok_iff.mpr (by decide +kernel)
  have hNoGcc : ¬ locator.Finds bare '6' .gcc := Locator.not_finds_of_toOption (by decide +kernel)
  have hNoAssembler : ¬ locator.Finds broken '6' .assembler :=
    Locator.not_finds_of_toOption (by decide +kernel)
  obtain ⟨arch, hArch, hRule⟩ := (discovery_rule amd64 locator).2 hKnown
  obtain rfl : '6' = arch := Except.ok.inj ((rfl : amd64.archLetter = .ok '6').symm.trans hArch)
  obtain ⟨hOk, hBinds, -, hOther⟩ := hRule bare
  obtain ⟨hOk', hBinds', -, -⟩ := hRule full
  obtain ⟨hOkBroken, -, hReports, -⟩ := hRule broken
  obtain ⟨t, ht⟩ := hOk.mpr fun tool hTool => ⟨_, hBare tool hTool⟩
  obtain ⟨t', ht'⟩ := hOk'.mpr fun tool hTool => ⟨_, hFull tool hTool⟩
  obtain ⟨-, -, -, hPath, hNoPath⟩ := hBinds t ht
  obtain ⟨-, -, -, hPath', -⟩ := hBinds' t' ht'
  refine ⟨hUnknown, (discovery_rule sparc locator).1 hUnknown full, hKnown, hSame, ?_, ?_⟩
  · exact ⟨t, t', ht, ht', (hPath _ _).mpr (hBare .compiler (by decide)), (hPath' _ _).mpr hGcc,
      hNoGcc, hNoPath _ hNoGcc, (hOther full hSame).2 t t' ht ht'⟩
  · cases hOutcome : (discover amd64 locator broken).1 with
    | ok t => exact absurd (hOkBroken.mp ⟨t, hOutcome⟩ .assembler (by decide)) hNoAssembler
    | error e =>
      obtain ⟨tool, hFirst, hReport⟩ := hReports e hOutcome
      exact ⟨e, tool, rfl, hFirst, hReport⟩

end Toolchain

end BuildScan
