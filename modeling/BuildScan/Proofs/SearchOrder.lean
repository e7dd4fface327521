import BuildScan.Proofs.Discovery

/-!
# The order of a search

A search for a tool takes the first directory of the search path in which the file is executable
(`FirstDir`), and only where no directory has it (`NoDir`) what the tool directory offers
(`Locator.Offers`).  `Locator.find_eq_ok_iff` and `Locator.find_eq_error_iff` say so.

A search path in two parts is decided by the first part, unless that has nothing
(`Locator.find_append`).  So directories behind a search path never hide anything that was found on
it; they only come before the tool directory.  `search_order` says what this means for a discovery.
-/

namespace BuildScan

/-! ### Directories -/

/-- Of some directories this is the first in which the file is executable. -/
def FirstDir (files : FileProbe) (name : String) (dirs : List String) (dir : String) : Prop :=
  ∃ before behind, dirs = before ++ dir :: behind ∧
    (∀ other ∈ before, files.isExecutable (Path.join other name) = false) ∧
    files.isExecutable (Path.join dir name) = true

/-- In none of the directories the file is executable. -/
def NoDir (files : FileProbe) (name : String) (dirs : List String) : Prop :=
  ∀ dir ∈ dirs, files.isExecutable (Path.join dir name) = false

variable {files : FileProbe} {name : String} {dirs more : List String}

theorem firstDir_or_noDir (files : FileProbe) (name : String) (dirs : List String) :
    (∃ dir, FirstDir files name dirs dir) ∨ NoDir files name dirs := by
  induction dirs with
  | nil => exact .inr (List.forall_mem_nil _)
  | cons dir dirs ih =>
    cases hDir : files.isExecutable (Path.join dir name) with
    | true => exact .inl ⟨dir, [], dirs, rfl, List.forall_mem_nil _, hDir⟩
    | false =>
      rcases ih with ⟨first, before, behind, rfl, hBefore, hFirst⟩ | hNone
      · exact .inl ⟨first, dir :: before, behind, rfl, List.forall_mem_cons.mpr ⟨hDir, hBefore⟩,
          hFirst⟩
      · exact .inr (List.forall_mem_cons.mpr ⟨hDir, hNone⟩)

theorem FirstDir.not_noDir {dir : String} (h : FirstDir files name dirs dir) :
    ¬ NoDir files name dirs := by
  obtain ⟨before, behind, rfl, -, hFirst⟩ := h
  intro hNone
  rw [hNone dir (by simp)] at hFirst
  cases hFirst

theorem FirstDir.append {dir : String} (h : FirstDir files name dirs dir) (more : List String) :
    FirstDir files name (dirs ++ more) dir := by
  obtain ⟨before, behind, rfl, hBefore, hFirst⟩ := h
  exact ⟨before, behind ++ more, by rw [List.append_assoc, List.cons_append], hBefore, hFirst⟩

theorem NoDir.firstDir_append {dir : String} (hNone : NoDir files name dirs)
    (h : FirstDir files name more dir) :
    FirstDir files name (dirs ++ more) dir := by
  obtain ⟨before, behind, rfl, hBefore, hFirst⟩ := h
  refine ⟨dirs ++ before, behind, (List.append_assoc _ _ _).symm, ?_, hFirst⟩
  exact List.forall_mem_append.mpr ⟨hNone, hBefore⟩

theorem NoDir.append (hNone : NoDir files name dirs) (h : NoDir files name more) :
    NoDir files name (dirs ++ more) := List.forall_mem_append.mpr ⟨hNone, h⟩

/-! ### Searches -/

/-- The tools that are not taken from the tool directory. -/
def Tool.ofHost : List Tool := [.gcc, .protoc, .pkgConfig, .copy]

theorem Tool.searchesGobin_iff (tool : Tool) : tool.searchesGobin = true ↔ tool ∉ ofHost := by
  cases tool <;> decide

namespace Locator

/-- The tool directory has something of that name, and the tool may be taken from there. -/
def Offers (files : FileProbe) (gobin : Option String) (tool : Tool) (name path : String) : Prop :=
  tool ∉ Tool.ofHost ∧ ∃ dir, gobin = some dir ∧ path = Path.join dir name ∧
    files.isPresent path = true

variable {locator : Locator} {gobin : Option String} {tool : Tool} {dir path : String}

theorem onPath?_of_firstDir (h : FirstDir files name locator.searchPath dir) :
    locator.onPath? files name = some (Path.join dir name) := by
  obtain ⟨before, behind, hSplit, hBefore, hFirst⟩ := h
  rw [onPath?, hSplit, List.map_append, List.map_cons, List.find?_eq_some_iff_append]
  refine ⟨hFirst, before.map (Path.join · name), behind.map (Path.join · name), rfl, ?_⟩
  intro candidate hCandidate
  obtain ⟨other, hOther, rfl⟩ := List.mem_map.mp hCandidate
  rw [hBefore other hOther]
  rfl

theorem onPath?_of_noDir (h : NoDir files name locator.searchPath) :
    locator.onPath? files name = none := by
  rw [onPath?, List.find?_eq_none]
  intro candidate hCandidate
  obtain ⟨other, hOther, rfl⟩ := List.mem_map.mp hCandidate
  rw [h other hOther]
  exact Bool.false_ne_true

theorem inGobin?_eq_some_iff : locator.inGobin? files name = some path ↔
    ∃ dir, locator.gobin = some dir ∧ path = Path.join dir name ∧ files.isPresent path = true := by
  rw [inGobin?, Option.filter_eq_some_iff, Option.map_eq_some_iff]
  constructor
  · rintro ⟨⟨dir, hGobin, rfl⟩, hPresent⟩
    exact ⟨dir, hGobin, rfl, hPresent⟩
  · rintro ⟨dir, hGobin, rfl, hPresent⟩
    exact ⟨⟨dir, hGobin, rfl⟩, hPresent⟩

theorem find_of_firstDir (h : FirstDir files name locator.searchPath dir) (tool : Tool) :
    locator.find files tool name = .ok (Path.join dir name) := by
  rw [find, onPath?_of_firstDir h, Option.some_or]

theorem find_of_offers (hNone : NoDir files name locator.searchPath)
    (h : Offers files locator.gobin tool name path) : locator.find files tool name = .ok path := by
  rw [find, onPath?_of_noDir hNone, Option.none_or, if_pos (tool.searchesGobin_iff.mpr h.1),
    inGobin?_eq_some_iff.mpr h.2]

theorem find_of_not_offers (hNone : NoDir files name locator.searchPath)
    (h : ∀ path, ¬ Offers files locator.gobin tool name path) :
    locator.find files tool name = .error (.notOnPath name) := by
  have hGobin : (if tool.searchesGobin then locator.inGobin? files name else none) = none := by
    by_cases hSearches : tool.searchesGobin = true
    · rw [if_pos hSearches, Option.eq_none_iff_forall_ne_some]
      exact fun path hPath =>
        h path ⟨tool.searchesGobin_iff.mp hSearches, inGobin?_eq_some_iff.mp hPath⟩
    · rw [if_neg hSearches]
  rw [find, onPath?_of_noDir hNone, Option.none_or, hGobin]
  rfl

theorem find_cases (locator : Locator) (files : FileProbe) (tool : Tool) (name : String) :
    (∃ dir, FirstDir files name locator.searchPath dir ∧
        locator.find files tool name = .ok (Path.join dir name)) ∨
      NoDir files name locator.searchPath ∧
        ((∃ path, Offers files locator.gobin tool name path ∧
          locator.find files tool name = .ok path) ∨
          (∀ path, ¬ Offers files locator.gobin tool name path) ∧
            locator.find files tool name = .error (.notOnPath name)) := by
  rcases firstDir_or_noDir files name locator.searchPath with ⟨dir, hFirst⟩ | hNone
  · exact .inl ⟨dir, hFirst, find_of_firstDir hFirst tool⟩
  · by_cases hOffers : ∃ path, Offers files locator.gobin tool name path
    · obtain ⟨path, hPath⟩ := hOffers
      exact .inr ⟨hNone, .inl ⟨path, hPath, find_of_offers hNone hPath⟩⟩
    · rw [not_exists] at hOffers
      exact .inr ⟨hNone, .inr ⟨hOffers, find_of_not_offers hNone hOffers⟩⟩

theorem find_eq_ok_iff : locator.find files tool name = .ok path ↔
    (∃ dir, FirstDir files name locator.searchPath dir ∧ path = Path.join dir name) ∨
      NoDir files name locator.searchPath ∧ Offers files locator.gobin tool name path := by
  constructor
  · intro h
    rcases find_cases locator files tool name with
      ⟨dir, hFirst, hFind⟩ | ⟨hNone, ⟨other, hOffers, hFind⟩ | ⟨-, hFind⟩⟩ <;>
      rw [hFind] at h <;> cases h
    · exact .inl ⟨dir, hFirst, rfl⟩
    · exact .inr ⟨hNone, hOffers⟩
  · rintro (⟨dir, hFirst, rfl⟩ | ⟨hNone, hOffers⟩)
    · exact find_of_firstDir hFirst tool
    · exact find_of_offers hNone hOffers

theorem find_eq_error_iff {e : BuildError} : locator.find files tool name = .error e ↔
    NoDir files name locator.searchPath ∧ (∀ path, ¬ Offers files locator.gobin tool name path) ∧
      e = .notOnPath name := by
  constructor
  · intro h
    rcases find_cases locator files tool name with
      ⟨dir, hFirst, hFind⟩ | ⟨hNone, ⟨other, hOffers, hFind⟩ | ⟨hOffers, hFind⟩⟩ <;>
      rw [hFind] at h <;> cases h
    exact ⟨hNone, hOffers, rfl⟩
  · rintro ⟨hNone, hOffers, rfl⟩
    exact find_of_not_offers hNone hOffers

/-- The first part of a search path decides, unless it has nothing. -/
theorem find_append (files : FileProbe) (gobin : Option String) (tool : Tool) (name : String)
    (dirs more : List String) :
    (∃ dir, FirstDir files name dirs dir ∧
        (⟨dirs ++ more, gobin⟩ : Locator).find files tool name = .ok (Path.join dir name)) ∨
      NoDir files name dirs ∧ (⟨dirs ++ more, gobin⟩ : Locator).find files tool name =
        (⟨more, gobin⟩ : Locator).find files tool name := by
  rcases firstDir_or_noDir files name dirs with ⟨dir, hFirst⟩ | hNone
  · have hWhole : FirstDir files name (⟨dirs ++ more, gobin⟩ : Locator).searchPath dir :=
      hFirst.append more
    exact .inl ⟨dir, hFirst, find_of_firstDir hWhole tool⟩
  · have hSame : (⟨dirs ++ more, gobin⟩ : Locator).onPath? files name =
        (⟨more, gobin⟩ : Locator).onPath? files name := by
      have hDirs : (⟨dirs, gobin⟩ : Locator).onPath? files name = none := onPath?_of_noDir hNone
      rw [onPath?] at hDirs
      rw [onPath?, List.map_append, List.find?_append, hDirs, Option.none_or, onPath?]
    refine .inr ⟨hNone, ?_⟩
    rw [find, find, hSame]
    rfl

/-- The locator with further directories behind its search path. -/
def appending (locator : Locator) (more : List String) : Locator :=
  { locator with searchPath := locator.searchPath ++ more }

/-- What becomes of a path that was found, when there are further directories: found on the search
path it stays, and found in the tool directory it stays unless one of the further directories has
the file. -/
def Keeps (locator : Locator) (files : FileProbe) (more : List String) (tool : Tool)
    (name path path' : String) : Prop :=
  (∃ dir, FirstDir files name locator.searchPath dir ∧ path = Path.join dir name ∧ path' = path) ∨
    NoDir files name locator.searchPath ∧ Offers files locator.gobin tool name path ∧
      (NoDir files name more ∧ path' = path ∨
        ∃ dir, FirstDir files name more dir ∧ path' = Path.join dir name)

theorem exists_find_appending (h : locator.find files tool name = .ok path) (more : List String) :
    ∃ path', (locator.appending more).find files tool name = .ok path' ∧
      locator.Keeps files more tool name path path' := by
  rcases find_eq_ok_iff.mp h with ⟨dir, hFirst, rfl⟩ | ⟨hNone, hOffers⟩
  · have hWhole : FirstDir files name (locator.appending more).searchPath dir := hFirst.append more
    exact ⟨_, find_of_firstDir hWhole tool, .inl ⟨dir, hFirst, rfl, rfl⟩⟩
  · rcases firstDir_or_noDir files name more with ⟨dir, hFirst⟩ | hMore
    · have hWhole : FirstDir files name (locator.appending more).searchPath dir :=
        hNone.firstDir_append hFirst
      exact ⟨_, find_of_firstDir hWhole tool, .inr ⟨hNone, hOffers, .inr ⟨dir, hFirst, rfl⟩⟩⟩
    · have hWhole : NoDir files name (locator.appending more).searchPath := hNone.append hMore
      exact ⟨_, find_of_offers hWhole hOffers, .inr ⟨hNone, hOffers, .inl ⟨hMore, rfl⟩⟩⟩

end Locator

/-! ### Discoveries -/

namespace Toolchain

theorem exists_archLetter_of_discover {config : Config} {locator : Locator} {t : Toolchain}
    (h : (discover config locator files).1 = .ok t) : ∃ arch, config.archLetter = .ok arch := by
  by_cases hKnown : config.goarch ∈ Config.architectures
  · exact Config.exists_archLetter hKnown
  · rw [discover, Config.archLetter_of_notMem hKnown] at h
    cases h

/-- Further directories behind a search path let no discovery fail, and each tool that was found is
found. -/
theorem exists_discover_appending {config : Config} {locator : Locator} {t : Toolchain}
    {arch : Char}
    (hArch : config.archLetter = .ok arch) (h : (discover config locator files).1 = .ok t)
    (more : List String) :
    ∃ t', (discover config (locator.appending more) files).1 = .ok t' ∧
      (t'.bindings.map fun b => (b.tool, b.name)) = (t.bindings.map fun b => (b.tool, b.name)) ∧
      ∀ tool path, t.path tool = .ok path → ∃ path', t'.path tool = .ok path' ∧
        locator.Keeps files more tool (tool.binaryName arch) path path' := by
  obtain ⟨hFound, rfl⟩ := (discover_eq_ok_iff hArch).mp h
  have hFound' : ∀ tool ∈ Tool.required, (locator.appending more).Finds files arch tool := by
    intro tool hTool
    obtain ⟨path, hPath⟩ := hFound tool hTool
    obtain ⟨path', hPath', -⟩ := Locator.exists_find_appending hPath more
    exact ⟨path', hPath'⟩
  refine ⟨_, (discover_eq_ok_iff hArch).mpr ⟨hFound', rfl⟩, ?_, fun tool path hPath => ?_⟩
  · rw [ofSearches, ofSearches, List.map_map, List.map_map]
    rfl
  · obtain ⟨path', hPath', hKeeps⟩ :=
      Locator.exists_find_appending (path_ofSearches_eq_ok_iff.mp hPath) more
    exact ⟨path', path_ofSearches_of_ok hPath', hKeeps⟩

/-- **The order of a search.** -/
theorem search_order :
    -- a search takes the first directory that has the file, then the tool directory, or it fails
    (∀ (locator : Locator) (files : FileProbe) (tool : Tool) (name : String),
      (∀ path, locator.find files tool name = .ok path ↔
        (∃ dir, FirstDir files name locator.searchPath dir ∧ path = Path.join dir name) ∨
          NoDir files name locator.searchPath ∧ Locator.Offers files locator.gobin tool name path) ∧
      ∀ e, locator.find files tool name = .error e ↔
        NoDir files name locator.searchPath ∧
          (∀ path, ¬ Locator.Offers files locator.gobin tool name path) ∧ e = .notOnPath name) ∧
    -- of two search paths the first one decides, unless it has nothing
    (∀ (files : FileProbe) (gobin : Option String) (tool : Tool) (name : String)
      (dirs more : List String),
      (∃ dir, FirstDir files name dirs dir ∧
          (⟨dirs ++ more, gobin⟩ : Locator).find files tool name = .ok (Path.join dir name)) ∨
        NoDir files name dirs ∧ (⟨dirs ++ more, gobin⟩ : Locator).find files tool name =
          (⟨more, gobin⟩ : Locator).find files tool name) ∧
    -- with further directories a discovery still succeeds, and it keeps what it found on the search
    -- path
    ∀ (config : Config) (locator : Locator) (files : FileProbe) (more : List String)
      (t : Toolchain),
      (discover config locator files).1 = .ok t →
        ∃ arch t', config.archLetter = .ok arch ∧
          (discover config (locator.appending more) files).1 = .ok t' ∧
          (t'.bindings.map fun b => (b.tool, b.name)) = (t.bindings.map fun b => (b.tool, b.name)) ∧
          ∀ tool path, t.path tool = .ok path → ∃ path', t'.path tool = .ok path' ∧
            locator.Keeps files more tool (tool.binaryName arch) path path' := by
  refine ⟨fun locator files tool name =>
    ⟨fun path => Locator.find_eq_ok_iff, fun e => Locator.find_eq_error_iff⟩,
    Locator.find_append, fun config locator files more t hOk => ?_⟩
  obtain ⟨arch, hArch⟩ := exists_archLetter_of_discover hOk
  obtain ⟨t', hOk', hNames, hPaths⟩ := exists_discover_appending hArch hOk more
  exact ⟨arch, t', hArch, hOk', hNames, hPaths⟩

/-- The required tools are found, the last of them in the tool directory. -/
def gobinFiles : FileProbe :=
  ⟨fun path => ["/a/6g", "/a/6a", "/a/6l", "/b/6g", "/b/gopack"].contains path,
    fun path => path == "/go/gopack"⟩

/-- A further directory has two of the tools.  The one that was found on the search path stays where
it is, and the one from the tool directory moves. -/
theorem search_order_moved :
    let config : Config := ⟨"linux", "amd64", none, []⟩
    let locator : Locator := ⟨["/a"], some "/go"⟩
    ∃ t t', (discover config locator gobinFiles).1 = .ok t ∧
      (discover config (locator.appending ["/b"]) gobinFiles).1 = .ok t' ∧
      t.path .compiler = .ok "/a/6g" ∧ t'.path .compiler = .ok "/a/6g" ∧
      t.path .archiver = .ok "/go/gopack" ∧ t'.path .archiver = .ok "/b/gopack" := by
  intro config locator
  obtain ⟨hRule, -, hDiscoveries⟩ := search_order
  have hFirst (name : String) (h : gobinFiles.isExecutable (Path.join "/a" name) = true) :
      FirstDir gobinFiles name locator.searchPath "/a" := ⟨[], [], rfl, List.forall_mem_nil _, h⟩
  have hNoA : NoDir gobinFiles (Tool.archiver.binaryName '6') ["/a"] :=
    List.forall_mem_singleton.mpr (by decide +kernel)
  have hCompiler : locator.search gobinFiles '6' .compiler = .ok "/a/6g" :=
    ((hRule ..).1 _).mpr (.inl ⟨"/a", hFirst _ (by decide +kernel), by decide +kernel⟩)
  have hAssembler : locator.search gobinFiles '6' .assembler = .ok "/a/6a" :=
    ((hRule ..).1 _).mpr (.inl ⟨"/a", hFirst _ (by decide +kernel), by decide +kernel⟩)
  have hLinker : locator.search gobinFiles '6' .linker = .ok "/a/6l" :=
    ((hRule ..).1 _).mpr (.inl ⟨"/a", hFirst _ (by decide +kernel), by decide +kernel⟩)
  have hArchiver : locator.search gobinFiles '6' .archiver = .ok "/go/gopack" :=
    ((hRule ..).1 _).mpr (.inr ⟨hNoA, by decide, "/go", rfl, by decide +kernel, by decide +kernel⟩)
  have hFound : ∀ tool ∈ Tool.required, locator.Finds gobinFiles '6' tool :=
    List.forall_mem_cons.mpr ⟨⟨_, hCompiler⟩, List.forall_mem_cons.mpr ⟨⟨_, hAssembler⟩,
      List.forall_mem_cons.mpr ⟨⟨_, hLinker⟩, List.forall_mem_singleton.mpr ⟨_, hArchiver⟩⟩⟩⟩
  have hLetter : config.archLetter = .ok '6' := rfl
  have hOk := (discover_eq_ok_iff hLetter).mpr ⟨hFound, rfl⟩
  obtain ⟨arch, t', hArch, hOk', -, hPaths⟩ := hDiscoveries config locator gobinFiles ["/b"] _ hOk
  obtain rfl : '6' = arch := Except.ok.inj (hLetter.symm.trans hArch)
  refine ⟨_, t', hOk, hOk', path_ofSearches_of_ok hCompiler, ?_, path_ofSearches_of_ok hArchiver,
    ?_⟩
  · obtain ⟨path', hPath', hKeeps⟩ := hPaths .compiler _ (path_ofSearches_of_ok hCompiler)
    rcases hKeeps with ⟨-, -, -, rfl⟩ | ⟨hNone, -⟩
    · exact hPath'
    · exact absurd hNone (hFirst _ (by decide +kernel)).not_noDir
  · obtain ⟨path', hPath', hKeeps⟩ := hPaths .archiver _ (path_ofSearches_of_ok hArchiver)
    have hMoved :
        gobinFiles.isExecutable (Path.join "/b" (Tool.archiver.binaryName '6')) = true := by
      decide +kernel
    rcases hKeeps with ⟨dir, hDir, -⟩ | ⟨-, -, ⟨hNone, -⟩ | ⟨dir, ⟨before, behind, hSplit, -⟩, rfl⟩⟩
    · exact absurd hNoA hDir.not_noDir
    · rw [hNone "/b" List.mem_cons_self] at hMoved
      cases hMoved
    · obtain rfl : "/b" = dir := by
        have hMem : dir ∈ ["/b"] := hSplit ▸ List.mem_append_right before List.mem_cons_self
        exact (List.mem_singleton.mp hMem).symm
      have hJoin : Path.join "/b" (Tool.archiver.binaryName '6') = "/b/gopack" := by decide +kernel
      rw [hPath', hJoin]

end Toolchain

end BuildScan
