import BuildScan.Proofs.PlainText
import BuildScan.Proofs.Rejection
import BuildScan.Proofs.Resolution
import BuildScan.Proofs.Visible

/-!
# Test units and plain files

Reading a file as a test unit is stricter, and shows its functions besides: `AddsFunctions` says
what the two readings have to do with each other.  It holds for scans, and from there for whatever
is made of their facts by some answers, since functions have no part in resolving:
`test_units_add_functions`.

A plain reading passes over a fault behind the header, and no reading passes over a fault that a
plain one reports (`fatalFault?_true_of_false`).  The two walks see the same nodes, so they differ
in the functions alone (`walk_false`).
-/

namespace BuildScan

open BuildScan.Text BuildScan.Go

/-- `plain` and `test` are what a file gives as a plain file and as a test unit.  Whatever a test
unit gives, the plain file gives without the functions, and what is refused as a plain file is
refused as a test unit as well. -/
structure AddsFunctions {α : Type} (funcs : α → List String) (forget : α → α)
    (plain test : Except BuildError α) : Prop where
  plain_of_test : ∀ r, test = .ok r → plain = .ok (forget r)
  refused : ∀ e, plain = .error e → ∃ f, test = .error f
  no_functions : ∀ r, plain = .ok r → funcs r = []

def Scanned.withoutFuncs (s : Scanned) : Scanned := { s with funcs := [] }

def SourceUnit.withoutFuncs (u : SourceUnit) : SourceUnit := { u with funcs := [] }

/-! ### Scans -/

theorem Go.fatalFault?_true_of_false {source : List Char} {root f : Node}
    (h : fatalFault? source false root = some f) : fatalFault? source true root = some f := by
  rw [fatalFault?_eq_some_iff] at h ⊢
  refine ⟨h.1, ?_⟩
  intro stop hStop
  rw [faultLimit, if_pos rfl] at hStop
  cases hStop

theorem Go.rejection?_false_eq_none {source : List Char} {root : Node}
    (h : rejection? source true root = none) : rejection? source false root = none := by
  cases hTest : fatalFault? source true root with
  | some f =>
    rw [rejection?, hTest] at h
    cases h
  | none =>
    rw [rejection?_eq_packageError? hTest] at h
    have hPlain : fatalFault? source false root = none := by
      cases hPlain : fatalFault? source false root with
      | none => rfl
      | some f =>
        rw [fatalFault?_true_of_false hPlain] at hTest
        cases hTest
    rw [rejection?_eq_packageError? hPlain, h]

theorem viewOf_findingsOfComment (source : List Char) (tags : BuildTags) (root n : Node) :
    (viewOf source tags false root).findingsOfComment n =
      (viewOf source tags true root).findingsOfComment n :=
  View.commentFindings_congr (v := viewOf source tags false root)
    (w := viewOf source tags true root)
    rfl rfl rfl _ _

/-- Without the functions a walk shows all else. -/
theorem walk_false (source : List Char) (tags : BuildTags) (root : Node) :
    walk source tags false root =
      ((walk source tags true root).1.withoutFuncs, (walk source tags true root).2) := by
  by_cases hFile : root.kind = .sourceFile
  · rw [walk_eq_visiblePlaces hFile, walk_eq_visiblePlaces hFile]
    simp only [viewOf_findingsOfComment]
    rfl
  · rw [walk_eq_none hFile, walk_eq_none hFile]
    rfl

theorem walk_false_funcs (source : List Char) (tags : BuildTags) (root : Node) :
    (walk source tags false root).1.funcs = [] := by
  rw [walk_false]
  rfl

theorem scan_addsFunctions [Go.Parser] (tags : BuildTags) (text : String) :
    AddsFunctions Scanned.funcs Scanned.withoutFuncs (scan tags text false).1
      (scan tags text true).1 := by
  constructor
  · intro r hTest
    cases hRejected : rejection? text.toList true (Go.parse text.toList) with
    | some e =>
      rw [scan_of_rejected hRejected] at hTest
      cases hTest
    | none =>
      rw [scan_of_accepted hRejected] at hTest
      rw [scan_of_accepted (rejection?_false_eq_none hRejected), walk_false]
      cases hTest
      rfl
  · intro e hPlain
    cases hRejected : rejection? text.toList true (Go.parse text.toList) with
    | some f => exact ⟨f, by rw [scan_of_rejected hRejected]⟩
    | none =>
      rw [scan_of_accepted (rejection?_false_eq_none hRejected)] at hPlain
      cases hPlain
  · intro r hPlain
    cases hRejected : rejection? text.toList false (Go.parse text.toList) with
    | some e =>
      rw [scan_of_rejected hRejected] at hPlain
      cases hPlain
    | none =>
      rw [scan_of_accepted hRejected] at hPlain
      cases hPlain
      exact walk_false_funcs _ _ _

/-- A test unit that is read warns of the same as the plain file. -/
theorem scan_log_eq [Go.Parser] {tags : BuildTags} {text : String} {r : Scanned}
    (h : (scan tags text true).1 = .ok r) : (scan tags text false).2 = (scan tags text true).2 := by
  cases hRejected : rejection? text.toList true (Go.parse text.toList) with
  | some e =>
    rw [scan_of_rejected hRejected] at h
    cases h
  | none =>
    rw [scan_of_accepted hRejected, scan_of_accepted (rejection?_false_eq_none hRejected),
      walk_false]

/-! ### Source units -/

namespace AddsFunctions

variable {α β : Type} {funcs : α → List String} {forget : α → α} {plain test : Except BuildError α}

/-- What is made of the facts without regard to the functions keeps the relation. -/
theorem map {moreFuncs : β → List String} {forgetMore : β → β} {f : α → β}
    (h : AddsFunctions funcs forget plain test) (hForget : ∀ r, f (forget r) = forgetMore (f r))
    (hFuncs : ∀ r, moreFuncs (f r) = funcs r) :
    AddsFunctions moreFuncs forgetMore (plain.map f) (test.map f) := by
  constructor
  · intro u hTest
    cases test with
    | error e => cases hTest
    | ok r =>
      cases hTest
      rw [h.plain_of_test r rfl, ← hForget]
      rfl
  · intro e hPlain
    cases plain with
    | ok r => cases hPlain
    | error d =>
      obtain ⟨f, hf⟩ := h.refused d rfl
      rw [hf]
      exact ⟨f, rfl⟩
  · intro u hPlain
    cases plain with
    | error e => cases hPlain
    | ok r =>
      cases hPlain
      rw [hFuncs, h.no_functions r rfl]

/-- A plain file has no functions to forget. -/
theorem refl (h : AddsFunctions funcs forget plain test)
    (hForget : ∀ r, funcs r = [] → forget r = r) : AddsFunctions funcs forget plain plain where
  plain_of_test r hr := by rw [hForget r (h.no_functions r hr), hr]
  refused e he := ⟨e, he⟩
  no_functions := h.no_functions

/-- What cannot be read is refused both ways. -/
theorem bind {γ : Type} {before : Except BuildError γ} {plain test : γ → Except BuildError α}
    (h : ∀ c, AddsFunctions funcs forget (plain c) (test c)) :
    AddsFunctions funcs forget (before.bind plain) (before.bind test) := by
  cases before with
  | ok c => exact h c
  | error e => exact ⟨fun r hr => (nomatch hr), fun d hd => ⟨d, hd⟩, fun r hr => (nomatch hr)⟩

end AddsFunctions

theorem extractBy_addsFunctions [Go.Parser] (answers : Answers) (tags : BuildTags) (text : String) :
    AddsFunctions SourceUnit.funcs SourceUnit.withoutFuncs (extractBy answers tags text false)
      (extractBy answers tags text true) :=
  (scan_addsFunctions tags text).map (fun _ => rfl) fun _ => rfl

/-! ### Files -/

theorem isTestFile_iff (path : String) :
    isTestFile path = true ↔
      ∃ name, Path.fileName? path = some name ∧ "_test.go".toList <:+ name.toList := by
  have hEnds (name : String) :
      name.endsWith "_test.go" = true ↔ "_test.go".toList <:+ name.toList := by
    have hSlice : name.toSlice.endsWith "_test.go" = true ↔
        "_test.go".toList <:+ name.toSlice.copy.toList := String.Slice.endsWith_string_iff
    rw [String.copy_toSlice] at hSlice
    exact hSlice
  rw [isTestFile]
  cases Path.fileName? path with
  | none => simp only [Option.any_none, Bool.false_eq_true, reduceCtorEq, false_and, exists_false]
  | some name =>
    rw [Option.any_some, hEnds]
    constructor
    · intro hEnd
      exact ⟨name, rfl, hEnd⟩
    · rintro ⟨_, hName, hEnd⟩
      cases hName
      exact hEnd

theorem extractFileBy_addsFunctions [Go.Parser] (answers : Answers) (tags : BuildTags)
    (path : String) (before : Except BuildError String) :
    AddsFunctions SourceUnit.funcs SourceUnit.withoutFuncs
      (before.bind fun text => extractBy answers tags text (false && isTestFile path))
      (before.bind fun text => extractBy answers tags text (true && isTestFile path)) := by
  refine AddsFunctions.bind fun text => ?_
  have hAdds := extractBy_addsFunctions answers tags text
  cases isTestFile path with
  | true => exact hAdds
  | false =>
    refine hAdds.refl fun u hNone => ?_
    rw [SourceUnit.withoutFuncs, ← hNone]

/-- **Test units add functions.** Whatever is made of a file, by a scan, by a source of flags whose
answers do not depend on the machine, or from the file itself, a test unit gives what the plain file
gives and its functions besides, or is refused where the plain file may still be read.  A file whose
name is not that of a test unit gives the same in either mode. -/
theorem test_units_add_functions [Go.Parser] :
    (∀ tags text,
      AddsFunctions Scanned.funcs Scanned.withoutFuncs (scan tags text false).1
          (scan tags text true).1 ∧
        ∀ r, (scan tags text true).1 = .ok r → (scan tags text false).2 = (scan tags text true).2) ∧
    (∀ (σ : Type) (source : FlagSource σ), source.Stateless → ∀ tags text t t',
      AddsFunctions SourceUnit.funcs SourceUnit.withoutFuncs
        ((extract tags text false source).result t) ((extract tags text true source).result t')) ∧
    (∀ (σ : Type) (source : FlagSource σ), source.Stateless → ∀ (host : Host σ) tags path t t',
      host.readFile t.machine path = host.readFile t'.machine path →
      AddsFunctions SourceUnit.funcs SourceUnit.withoutFuncs
        ((extractFile host tags path false source).result t)
        ((extractFile host tags path true source).result t')) ∧
    (∀ (σ : Type) (source : FlagSource σ) (host : Host σ) tags path,
      (∀ name, Path.fileName? path = some name → ¬ "_test.go".toList <:+ name.toList) →
      extractFile host tags path true source = extractFile host tags path false source) := by
  refine ⟨?_, ?_, ?_, ?_⟩
  · intro tags text
    exact ⟨scan_addsFunctions tags text, fun r hr => scan_log_eq hr⟩
  · rintro σ source ⟨answers, hGives⟩ tags text t t'
    rw [extract_result hGives, extract_result hGives]
    exact extractBy_addsFunctions answers tags text
  · rintro σ source ⟨answers, hGives⟩ host tags path t t' hSame
    rw [extractFile_result hGives, extractFile_result hGives, readText, readText, hSame]
    exact extractFileBy_addsFunctions answers tags path _
  · intro σ source host tags path hName
    have hPlain : isTestFile path = false := by
      rw [← Bool.not_eq_true, isTestFile_iff]
      rintro ⟨name, hFile, hEnd⟩
      exact hName name hFile hEnd
    rw [extractFile, extractFile, hPlain]
    rfl

/-- A machine on which every path leads to a file with a package clause. -/
def clauseHost : Host Unit where
  lookup _ _ := none
  isExecutable _ _ := false
  isPresent _ _ := true
  isDirectory _ _ := false
  readFile _ _ := .ok [112, 97, 99, 107, 97, 103, 101, 32, 112, 10]
  run _ t := (.error .notFound, t)

theorem none_gives : FlagSource.Gives (FlagSource.none (σ := Unit)) fun _ library =>
    .error (.toolNotFound "pkg-config" s!"no resolver configured for '{library}'") := by
  intro mode library t
  rfl

/-- The text of a package clause. -/
def clausePieces : List Plain.Piece := [.ofPackage ['p']]

local instance clauseParser : Go.Parser := Plain.parserOf [clausePieces]

/-- A file without functions gives the same as a test unit and as a plain file. -/
theorem test_units_add_functions_clause :
    let clause : Scanned := ⟨"p", [], [], []⟩
    let unit : SourceUnit := ⟨"p", none, [], [], [], []⟩
    (scan ⟨[]⟩ "package p\n" true).1 = .ok clause ∧
      (scan ⟨[]⟩ "package p\n" false).1 = .ok clause ∧
      FlagSource.Stateless (FlagSource.none (σ := Unit)) ∧
      (extractFile clauseHost ⟨[]⟩ "p_test.go" true .none).result (.start ()) = .ok unit ∧
      (extractFile clauseHost ⟨[]⟩ "p_test.go" false .none).result (.start ()) = .ok unit ∧
      extractFile clauseHost ⟨[]⟩ "p.go" true .none =
        extractFile clauseHost ⟨[]⟩ "p.go" false .none := by
  intro clause unit
  have hText : "package p\n".toList = Plain.rendered clausePieces := rfl
  have hParse : Go.parse "package p\n".toList = Plain.tree clausePieces :=
    hText ▸ Plain.parse_parserOf_self clausePieces []
  have hScan : (scan ⟨[]⟩ "package p\n" true).1 = .ok clause := by
    rw [scan_of_accepted (by rw [hParse]; rfl), hParse]
    rfl
  have hTest : isTestFile "p_test.go" = true := by
    rw [isTestFile_iff]
    exact ⟨"p_test.go", rfl, by decide⟩
  have hUnit :
      (extractFile clauseHost ⟨[]⟩ "p_test.go" true .none).result (.start ()) = .ok unit := by
    have hRead : readText clauseHost (Trace.start ()).machine "p_test.go" = .ok "package p\n" := rfl
    rw [extractFile_result none_gives, hTest, hRead]
    exact congrArg (Except.map (Scanned.resolveBy _)) hScan
  have hName (name : String) (h : Path.fileName? "p.go" = some name) :
      ¬ "_test.go".toList <:+ name.toList := by
    have hFile : Path.fileName? "p.go" = some "p.go" := rfl
    cases hFile.symm.trans h
    decide
  have hStateless : FlagSource.Stateless (FlagSource.none (σ := Unit)) := ⟨_, none_gives⟩
  obtain ⟨hScans, -, hFiles, hNames⟩ := test_units_add_functions
  exact ⟨hScan, (hScans ⟨[]⟩ "package p\n").1.plain_of_test clause hScan, hStateless, hUnit,
    (hFiles Unit .none hStateless clauseHost ⟨[]⟩ "p_test.go"
      (.start ()) (.start ()) rfl).plain_of_test
      unit hUnit,
    hNames Unit .none clauseHost ⟨[]⟩ "p.go" hName⟩

end BuildScan
