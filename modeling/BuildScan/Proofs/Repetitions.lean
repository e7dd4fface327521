import BuildScan.Proofs.Composing
import BuildScan.Proofs.PlainFile

/-!
# The flags of a unit

The flags that directives and libraries set are kept without repetitions: of equal ones the first
stays.  `first_entry_stays` says what such a list is, in three ways, and that each unit has such
lists for its flags, whatever the source of flags answers.
-/

namespace BuildScan

open BuildScan.Go

variable {σ : Type}

/-- No flag of the unit comes twice. -/
def SourceUnit.RepeatsNothing (unit : SourceUnit) : Prop := unit.cflags.Nodup ∧ unit.ldflags.Nodup

theorem resolve_repeatsNothing (source : FlagSource σ) (scanned : Scanned) (t : Trace σ) :
    ((scanned.resolve source).result t).RepeatsNothing := by
  rw [Scanned.resolve, Action.result_bind, Action.result_pure]
  exact ⟨nodup_unique _, nodup_unique _⟩

/-- A source is extracted if it is scanned, and then its facts are resolved. -/
theorem extract_eq_ok_iff [Go.Parser] {source : FlagSource σ} {tags : BuildTags} {text : String}
    {isTest : Bool} {t : Trace σ} {unit : SourceUnit} :
    (extract tags text isTest source).result t = .ok unit ↔
      ∃ scanned, (scan tags text isTest).1 = .ok scanned ∧
        unit = (scanned.resolve source).result (t.report (scan tags text isTest).2) := by
  cases hScan : (scan tags text isTest).1 with
  | error e =>
    rw [(extract_of_refused source (Prod.ext hScan rfl) t).1]
    exact ⟨nofun, nofun⟩
  | ok scanned =>
    rw [(extract_of_scanned source (Prod.ext hScan rfl) t).1]
    constructor
    · intro hUnit
      exact ⟨scanned, rfl, (Except.ok.inj hUnit).symm⟩
    · rintro ⟨found, hFound, rfl⟩
      rw [Except.ok.inj hFound]

/-- **Of equal entries the first one stays.** -/
theorem first_entry_stays [Go.Parser] :
    -- a list without repetitions is determined by what it should be
    (∀ xs ys, ListsOnce xs ys ↔ ys = unique xs) ∧
    -- it is what comes of adding the entries one after the other, unless they are there already
    (∀ xs, xs.foldl addNew [] = unique xs) ∧
    -- twice is as good as once, and of a second list only what is new stays
    (∀ xs, unique (unique xs) = unique xs) ∧
    (∀ xs ys, unique (xs ++ ys) = unique xs ++ (unique ys).filter (· ∉ xs)) ∧
    -- so no flag of a unit comes twice, whatever the source of flags does
    ∀ (σ : Type) (source : FlagSource σ) (t : Trace σ),
      (∀ scanned : Scanned, ((scanned.resolve source).result t).RepeatsNothing) ∧
      ∀ tags text isTest,
        ((∃ unit, (extract tags text isTest source).result t = .ok unit) ↔
          ∃ scanned, (scan tags text isTest).1 = .ok scanned) ∧
        ∀ unit, (extract tags text isTest source).result t = .ok unit → unit.RepeatsNothing := by
  refine ⟨fun xs ys => ⟨ListsOnce.eq_unique, ?_⟩, foldl_addNew, unique_unique, unique_append, ?_⟩
  · rintro rfl
    exact listsOnce_unique xs
  · intro σ source t
    refine ⟨fun scanned => resolve_repeatsNothing source scanned t,
      fun tags text isTest => ⟨?_, ?_⟩⟩
    · simp only [extract_eq_ok_iff]
      constructor
      · rintro ⟨_, scanned, hScanned, -⟩
        exact ⟨scanned, hScanned⟩
      · rintro ⟨scanned, hScanned⟩
        exact ⟨_, scanned, hScanned, rfl⟩
    · intro unit hUnit
      obtain ⟨scanned, -, rfl⟩ := extract_eq_ok_iff.mp hUnit
      exact resolve_repeatsNothing source scanned _

/-- A flag of a directive, which a library has, too. -/
def zlibPieces : List Plain.Piece :=
  [PackageName.piece ⟨'g', ['z'], by decide, List.forall_mem_singleton.mpr rfl, by decide⟩,
    CommentLine.piece ⟨" #cgo LDFLAGS: -lz".toList, by decide, .of_all rfl⟩,
    CommentLine.piece ⟨" #cgo pkg-config: cairo zlib".toList, by decide, .of_all rfl⟩]

def zlibText : String := "package gz\n// #cgo LDFLAGS: -lz\n// #cgo pkg-config: cairo zlib\n"

local instance zlibParser : Go.Parser := Plain.parserOf [zlibPieces]

theorem scan_zlibText : (scan ⟨[]⟩ zlibText false).1 =
    .ok ⟨"gz", [], [], [⟨.linkFlags, "-lz", ⟨2, 1⟩⟩, ⟨.pkgConfig, "cairo zlib", ⟨3, 1⟩⟩]⟩ := by
  have hText : zlibText.toList = Plain.rendered zlibPieces := by decide
  have hParse : Go.parse (Plain.rendered zlibPieces) = Plain.tree zlibPieces :=
    Plain.parse_parserOf_self zlibPieces []
  rw [scan, hText, hParse]
  rfl

/-- The directive and the library set the same flag, and the unit has it once. -/
theorem first_entry_stays_zlib :
    let source := FlagSource.ofTable twoLibraries
    let unit : SourceUnit := ⟨"gz", none, [], [], ["-I/usr/include/cairo", ""], ["-lz"]⟩
    (extract ⟨[]⟩ zlibText false source).result (.start []) = .ok unit ∧ unit.RepeatsNothing := by
  intro source unit
  obtain ⟨-, -, -, -, hUnits⟩ := first_entry_stays
  have hUnit : (extract ⟨[]⟩ zlibText false source).result (.start []) = .ok unit := by
    rw [extract_eq_ok_iff]
    exact ⟨_, scan_zlibText, by decide +kernel⟩
  exact ⟨hUnit, ((hUnits _ source (.start [])).2 ⟨[]⟩ zlibText false).2 unit hUnit⟩

end BuildScan
