import BuildScan.Proofs.Blanks
import BuildScan.Proofs.Lookups
import BuildScan.Proofs.Resolution
import BuildScan.Proofs.Unique

/-!
# Resolving in parts

Some directives in front of others resolve to what the two parts resolve to, put together.
Repetitions are taken out once, at the end, but taking them out of the parts before makes no
difference (`unique_append_unique`), and what directives set adds up (`settingsBy_append`).
`resolve_composes` says so for every source of flags whose answers do not depend on its state, and
draws two consequences: libraries may be distributed over directives in any way that keeps their
order, and a directive for the compiler may change places with one for the linker or a target.

Which questions a source is asked is told by a source that listens (`FlagSource.recorded`), and
listening makes no difference to a run (`resolve_recorded`).
-/

namespace BuildScan

open BuildScan.Text

variable {σ : Type}

/-! ### What directives set -/

namespace Settings

theorem none_append (a : Settings) : none ++ a = a := by
  show append none a = a
  simp [append, none]

theorem append_assoc (a b c : Settings) : a ++ b ++ c = a ++ (b ++ c) := by
  show append (append a b) c = append a (append b c)
  simp [append, Option.or_assoc]

end Settings

variable (answers : Answers)

theorem settingsBy_append (ds es : List Directive) :
    settingsBy answers (ds ++ es) = settingsBy answers ds ++ settingsBy answers es := by
  induction ds with
  | nil => exact (Settings.none_append _).symm
  | cons d ds ih => rw [List.cons_append, settingsBy, ih, settingsBy, Settings.append_assoc]

/-- Directives that name libraries set what is known of these, one after the other. -/
theorem settingsBy_of_pkgConfig {ds : List Directive} (h : ∀ d ∈ ds, d.kind = .pkgConfig) :
    settingsBy answers ds =
      ⟨none, flagsBy answers .cflags (ds.flatMap Directive.libraries),
        flagsBy answers .libs (ds.flatMap Directive.libraries)⟩ := by
  induction ds with
  | nil => rfl
  | cons d ds ih =>
    obtain ⟨hFirst, hRest⟩ := List.forall_mem_cons.mp h
    have hFlags (mode : FlagMode) : flagsBy answers mode ((d :: ds).flatMap Directive.libraries) =
        flagsBy answers mode d.libraries ++
          flagsBy answers mode (ds.flatMap Directive.libraries) := by
      rw [List.flatMap_cons, flagsBy, List.filterMap_append]
      rfl
    rw [settingsBy, ih hRest, Directive.settingsBy, hFirst, hFlags, hFlags]
    rfl

theorem settingsBy_swap {c o : Directive} (hCompile : c.kind = .compileFlags)
    (hOther : o.kind = .linkFlags ∨ o.kind = .target) (ds : List Directive) :
    settingsBy answers (c :: o :: ds) = settingsBy answers (o :: c :: ds) := by
  have hSame : c.settingsBy answers ++ o.settingsBy answers =
      o.settingsBy answers ++ c.settingsBy answers := by
    rw [Directive.settingsBy, Directive.settingsBy, hCompile]
    rcases hOther with hKind | hKind <;> rw [hKind] <;> rfl
  simp only [settingsBy, ← Settings.append_assoc, hSame]

/-- The facts of a file with other directives. -/
def Scanned.having (scanned : Scanned) (ds : List Directive) : Scanned :=
  { scanned with directives := ds }

variable {answers}

theorem resolveBy_having_congr {ds es : List Directive}
    (h : settingsBy answers ds = settingsBy answers es) (scanned : Scanned) :
    (scanned.having ds).resolveBy answers = (scanned.having es).resolveBy answers := by
  simp only [Scanned.resolveBy, Scanned.having, h]

theorem resolveBy_having_append (scanned : Scanned) (ds es : List Directive) :
    let first := (scanned.having ds).resolveBy answers
    let second := (scanned.having es).resolveBy answers
    (scanned.having (ds ++ es)).resolveBy answers =
      { first with
        target := second.target.or first.target
        cflags := unique (first.cflags ++ second.cflags)
        ldflags := unique (first.ldflags ++ second.ldflags) } := by
  intro first second
  simp only [first, second, Scanned.resolveBy, Scanned.having, unique_append_unique,
    settingsBy_append]
  rfl

/-! ### Questions -/

theorem questionsOf_append (ds es : List Directive) :
    questionsOf (ds ++ es) = questionsOf ds ++ questionsOf es := List.flatMap_append

theorem filter_questionsOf (ds : List Directive) (mode : FlagMode) :
    ((questionsOf ds).filter fun q => q.1 = mode) =
      (ds.flatMap Directive.libraries).map (mode, ·) := by
  have hOwn (other : FlagMode) (libraries : List String) :
      ((libraries.map (other, ·)).filter fun q : Question => q.1 = mode) =
        if other = mode then libraries.map (mode, ·) else [] := by
    by_cases hSame : other = mode
    · subst hSame
      rw [if_pos rfl, List.filter_eq_self.mpr]
      simp
    · rw [if_neg hSame, List.filter_eq_nil_iff]
      simp [hSame]
  induction ds with
  | nil => rfl
  | cons d ds ih =>
    rw [questionsOf, List.flatMap_cons, List.filter_append, Directive.questions_eq,
      List.filter_append, hOwn, hOwn, List.flatMap_cons, List.map_append, ← ih]
    cases mode <;> simp [questionsOf]

theorem perm_filter_modes (qs : List Question) :
    ((qs.filter fun q => q.1 = .cflags) ++ qs.filter fun q => q.1 = .libs).Perm qs := by
  have hOther : (qs.filter fun q => q.1 = .libs) = qs.filter fun q => !decide (q.1 = .cflags) := by
    refine List.filter_congr fun q _ => ?_
    cases q.1 <;> rfl
  rw [hOther]
  exact List.filter_append_perm (fun q : Question => decide (q.1 = .cflags)) qs

/-- The same libraries give rise to the same questions, perhaps in another order. -/
theorem perm_questionsOf {ds es : List Directive}
    (h : ds.flatMap Directive.libraries = es.flatMap Directive.libraries) :
    (questionsOf ds).Perm (questionsOf es) := by
  have hSorted := perm_filter_modes (questionsOf ds)
  rw [filter_questionsOf, filter_questionsOf, h, ← filter_questionsOf,
    ← filter_questionsOf] at hSorted
  exact hSorted.symm.trans (perm_filter_modes (questionsOf es))

/-- Payloads with a blank between them name the libraries of both. -/
theorem libraries_append (p q : String) (a b c : Position) :
    (⟨.pkgConfig, p ++ " " ++ q, a⟩ : Directive).libraries =
      (⟨.pkgConfig, p, b⟩ : Directive).libraries ++ (⟨.pkgConfig, q, c⟩ : Directive).libraries := by
  simp only [Directive.libraries]
  exact wordsOf_append_gap (by decide) (by decide) p q

/-! ### A source that listens -/

/-- The trace of a machine that comes with a record of questions. -/
def Trace.recording (t : Trace σ) (asked : List Question) : Trace (List Question × σ) :=
  ⟨(asked, t.machine), t.log, t.stdout, t.stderr⟩

/-- The trace without the record. -/
def Trace.unrecorded (t : Trace (List Question × σ)) : Trace σ :=
  ⟨t.machine.2, t.log, t.stdout, t.stderr⟩

/-- The source with a record of all that it is asked. -/
def FlagSource.recorded (source : FlagSource σ) : FlagSource (List Question × σ) where
  ask mode library := fun t =>
    let asked := source.ask mode library
    (asked.result t.unrecorded,
      (asked.after t.unrecorded).recording (t.machine.1 ++ [(mode, library)]))

/-- The questions that a scan puts to a source from a trace on, in the order in which it does. -/
def Scanned.calls (scanned : Scanned) (source : FlagSource σ) (t : Trace σ) : List Question :=
  ((scanned.resolve source.recorded).after (t.recording [])).machine.1

variable {source : FlagSource σ}

/-- The record holds the lookups of a run, and without it the run is one of the source itself. -/
theorem Asked.unrecorded {t last : Trace (List Question × σ)} {lookups : List Lookup}
    (h : Asked source.recorded t lookups last) :
    last.machine.1 = t.machine.1 ++ lookups.map Lookup.question ∧
      Asked source t.unrecorded lookups last.unrecorded := by
  induction h with
  | nil t => exact ⟨(List.append_nil _).symm, .nil _⟩
  | @cons t last l rest hAnswer _ ih =>
    obtain ⟨hRecord, hAsked⟩ := ih
    refine ⟨?_, .cons hAnswer hAsked⟩
    have hFirst :
        (((source.recorded.ask l.question.1 l.question.2).after t).report l.warnings).machine.1 =
        t.machine.1 ++ [l.question] := rfl
    rw [hRecord, hFirst, List.map_cons, List.append_assoc, List.singleton_append]

/-- The same questions lead from a trace to the same trace. -/
theorem Asked.eq_of_questions {t u v : Trace σ} {xs ys : List Lookup} (h : Asked source t xs u)
    (h' : Asked source t ys v) (hSame : xs.map Lookup.question = ys.map Lookup.question) :
    u = v := by
  induction h generalizing ys with
  | nil t =>
    obtain rfl := List.map_eq_nil_iff.mp hSame.symm
    cases h'
    rfl
  | @cons t u x xs hAnswer _ ih =>
    cases h' with
    | nil => cases hSame
    | @cons _ _ y ys hAnswer' hRest =>
      obtain ⟨hQuestion, hQuestions⟩ := List.cons.inj hSame
      have hLookup : x = y := by
        obtain ⟨question, answer⟩ := x
        obtain ⟨question', answer'⟩ := y
        cases hQuestion
        exact congrArg (Lookup.mk question) (hAnswer.symm.trans hAnswer')
      exact ih (hLookup ▸ hRest) hQuestions

theorem calls_eq_questionsOf (scanned : Scanned) (source : FlagSource σ) (t : Trace σ) :
    scanned.calls source t = questionsOf scanned.directives := by
  obtain ⟨told, hTold, hAsked, -⟩ := resolve_asks source.recorded scanned (t.recording [])
  rw [Scanned.calls, hAsked.unrecorded.1, questions_lookupsOf, hTold]
  rfl

/-- The record makes no difference to a run. -/
theorem resolve_recorded {answers : Answers} (hGives : source.Gives answers) (scanned : Scanned)
    (t : Trace σ) (asked : List Question) :
    (scanned.resolve source.recorded).result (t.recording asked) =
      (scanned.resolve source).result t ∧
      ((scanned.resolve source.recorded).after (t.recording asked)).unrecorded =
        (scanned.resolve source).after t := by
  have hRecorded : source.recorded.Gives answers :=
    fun mode library u => hGives mode library u.unrecorded
  obtain ⟨told, hTold, hAsked, -⟩ := resolve_asks source.recorded scanned (t.recording asked)
  obtain ⟨others, hOthers, hPlain, -⟩ := resolve_asks source scanned t
  refine ⟨by rw [resolve_result hRecorded, resolve_result hGives], ?_⟩
  refine hAsked.unrecorded.2.eq_of_questions hPlain ?_
  rw [questions_lookupsOf, questions_lookupsOf, hTold, hOthers]

/-! ### Lists of directives -/

/-- **Resolving composes.**  All of this holds from any traces on. -/
theorem resolve_composes (hStateless : source.Stateless) (scanned : Scanned) :
    let unit (ds : List Directive) (t : Trace σ) := ((scanned.having ds).resolve source).result t
    let calls (ds : List Directive) (t : Trace σ) := (scanned.having ds).calls source t
    -- two lists, one behind the other
    (∀ ds es t t₁ t₂, unit (ds ++ es) t =
        { unit ds t₁ with
          target := (unit es t₂).target.or (unit ds t₁).target
          cflags := unique ((unit ds t₁).cflags ++ (unit es t₂).cflags)
          ldflags := unique ((unit ds t₁).ldflags ++ (unit es t₂).ldflags) } ∧
      calls (ds ++ es) t = calls ds t₁ ++ calls es t₂) ∧
    -- libraries may be distributed in any way that keeps their order; the questions of each mode
    -- keep theirs
    (∀ before ps qs behind t t', (∀ d ∈ ps, d.kind = .pkgConfig) → (∀ d ∈ qs, d.kind = .pkgConfig) →
      ps.flatMap Directive.libraries = qs.flatMap Directive.libraries →
      unit (before ++ ps ++ behind) t = unit (before ++ qs ++ behind) t' ∧
      (calls (before ++ ps ++ behind) t).Perm (calls (before ++ qs ++ behind) t') ∧
      ∀ mode, ((calls (before ++ ps ++ behind) t).filter fun q => q.1 = mode) =
        (calls (before ++ qs ++ behind) t').filter fun q => q.1 = mode) ∧
    -- so a blank between two payloads makes one directive of two
    (∀ p q a b c, (⟨.pkgConfig, p ++ " " ++ q, a⟩ : Directive).libraries =
      [⟨.pkgConfig, p, b⟩, ⟨.pkgConfig, q, c⟩].flatMap Directive.libraries) ∧
    -- neighbours may change places
    (∀ before c o behind t t', c.kind = .compileFlags → o.kind = .linkFlags ∨ o.kind = .target →
      unit (before ++ c :: o :: behind) t = unit (before ++ o :: c :: behind) t' ∧
      calls (before ++ c :: o :: behind) t = calls (before ++ o :: c :: behind) t') ∧
    -- the record by which the calls are told makes no difference to a run
    ∀ ds t asked, let recorded := (scanned.having ds).resolve source.recorded
      recorded.result (t.recording asked) = unit ds t ∧
        (recorded.after (t.recording asked)).unrecorded =
          ((scanned.having ds).resolve source).after t := by
  intro unit calls
  obtain ⟨answers, hGives⟩ := hStateless
  have hUnit (ds : List Directive) (t : Trace σ) :
      unit ds t = (scanned.having ds).resolveBy answers :=
    resolve_result hGives _ t
  have hCalls (ds : List Directive) (t : Trace σ) : calls ds t = questionsOf ds :=
    calls_eq_questionsOf _ source t
  have hRecord (ds : List Directive) (t : Trace σ) (asked : List Question) :=
    resolve_recorded hGives (scanned.having ds) t asked
  simp only [hUnit, hCalls]
  refine ⟨?_, ?_, ?_, ?_, fun ds t asked => ?_⟩
  · intro ds es _ _ _
    exact ⟨resolveBy_having_append scanned ds es, questionsOf_append ds es⟩
  · intro before ps qs behind _ _ hPs hQs hLibraries
    have hSettings : settingsBy answers (before ++ ps ++ behind) =
        settingsBy answers (before ++ qs ++ behind) := by
      simp only [settingsBy_append, settingsBy_of_pkgConfig answers hPs,
        settingsBy_of_pkgConfig answers hQs, hLibraries]
    have hAll : (before ++ ps ++ behind).flatMap Directive.libraries =
        (before ++ qs ++ behind).flatMap Directive.libraries := by
      simp only [List.flatMap_append, hLibraries]
    refine ⟨resolveBy_having_congr hSettings scanned, perm_questionsOf hAll, fun mode => ?_⟩
    rw [filter_questionsOf, filter_questionsOf, hAll]
  · intro p q a b c
    rw [libraries_append p q a b c, List.flatMap_cons, List.flatMap_singleton]
  · intro before c o behind _ _ hCompile hOther
    have hSettings : settingsBy answers (before ++ c :: o :: behind) =
        settingsBy answers (before ++ o :: c :: behind) := by
      rw [settingsBy_append, settingsBy_swap answers hCompile hOther, settingsBy_append]
    refine ⟨resolveBy_having_congr hSettings scanned, ?_⟩
    have hNone : c.questions = [] ∧ o.questions = [] := by
      rcases hOther with hKind | hKind <;>
        simp [Directive.questions, hCompile, hKind]
    rw [questionsOf_append, questionsOf_append]
    simp only [questionsOf, List.flatMap_cons, hNone]
  · rw [← hUnit ds t]
    exact hRecord ds t asked

/-- What a package manager says of two libraries. -/
def twoLibraries : FlagMode → String → Option String
  | .cflags, "cairo" => some "-I/usr/include/cairo"
  | .cflags, "zlib" => some ""
  | .libs, "zlib" => some "-lz"
  | _, _ => none

theorem ofTable_stateless (table : FlagMode → String → Option String) :
    (FlagSource.ofTable table).Stateless := by
  refine ⟨fun mode library => ((FlagSource.ofTable table).ask mode library).result (.start []), ?_⟩
  intro mode library t
  simp only [FlagSource.ofTable, Action.result_bind]
  cases table mode library <;> rfl

/-- The libraries of one directive are named by two, and a flag changes places with a target.  The
file comes to the same, and the questions change their order. -/
theorem resolve_composes_cairo :
    let source := FlagSource.ofTable twoLibraries
    let scanned : Scanned := ⟨"gfx", [], [], []⟩
    let t : Trace (List Question) := .start []
    let flag : Directive := ⟨.compileFlags, "-O2", ⟨3, 1⟩⟩
    let target : Directive := ⟨.target, "arm", ⟨1, 1⟩⟩
    let both : List Directive := [⟨.pkgConfig, "cairo zlib", ⟨4, 1⟩⟩]
    let apart : List Directive := [⟨.pkgConfig, "cairo", ⟨4, 1⟩⟩, ⟨.pkgConfig, "zlib", ⟨5, 1⟩⟩]
    source.Stateless ∧
      ((scanned.having ([target, flag] ++ both)).resolve source).result t =
        ((scanned.having ([flag, target] ++ apart)).resolve source).result t ∧
      ((scanned.having ([flag, target] ++ apart)).resolve source).result t =
        ⟨"gfx", some "arm", [], [], ["-O2", "-I/usr/include/cairo", ""], ["-lz"]⟩ ∧
      (scanned.having ([target, flag] ++ both)).calls source t =
        [(.cflags, "cairo"), (.cflags, "zlib"), (.libs, "cairo"), (.libs, "zlib")] ∧
      (scanned.having ([flag, target] ++ apart)).calls source t =
        [(.cflags, "cairo"), (.libs, "cairo"), (.cflags, "zlib"), (.libs, "zlib")] := by
  intro source scanned t flag target both apart
  have hStateless : source.Stateless := ofTable_stateless twoLibraries
  obtain ⟨-, hDistribute, hJoin, hSwap, -⟩ := resolve_composes hStateless scanned
  have hLibraries : both.flatMap Directive.libraries = apart.flatMap Directive.libraries :=
    hJoin "cairo" "zlib" ⟨4, 1⟩ ⟨4, 1⟩ ⟨5, 1⟩
  have hSplit :=
    (hDistribute [target, flag] both apart [] t t (by simp [both]) (by simp [apart]) hLibraries).1
  have hOrder := (hSwap [] flag target apart t t rfl (.inr rfl)).1
  rw [List.append_nil, List.append_nil] at hSplit
  refine ⟨hStateless, hSplit.trans hOrder.symm, ?_, ?_, ?_⟩
  · decide +kernel
  · rw [calls_eq_questionsOf]
    decide +kernel
  · rw [calls_eq_questionsOf]
    decide +kernel

end BuildScan
