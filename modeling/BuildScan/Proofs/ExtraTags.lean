import Mathlib.Data.List.Nodup
import BuildScan.Proofs.Conditions
import BuildScan.Proofs.Phases

/-!
# Tags that a configuration adds

A condition depends on the names written in it alone (`BuildTags.accepts_congr`), so further tags
make a difference only if it names them.  More tags make names hold and negated names fail: a
condition without negation goes on to hold (`BuildTags.accepts_mono`), and one with negated names
only does not begin to (`BuildTags.accepts_antitone`).

`extra_tags_effect` lifts this to files.  A directive of the body stands on exactly one line, since
no two lines have the same position (`eq_of_directive_eq`), so it is found or not by the condition
of that line.
-/

namespace BuildScan

open BuildScan.Text BuildScan.Go

/-! ### Conditions under other tags -/

namespace BuildTags

variable {a b : BuildTags} {e : String}

/-- The condition has the name in one of its terms. -/
def WritesName (e n : String) : Prop := IsTagName n ∧ (n ∈ termsOf e ∨ "!" ++ n ∈ termsOf e)

/-- No term of the condition is negated. -/
def NegatesNothing (e : String) : Prop := ∀ n, "!" ++ n ∉ termsOf e

/-- All terms of the condition are negated. -/
def NegatesAll (e : String) : Prop := ∀ t ∈ termsOf e, ∃ n, t = "!" ++ n

theorem accepts_congr (h : ∀ n, WritesName e n → (n ∈ a.satisfied ↔ n ∈ b.satisfied)) :
    a.accepts e = b.accepts e := by
  have hImp {a b : BuildTags} (h : ∀ n, WritesName e n → (n ∈ a.satisfied ↔ n ∈ b.satisfied))
      (hAccepts : a.accepts e = true) : b.accepts e = true := by
    rw [accepts_iff] at hAccepts ⊢
    intro t ht
    rcases termHolds_iff.mp (hAccepts t ht) with ⟨hName, hMem⟩ | ⟨n, rfl, hName, hMem⟩
    · exact termHolds_iff.mpr (.inl ⟨hName, (h t ⟨hName, .inl ht⟩).mp hMem⟩)
    · exact termHolds_iff.mpr
        (.inr ⟨n, rfl, hName, fun hOther => hMem ((h n ⟨hName, .inr ht⟩).mpr hOther)⟩)
  rw [Bool.eq_iff_iff]
  exact ⟨hImp h, hImp fun n hn => (h n hn).symm⟩

theorem accepts_mono (hSub : a.satisfied ⊆ b.satisfied) (h : NegatesNothing e)
    (hAccepts : a.accepts e = true) : b.accepts e = true := by
  rw [accepts_iff] at hAccepts ⊢
  intro t ht
  rcases termHolds_iff.mp (hAccepts t ht) with ⟨hName, hMem⟩ | ⟨n, rfl, -⟩
  · exact termHolds_iff.mpr (.inl ⟨hName, hSub hMem⟩)
  · exact absurd ht (h n)

theorem accepts_antitone (hSub : a.satisfied ⊆ b.satisfied) (h : NegatesAll e)
    (hAccepts : b.accepts e = true) : a.accepts e = true := by
  rw [accepts_iff] at hAccepts ⊢
  intro t ht
  rcases termHolds_iff.mp (hAccepts t ht) with ⟨hName, -⟩ | ⟨n, rfl, hName, hMem⟩
  · obtain ⟨n, rfl⟩ := h t ht
    exact absurd hName (not_isTagName_negated n)
  · exact termHolds_iff.mpr (.inr ⟨n, rfl, hName, fun hOld => hMem (hSub hOld)⟩)

end BuildTags

/-- The configuration with further tags. -/
def Config.adding (config : Config) (extra : List String) : Config :=
  { config with tags := config.tags ++ extra }

/-- The names that a build satisfies: those of the platform, and the configured tags. -/
def Config.tagNames (config : Config) : List String :=
  [config.goos, config.goarch, "cgo"] ++ config.tags

theorem satisfied_ofConfig (config : Config) :
    (BuildTags.ofConfig config).satisfied = config.tagNames := rfl

theorem satisfied_subset_adding (config : Config) (extra : List String) :
    (BuildTags.ofConfig config).satisfied ⊆
      (BuildTags.ofConfig (config.adding extra)).satisfied := by
  rw [satisfied_ofConfig, satisfied_ofConfig, Config.tagNames, Config.tagNames, Config.adding,
    ← List.append_assoc]
  exact List.subset_append_left _ _

/-! ### Directives under other tags -/

/-- The conditions on the lines that carry a directive all have the property. -/
def GuardedBy (marked : List Marked) (P : String → Prop) (d : Directive) : Prop :=
  ∀ m ∈ marked, m.directive = d → ∀ c, m.condition = some c → P (String.ofList c)

variable {source : List Char} {functions : Bool} {root : Node} {tags : BuildTags}

/-- A file shows the targets of its header and the directives of the lines whose conditions hold. -/
theorem mem_walk_directives {d : Directive} :
    d ∈ (walk source tags functions root).1.directives ↔
      d ∈ headerTargets source root ∨
        ∃ m ∈ markedIn (bodyLines source root), m.holds tags = true ∧ m.directive = d := by
  rw [← walk_targets source functions root tags, List.mem_filter, decide_eq_true_eq]
  have hBody : (d ∈ (walk source tags functions root).1.directives ∧ d.kind ≠ .target) ↔
      ∃ m ∈ markedIn (bodyLines source root), m.holds tags = true ∧ m.directive = d := by
    have hFilter := congrArg (d ∈ ·) (walk_gated source functions root tags)
    simp only [List.mem_filter, decide_eq_true_eq, gated, List.mem_map, and_assoc] at hFilter
    exact hFilter ▸ Iff.rfl
  rw [← hBody, ← and_or_left]
  simp only [ne_eq, Classical.em, and_true]

/-- No two lines of the body carry the same directive. -/
theorem eq_of_directive_eq (hRoot : root.Stands source) {m k : Marked}
    (hm : m ∈ markedIn (bodyLines source root)) (hk : k ∈ markedIn (bodyLines source root))
    (h : m.directive = k.directive) : m = k := by
  have hNodup : ((markedIn (bodyLines source root)).map Marked.directive).Nodup := by
    refine List.pairwise_map.mpr ((pairwise_marked hRoot).imp ?_)
    intro x y hBefore hSame
    rw [hSame] at hBefore
    exact Position.Before.irrefl _ hBefore
  exact List.inj_on_of_nodup_map hNodup hm hk h

theorem target_or_marked_of_mem_walk (hRoot : root.Stands source) {d : Directive}
    (h : d ∈ (walk source tags functions root).1.directives) :
    d.kind = .target ∨ ∃! m, m ∈ markedIn (bodyLines source root) ∧ m.directive = d := by
  rcases mem_walk_directives.mp h with hTarget | ⟨m, hm, -, rfl⟩
  · obtain ⟨n, -, hn⟩ := List.mem_flatMap.mp hTarget
    exact .inl (kind_of_mem_headerFindings hn)
  · exact .inr ⟨m, ⟨hm, rfl⟩, fun k hk => eq_of_directive_eq hRoot hk.1 hm hk.2⟩

/-- A directive stays if the tags of its line go on to hold. -/
theorem mem_walk_directives_of_guarded {a b : BuildTags} {P : String → Prop}
    (hP : ∀ c, P c → a.accepts c = true → b.accepts c = true) {d : Directive}
    (hGuarded : GuardedBy (markedIn (bodyLines source root)) P d)
    (h : d ∈ (walk source a functions root).1.directives) :
    d ∈ (walk source b functions root).1.directives := by
  rw [mem_walk_directives] at h ⊢
  rcases h with hTarget | ⟨m, hm, hHolds, rfl⟩
  · exact .inl hTarget
  · refine .inr ⟨m, hm, ?_, rfl⟩
    rw [Marked.holds, Option.all_eq_true] at hHolds ⊢
    intro c hc
    have hStays := hP _ (hGuarded m hm rfl c hc)
    rw [BuildTags.accepts, BuildTags.accepts, String.toList_ofList] at hStays
    exact hStays (hHolds c hc)

theorem scan_eq_error_congr [Go.Parser] (a b : BuildTags) (text : String) (isTest : Bool)
    (e : BuildError) :
    (scan a text isTest).1 = .error e ↔ (scan b text isTest).1 = .error e := by
  cases hRejected : rejection? text.toList isTest (Go.parse text.toList) with
  | some rejected => rw [scan_of_rejected hRejected, scan_of_rejected hRejected]
  | none =>
    rw [scan_of_accepted hRejected, scan_of_accepted hRejected]
    exact ⟨fun h => (nomatch h), fun h => (nomatch h)⟩

/-- **What further tags do.**  `marked` are the lines of the body with the form of a directive. -/
theorem extra_tags_effect [Go.Parser] (config : Config) (extra : List String) :
    let before := BuildTags.ofConfig config
    let after := BuildTags.ofConfig (config.adding extra)
    -- a condition depends on which of the names that it writes are satisfied
    (∀ (other : Config) e,
      (∀ n, BuildTags.WritesName e n → (n ∈ config.tagNames ↔ n ∈ other.tagNames)) →
      before.accepts e = (BuildTags.ofConfig other).accepts e) ∧
    -- so the order of the tags does not matter, nor how often they come, nor what the condition
    -- does not write
    (∀ tags e, (∀ x, x ∈ tags ↔ x ∈ config.tags) →
      (BuildTags.ofConfig { config with tags := tags }).accepts e = before.accepts e) ∧
    (∀ e, (∀ x ∈ extra, ¬ BuildTags.WritesName e x) → after.accepts e = before.accepts e) ∧
    -- without negation it goes on to hold, and with nothing but negated names it does not begin to
    (∀ e, BuildTags.NegatesNothing e → before.accepts e = true → after.accepts e = true) ∧
    (∀ e, BuildTags.NegatesAll e → after.accepts e = true → before.accepts e = true) ∧
    -- files are refused alike; a directive stays and does not come if the condition on its line is
    -- of this kind
    ∀ text isTest,
      let marked := markedIn (bodyLines text.toList (Go.parse text.toList))
      (∀ e, (scan before text isTest).1 = .error e ↔ (scan after text isTest).1 = .error e) ∧
      ∀ old new, (scan before text isTest).1 = .ok old → (scan after text isTest).1 = .ok new →
        (Go.Parser.Sound → ∀ d, d ∈ old.directives ∨ d ∈ new.directives →
          d.kind = .target ∨ ∃! m, m ∈ marked ∧ m.directive = d) ∧
        (∀ d ∈ old.directives, GuardedBy marked BuildTags.NegatesNothing d → d ∈ new.directives) ∧
        ∀ d ∈ new.directives, GuardedBy marked BuildTags.NegatesAll d → d ∈ old.directives := by
  intro before after
  have hSub : before.satisfied ⊆ after.satisfied := satisfied_subset_adding config extra
  have hMono (e : String) :
      BuildTags.NegatesNothing e → before.accepts e = true → after.accepts e = true :=
    BuildTags.accepts_mono hSub
  have hAntitone (e : String) :
      BuildTags.NegatesAll e → after.accepts e = true → before.accepts e = true :=
    BuildTags.accepts_antitone hSub
  refine ⟨fun other e h => BuildTags.accepts_congr h, ?_, ?_, hMono, hAntitone, ?_⟩
  · intro tags e hSame
    refine BuildTags.accepts_congr fun n _ => ?_
    simp only [before, satisfied_ofConfig, Config.tagNames, List.mem_append, hSame]
  · intro e hUnwritten
    refine BuildTags.accepts_congr fun n hn => ⟨fun hNew => ?_, fun hOld => hSub hOld⟩
    rw [satisfied_ofConfig, Config.tagNames, Config.adding, ← List.append_assoc] at hNew
    rcases List.mem_append.mp hNew with hOld | hExtra
    · exact hOld
    · exact absurd hn (hUnwritten n hExtra)
  · intro text isTest marked
    refine ⟨scan_eq_error_congr before after text isTest, fun old new hOld hNew => ?_⟩
    obtain ⟨-, rfl⟩ := eq_walk_of_scan hOld
    obtain ⟨-, rfl⟩ := eq_walk_of_scan hNew
    refine ⟨fun hParser d hd => ?_, fun d hd hGuarded => ?_, fun d hd hGuarded => ?_⟩
    · rcases hd with hd | hd
      · exact target_or_marked_of_mem_walk (hParser.stands text.toList) hd
      · exact target_or_marked_of_mem_walk (hParser.stands text.toList) hd
    · exact mem_walk_directives_of_guarded hMono hGuarded hd
    · exact mem_walk_directives_of_guarded hAntitone hGuarded hd

/-- Flags for every build, for one without a tag, and for one with another tag. -/
def pamPieces : List Plain.Piece :=
  [PackageName.piece ⟨'i', ['d'], by decide, List.forall_mem_singleton.mpr rfl, by decide⟩,
    CommentLine.piece ⟨" #cgo LDFLAGS: -lm".toList, by decide, .of_all rfl⟩,
    CommentLine.piece ⟨" #cgo !netgo CFLAGS: -DLIBC".toList, by decide, .of_all rfl⟩,
    CommentLine.piece ⟨" #cgo pam LDFLAGS: -lpam".toList, by decide, .of_all rfl⟩]

def pamText : String :=
  "package id\n// #cgo LDFLAGS: -lm\n// #cgo !netgo CFLAGS: -DLIBC\n// #cgo pam LDFLAGS: -lpam\n"

local instance pamParser : Go.Parser := Plain.parserOf [pamPieces]

theorem parse_pamText : pamText.toList = Plain.rendered pamPieces ∧
    Go.parse pamText.toList = Plain.tree pamPieces := by
  have hText : pamText.toList = Plain.rendered pamPieces := by decide
  exact ⟨hText, hText ▸ Plain.parse_parserOf_self pamPieces []⟩

theorem scan_pamText (tags : BuildTags) : (scan tags pamText false).1 =
    .ok (walk (Plain.rendered pamPieces) tags false (Plain.tree pamPieces)).1 := by
  have hAccepted : rejection? (Plain.rendered pamPieces) false (Plain.tree pamPieces) = none :=
    Option.isNone_iff_eq_none.mp (by decide +kernel)
  rw [← parse_pamText.1, ← parse_pamText.2] at hAccepted ⊢
  rw [scan_of_accepted hAccepted]

theorem marked_pamText :
    ((markedIn (bodyLines (Plain.rendered pamPieces) (Plain.tree pamPieces))).map fun m =>
      (m.condition, m.directive.payload)) =
    [(none, "-lm"), (some "!netgo".toList, "-DLIBC"), (some "pam".toList, "-lpam")] := by
  decide +kernel

/-- With the tag `pam` one flag comes.  The flag for every build stays, and the one without `netgo`
was there. -/
theorem extra_tags_effect_pam :
    let config : Config := ⟨"linux", "amd64", none, []⟩
    let always : Directive := ⟨.linkFlags, "-lm", ⟨2, 1⟩⟩
    let without : Directive := ⟨.compileFlags, "-DLIBC", ⟨3, 1⟩⟩
    let added : Directive := ⟨.linkFlags, "-lpam", ⟨4, 1⟩⟩
    ∃ old new, (scan (.ofConfig config) pamText false).1 = .ok old ∧
      (scan (.ofConfig (config.adding ["pam"])) pamText false).1 = .ok new ∧
      new.directives = [always, without, added] ∧ added ∉ old.directives ∧
      always ∈ old.directives ∧ always ∈ new.directives ∧ without ∈ old.directives := by
  intro config always without added
  have hGuarded {P : String → Prop} {d : Directive}
      (h : ∀ c, (some c, d.payload) ∈
        [(none, "-lm"), (some "!netgo".toList, "-DLIBC"), (some "pam".toList, "-lpam")] →
          P (String.ofList c)) :
      GuardedBy (markedIn (bodyLines pamText.toList (Go.parse pamText.toList))) P d := by
    intro m hm hDirective c hc
    rw [parse_pamText.2, parse_pamText.1] at hm
    have hPair := List.mem_map_of_mem (f := fun m : Marked => (m.condition, m.directive.payload)) hm
    rw [marked_pamText, hc, hDirective] at hPair
    exact h c hPair
  have hOld := scan_pamText (.ofConfig config)
  have hNew := scan_pamText (.ofConfig (config.adding ["pam"]))
  obtain ⟨-, -, -, -, -, hFiles⟩ := extra_tags_effect config ["pam"]
  obtain ⟨-, hStays, hWas⟩ := (hFiles pamText false).2 _ _ hOld hNew
  have hAlways : GuardedBy _ BuildTags.NegatesNothing always := hGuarded fun c hc => by
    simp [always] at hc
  have hWithout : GuardedBy _ BuildTags.NegatesAll without := hGuarded fun c hc => by
    obtain rfl : c = "!netgo".toList := by simpa [without] using hc
    rw [BuildTags.NegatesAll, String.ofList_toList, BuildTags.termsOf_of_notMem (by decide)]
    exact List.forall_mem_singleton.mpr ⟨"netgo", by decide⟩
  refine ⟨_, _, hOld, hNew, by decide +kernel, by decide +kernel, by decide +kernel,
    hStays always (by decide +kernel) hAlways, hWas without (by decide +kernel) hWithout⟩

end BuildScan
