import BuildScan.Proofs.Visible

/-!
# Lines and their conditions

Build tags decide about single lines.  Which lines of comments are looked at does not depend on them
(`linesLookedAt`), nor does what a line says that has the form of a directive (`Marked.ofLine?`): a
condition, if there is one, and the directive.  `tags_gate_lines` says that a scan finds the
directives of those lines whose condition holds, and that all else that it shows is the same under
all tags.

The recognizer takes the condition off a line and decides it at once; `unconditional?_eq` parts the
two.  From there on lists are filtered: a line that is refused leaves nothing, and it ends neither
its comment (`directives_blockFindings`) nor the walk.
-/

namespace BuildScan

open BuildScan.Text BuildScan.Go

/-! ### Single lines -/

/-- A directive as a comment line has it, with the condition in front of it, if there is one. -/
structure Marked where
  condition : Option (List Char)
  directive : Directive

/-- The line carries no condition, or one that holds. -/
def Marked.holds (tags : BuildTags) (m : Marked) : Bool := m.condition.all tags.holds

/-- The condition in front of a text, if there is one, and what follows it.  A first word is a
condition unless a colon ends it. -/
def conditionOf (rest : List Char) : Option (List Char) × List Char :=
  match words rest with
  | [] => (none, rest)
  | first :: _ =>
    if first.getLast? = some ':' then (none, rest)
    else (some first, trimStart (rest.drop first.length))

/-- What a line says if it has the form of a directive: the marker, perhaps a condition, a keyword
and the payload. -/
def Marked.ofLine? (line : List Char) (position : Position) : Option Marked :=
  (Directive.behind? "#cgo" (trim line)).bind fun rest =>
    if opensBlank rest then
      let parts := conditionOf (trim rest)
      (Directive.keyed? parts.2).map fun said =>
        ⟨parts.1, ⟨said.1, String.ofList said.2, position⟩⟩
    else none

/-- The directives of the lines whose conditions hold. -/
def gated (tags : BuildTags) (ms : List Marked) : List Directive :=
  (ms.filter (Marked.holds tags)).map Marked.directive

theorem gated_append (tags : BuildTags) (ms ns : List Marked) :
    gated tags (ms ++ ns) = gated tags ms ++ gated tags ns := by
  rw [gated, List.filter_append, List.map_append]
  rfl

theorem gated_cons (tags : BuildTags) (m : Marked) (ms : List Marked) :
    gated tags (m :: ms) =
      (if m.condition.all tags.holds then [m.directive] else []) ++ gated tags ms := by
  rw [gated, List.filter_cons, Marked.holds]
  split <;> rfl

theorem gated_flatMap {α : Type} (tags : BuildTags) (xs : List α) (f : α → List Marked) :
    gated tags (xs.flatMap f) = xs.flatMap fun x => gated tags (f x) := by
  rw [gated, List.filter_flatMap, List.map_flatMap]
  rfl

/-- Tags that agree on the conditions let the same lines through. -/
theorem gated_congr {a b : BuildTags} {ms : List Marked}
    (h : ∀ m ∈ ms, ∀ c, m.condition = some c → a.holds c = b.holds c) :
    gated a ms = gated b ms := by
  have hFilter : ms.filter (Marked.holds a) = ms.filter (Marked.holds b) := by
    refine List.filter_congr fun m hm => ?_
    rw [Marked.holds, Marked.holds]
    cases hCondition : m.condition with
    | none => rfl
    | some c => exact h m hm c hCondition
  rw [gated, gated, hFilter]

theorem unconditional?_eq (tags : BuildTags) (rest : List Char) :
    Directive.unconditional? tags rest =
      if (conditionOf rest).1.all tags.holds then some (conditionOf rest).2 else none := by
  rw [Directive.unconditional?, conditionOf]
  cases words rest with
  | nil => rfl
  | cons first others =>
    by_cases hColon : first.getLast? = some ':'
    · simp [hColon]
    · simp [hColon]

/-- A line gives its directive exactly if it has the form of one and its condition holds. -/
theorem directives_lineFindings (v : View) (line : List Char) (position : Position) :
    (v.lineFindings line position).directives =
      gated v.tags (Marked.ofLine? line position).toList := by
  rw [View.lineFindings, Directive.cgo?, Marked.ofLine?]
  cases Directive.behind? "#cgo" (trim line) with
  | none => rfl
  | some rest =>
    simp only [Option.bind_some]
    by_cases hBlank : opensBlank rest = true
    · rw [if_pos hBlank, if_pos hBlank, unconditional?_eq]
      by_cases hHolds : (conditionOf (trim rest)).1.all v.tags.holds = true
      · rw [if_pos hHolds, Option.bind_some]
        cases Directive.keyed? (conditionOf (trim rest)).2 with
        | none => rfl
        | some said => simp [gated, Marked.holds, hHolds]
      · rw [if_neg hHolds, Option.bind_none]
        cases Directive.keyed? (conditionOf (trim rest)).2 with
        | none => rfl
        | some said => simp [gated, Marked.holds, hHolds, Findings.none]
    · rw [if_neg hBlank, if_neg hBlank]
      rfl

theorem kind_of_ofLine? {line : List Char} {position : Position} {m : Marked}
    (h : Marked.ofLine? line position = some m) : m.directive.kind ≠ .target := by
  obtain ⟨rest, -, h⟩ := Option.bind_eq_some_iff.mp h
  by_cases hBlank : opensBlank rest = true
  · rw [if_pos hBlank] at h
    obtain ⟨said, hKeyed, rfl⟩ := Option.map_eq_some_iff.mp h
    obtain ⟨k, hMem, hSaid⟩ := List.exists_of_findSome?_eq_some hKeyed
    obtain ⟨payload, -, rfl⟩ := Option.map_eq_some_iff.mp hSaid
    have hKinds : ∀ k ∈ Directive.keywords, k.2 ≠ .target := by decide
    exact hKinds k hMem
  · rw [if_neg hBlank] at h
    cases h

/-! ### Comments -/

/-- The line that stands some lines below the beginning of a comment. -/
def below (position : Position) (i : Nat) : Position :=
  if i = 0 then position else ⟨position.line + i, 1⟩

theorem below_succ (position : Position) (i : Nat) :
    below position (i + 1) = below ⟨position.line + 1, 1⟩ i := by
  rw [below, below, if_neg (Nat.succ_ne_zero i), Nat.add_assoc, Nat.add_comm 1 i]
  split
  · subst i
    rfl
  · rfl

/-- The lines of a comment behind the header that are looked at, with their places: the only one of
a line comment, and those of a block comment up to the first that is too long. -/
def linesLookedAt (text : List Char) (position : Position) : List (List Char × Position) :=
  match Directive.behind? "//" text with
  | some body => [(body, position)]
  | none =>
    match View.blockInside? text with
    | some inside =>
      ((lines inside).takeWhile fun line => byteSize line ≤ maxCommentLine).mapIdx fun i line =>
        (line, below position i)
    | none => []

/-- What such lines say that have the form of a directive. -/
def markedIn (ls : List (List Char × Position)) : List Marked :=
  ls.filterMap fun l => Marked.ofLine? l.1 l.2

theorem markedIn_cons (l : List Char × Position) (ls : List (List Char × Position)) :
    markedIn (l :: ls) = (Marked.ofLine? l.1 l.2).toList ++ markedIn ls := by
  rw [markedIn, List.filterMap_cons]
  cases Marked.ofLine? l.1 l.2 <;> rfl

theorem kind_of_mem_markedIn {ls : List (List Char × Position)} {m : Marked} (h : m ∈ markedIn ls) :
    m.directive.kind ≠ .target := by
  obtain ⟨l, -, hLine⟩ := List.mem_filterMap.mp h
  exact kind_of_ofLine? hLine

/-- A block comment goes on behind a line that gives nothing, and stops at one that is too long. -/
theorem directives_blockFindings (v : View) (position : Position) (ls : List (List Char)) :
    (v.blockFindings position ls).directives =
      gated v.tags (markedIn ((ls.takeWhile fun line => byteSize line ≤ maxCommentLine).mapIdx
        fun i line => (line, below position i))) := by
  induction ls generalizing position with
  | nil => rfl
  | cons line ls ih =>
    rw [View.blockFindings]
    by_cases hLong : byteSize line > maxCommentLine
    · rw [if_pos hLong, List.takeWhile_cons_of_neg (by simpa using hLong)]
      rfl
    · have hShort : byteSize line ≤ maxCommentLine := Nat.not_lt.mp hLong
      rw [if_neg hLong, Findings.directives_append, directives_lineFindings, ih,
        List.takeWhile_cons_of_pos (by simpa using hShort), List.mapIdx_cons, markedIn_cons,
        gated_append]
      simp only [below_succ]
      rfl

theorem directives_bodyFindings (v : View) (text : List Char) (position : Position) :
    (v.bodyFindings text position).directives =
      gated v.tags (markedIn (linesLookedAt text position)) := by
  rw [View.bodyFindings, linesLookedAt]
  cases Directive.behind? "//" text with
  | some body =>
    rw [markedIn_cons]
    exact (directives_lineFindings v body position).trans
      (by rw [markedIn, List.filterMap_nil, List.append_nil])
  | none =>
    cases View.blockInside? text with
    | some inside => exact directives_blockFindings v position (lines inside)
    | none => rfl

theorem log_bodyFindings (v w : View) (text : List Char) (position : Position) :
    (v.bodyFindings text position).log = (w.bodyFindings text position).log := by
  have hLine (u : View) (line : List Char) (p : Position) : (u.lineFindings line p).log = [] := by
    rw [View.lineFindings]
    split <;> rfl
  have hBlock (ls : List (List Char)) (p : Position) :
      (v.blockFindings p ls).log = (w.blockFindings p ls).log := by
    induction ls generalizing p with
    | nil => rfl
    | cons line ls ih =>
      rw [View.blockFindings, View.blockFindings]
      split
      · rfl
      · rw [Findings.log_append, Findings.log_append, hLine, hLine, ih]
  rw [View.bodyFindings, View.bodyFindings]
  cases Directive.behind? "//" text with
  | some body => exact (hLine v body position).trans (hLine w body position).symm
  | none =>
    cases View.blockInside? text with
    | some inside => exact hBlock (lines inside) position
    | none => rfl

theorem kind_of_mem_headerFindings {text : List Char} {position : Position} {d : Directive}
    (h : d ∈ (View.headerFindings text position).directives) : d.kind = .target := by
  rw [View.headerFindings] at h
  split at h
  · obtain rfl := List.mem_singleton.mp h
    rfl
  · cases h

/-! ### Files -/

/-- The comments that a walk comes to, in the order of the text. -/
def commentsOf (root : Node) : List Node :=
  if root.kind = .sourceFile then
    ((visiblePlaces root).map Prod.snd).filter fun n => n.kind = .comment
  else []

/-- The comment is one of the header. -/
def inHeader (root n : Node) : Bool := n.start < packageStart root

/-- The lines of one comment that are looked at. -/
def Go.Node.commentLines (source : List Char) (n : Node) : List (List Char × Position) :=
  linesLookedAt (n.text source) (Position.ofOffset source n.start)

/-- The lines of a file behind its header that are looked at. -/
def bodyLines (source : List Char) (root : Node) : List (List Char × Position) :=
  ((commentsOf root).filter fun n => !inHeader root n).flatMap (Node.commentLines source)

/-- The targets that the header of a file names. -/
def headerTargets (source : List Char) (root : Node) : List Directive :=
  ((commentsOf root).filter (inHeader root)).flatMap fun n =>
    (View.headerFindings (n.text source) (Position.ofOffset source n.start)).directives

variable (source : List Char) (functions : Bool) (root : Node)

theorem walk_eq_commentsOf (tags : BuildTags) :
    let view := viewOf source tags functions root
    (walk source tags functions root).1.directives =
        (commentsOf root).flatMap (fun n => (view.findingsOfComment n).directives) ∧
      (walk source tags functions root).2 =
        (commentsOf root).flatMap fun n => (view.findingsOfComment n).log := by
  by_cases hFile : root.kind = .sourceFile
  · rw [walk_eq_visiblePlaces hFile, commentsOf, if_pos hFile]
    exact ⟨rfl, rfl⟩
  · rw [walk_eq_none hFile, commentsOf, if_neg hFile]
    exact ⟨rfl, rfl⟩

theorem walk_directives (tags : BuildTags) :
    (walk source tags functions root).1.directives = (commentsOf root).flatMap fun n =>
      if inHeader root n then
        (View.headerFindings (n.text source) (Position.ofOffset source n.start)).directives
      else gated tags (markedIn (n.commentLines source)) := by
  rw [(walk_eq_commentsOf source functions root tags).1]
  refine congrArg (List.flatMap · _) (funext fun n => ?_)
  rw [View.findingsOfComment, View.commentFindings, inHeader, Node.commentLines]
  by_cases hStart : n.start < packageStart root
  · rw [if_pos (by exact hStart), if_pos (by simpa using hStart)]
    rfl
  · rw [if_neg (by exact hStart), if_neg (by simpa using hStart)]
    exact directives_bodyFindings (viewOf source tags functions root) _ _

/-- Apart from the directives, a walk shows the same under all tags. -/
theorem walk_congr_tags (a b : BuildTags) :
    walk source a functions root =
      ({ (walk source b functions root).1 with
          directives := (walk source a functions root).1.directives },
        (walk source b functions root).2) := by
  by_cases hFile : root.kind = .sourceFile
  · have hLog (n : Node) : ((viewOf source a functions root).findingsOfComment n).log =
        ((viewOf source b functions root).findingsOfComment n).log := by
      rw [View.findingsOfComment, View.findingsOfComment, View.commentFindings,
        View.commentFindings]
      split
      · rename_i hStart
        rw [if_pos (by exact hStart)]
        rfl
      · rename_i hStart
        rw [if_neg (by exact hStart)]
        exact log_bodyFindings _ _ _ _
    rw [walk_eq_visiblePlaces hFile, walk_eq_visiblePlaces hFile]
    simp only [hLog]
  · rw [walk_eq_none hFile, walk_eq_none hFile]

theorem flatMap_filter_eq {α β : Type} (p : α → Bool) (xs : List α) (f : α → List β) :
    (xs.filter p).flatMap f = xs.flatMap fun x => if p x then f x else [] := by
  induction xs with
  | nil => rfl
  | cons x xs ih =>
    rw [List.flatMap_cons, ← ih]
    by_cases hx : p x = true
    · rw [List.filter_cons_of_pos hx, if_pos hx, List.flatMap_cons]
    · rw [List.filter_cons_of_neg hx, if_neg hx, List.nil_append]

theorem walk_targets (tags : BuildTags) :
    ((walk source tags functions root).1.directives.filter fun d => d.kind = .target) =
      headerTargets source root := by
  rw [walk_directives, List.filter_flatMap, headerTargets, flatMap_filter_eq]
  refine congrArg (List.flatMap · _) (funext fun n => ?_)
  split
  · exact List.filter_eq_self.mpr fun d hd => decide_eq_true (kind_of_mem_headerFindings hd)
  · refine List.filter_eq_nil_iff.mpr fun d hd => ?_
    obtain ⟨m, hm, rfl⟩ := List.mem_map.mp hd
    simpa using kind_of_mem_markedIn (List.mem_of_mem_filter hm)

/-- The lines of the body are those of its comments, one after the other. -/
theorem markedIn_bodyLines : markedIn (bodyLines source root) =
    ((commentsOf root).filter fun n => !inHeader root n).flatMap fun n =>
      markedIn (n.commentLines source) := by
  rw [markedIn, bodyLines, List.filterMap_flatMap]
  rfl

theorem walk_gated (tags : BuildTags) :
    ((walk source tags functions root).1.directives.filter fun d => d.kind ≠ .target) =
      gated tags (markedIn (bodyLines source root)) := by
  rw [walk_directives, List.filter_flatMap, markedIn_bodyLines, gated_flatMap, flatMap_filter_eq]
  refine congrArg (List.flatMap · _) (funext fun n => ?_)
  cases inHeader root n with
  | true =>
    refine List.filter_eq_nil_iff.mpr fun d hd => ?_
    simpa using kind_of_mem_headerFindings hd
  | false =>
    refine List.filter_eq_self.mpr fun d hd => ?_
    obtain ⟨m, hm, rfl⟩ := List.mem_map.mp hd
    simpa using kind_of_mem_markedIn (List.mem_of_mem_filter hm)

theorem walk_directives_congr {a b : BuildTags}
    (h : ∀ m ∈ markedIn (bodyLines source root), ∀ c, m.condition = some c →
      a.holds c = b.holds c) :
    (walk source a functions root).1.directives = (walk source b functions root).1.directives := by
  rw [walk_directives, walk_directives]
  refine List.flatMap_congr fun n hn => ?_
  split
  · rfl
  · rename_i hHeader
    refine gated_congr fun m hm => h m ?_
    obtain ⟨l, hl, hLine⟩ := List.mem_filterMap.mp hm
    refine List.mem_filterMap.mpr ⟨l, List.mem_flatMap.mpr ⟨n, ?_, hl⟩, hLine⟩
    exact List.mem_filter.mpr ⟨hn, by simpa using hHeader⟩

/-- **Tags gate the lines that carry them**, and nothing else.  A file is refused under all tags,
and for the same reason, or it is read under all tags.  Then everything but the directives of the
body is the same, and these are the directives of the marked lines, in their order, without those
whose condition fails. -/
theorem tags_gate_lines [Go.Parser] (text : String) (isTest : Bool) :
    let root := Go.parse text.toList
    let marked := markedIn (bodyLines text.toList root)
    ((∃ e, ∀ tags, scan tags text isTest = (.error e, [])) ∨
      ∃ package deps funcs targets log, ∀ tags, ∃ directives,
        scan tags text isTest = (.ok ⟨package, deps, funcs, directives⟩, log) ∧
        (directives.filter fun d => d.kind = .target) = targets ∧
        (directives.filter fun d => d.kind ≠ .target) = gated tags marked) ∧
    -- the lines without a condition are all there
    (∀ tags, gated tags (marked.filter fun m => m.condition.isNone) =
      (marked.filter fun m => m.condition.isNone).map Marked.directive) ∧
    -- a line is there or not by its own condition, whatever becomes of the others
    (∀ before m behind, marked = before ++ m :: behind → ∀ tags, gated tags marked =
      gated tags before ++ (if m.condition.all tags.holds then [m.directive] else []) ++
        gated tags behind) ∧
    -- tags that agree on the conditions of the file are as good as one another
    (∀ a b : BuildTags,
      (∀ m ∈ marked, ∀ c, m.condition = some c → a.holds c = b.holds c) →
        scan a text isTest = scan b text isTest) := by
  intro root marked
  refine ⟨?_, ?_, ?_, ?_⟩
  · cases hRejected : rejection? text.toList isTest root with
    | some e => exact .inl ⟨e, fun tags => scan_of_rejected hRejected⟩
    | none =>
      let facts := walk text.toList ⟨[]⟩ isTest root
      refine .inr ⟨facts.1.package, facts.1.deps, facts.1.funcs, headerTargets text.toList root,
        facts.2, fun tags => ⟨(walk text.toList tags isTest root).1.directives, ?_, ?_, ?_⟩⟩
      · rw [scan_of_accepted hRejected]
        exact congrArg (fun found : Scanned × Log => (Except.ok found.1, found.2))
          (walk_congr_tags text.toList isTest root tags ⟨[]⟩)
      · exact walk_targets text.toList isTest root tags
      · exact walk_gated text.toList isTest root tags
  · intro tags
    rw [gated, List.filter_eq_self.mpr]
    intro m hm
    rw [Marked.holds, Option.isNone_iff_eq_none.mp (List.mem_filter.mp hm).2]
    rfl
  · intro before m behind hSplit tags
    rw [hSplit, gated_append, gated_cons, List.append_assoc]
  · intro a b hAgree
    cases hRejected : rejection? text.toList isTest root with
    | some e => rw [scan_of_rejected hRejected, scan_of_rejected hRejected]
    | none =>
      rw [scan_of_accepted hRejected, scan_of_accepted hRejected,
        walk_congr_tags text.toList isTest root a b,
        walk_directives_congr text.toList isTest root hAgree]

end BuildScan
