import BuildScan.Go.Terminal
import BuildScan.Proofs.PlainText
import BuildScan.Scan

/-!
# Plain files and their facts

A `PlainFile` is what a simple file says: the targets that it is for, its package, and imports and
comments in any order.  `PlainFile.text` writes it down, one thing below the other, and
`PlainFile.facts` are the facts that a scan should find.

Each of its parts is a piece, so the grammar reads the text as one item for each of them.  What a
name, a path or a comment must not hold is what would end it too early, or make it read as something
else; the structures below carry the proofs of that.
-/

namespace BuildScan

open BuildScan.Text BuildScan.Go

/-! ### What a plain file says -/

/-- A name that a package can have, in ASCII. -/
structure PackageName where
  first : Char
  rest : List Char
  opens : (first.isAlpha || first == '_') = true
  continues : ∀ c ∈ rest, (c.isAlphanum || c == '_') = true
  free : String.ofList (first :: rest) ∉ Terminal.keywords ++ Terminal.nameWords

/-- A word that names a target. -/
structure TargetName where
  text : List Char
  nonempty : text ≠ []
  visible : ∀ c ∈ text, isBlank c = false ∧ c ≠ Lexeme.nul

/-- What stands between the quotes of an import. -/
structure ImportPath where
  inside : List Char
  printable : ∀ c ∈ inside, 0x20 ≤ c.toNat ∧ c.toNat ≤ 0x7E ∧ c ≠ '"' ∧ c ≠ '\\'

/-- One line of a comment, without the marks around the comment. -/
structure CommentLine where
  text : List Char
  oneLine : OneLine text
  staysInside : StaysInside text

/-- One line of a block comment, not too long to be looked at. -/
structure BlockLine extends CommentLine where
  short : byteSize text ≤ maxCommentLine

/-- What may stand below a package clause. -/
inductive BodyItem where
  | importOf (path : ImportPath)
  | lineComment (line : CommentLine)
  | blockComment (lines : List BlockLine)

structure PlainFile where
  targets : List TargetName
  package : PackageName
  items : List BodyItem

/-! ### How it is written -/

def PackageName.text (p : PackageName) : List Char := p.first :: p.rest

def ImportPath.text (p : ImportPath) : List Char := '"' :: (p.inside ++ ['"'])

/-- The lines of a block comment, with line ends between them. -/
def joined (ls : List BlockLine) : List Char := ['\n'].intercalate (ls.map fun l => l.text)

def BodyItem.text : BodyItem → List Char
  | importOf path => "import ".toList ++ path.text
  | lineComment line => "//".toList ++ line.text
  | blockComment ls => "/*".toList ++ joined ls ++ "*/".toList

def PlainFile.text (f : PlainFile) : List Char :=
  f.targets.flatMap (fun t => "// target: ".toList ++ t.text ++ ['\n']) ++
    ("package ".toList ++ f.package.text ++ ['\n'] ++ f.items.flatMap fun i => i.text ++ ['\n'])

/-! ### What a scan should find -/

/-- The directive that a comment's line makes on a line of the file. -/
def CommentLine.directive? (tags : BuildTags) (l : CommentLine) (line : Nat) : Option Directive :=
  (Directive.cgo? tags (trim l.text)).map fun d => ⟨d.1, String.ofList d.2, ⟨line, 1⟩⟩

/-- The directive of a target on a line of the header. -/
def TargetName.directive (t : TargetName) (line : Nat) : Directive :=
  ⟨.target, String.ofList t.text, ⟨line, 1⟩⟩

namespace BodyItem

def dep? : BodyItem → Option String
  | importOf path => some (String.ofList path.text)
  | _ => none

/-- The number of lines that an item takes. -/
def height : BodyItem → Nat
  | blockComment ls => max 1 ls.length
  | _ => 1

/-- The directives of an item whose first line has a number. -/
def directives (tags : BuildTags) (line : Nat) : BodyItem → List Directive
  | importOf _ => []
  | lineComment l => (l.directive? tags line).toList
  | blockComment ls => (ls.zipIdx line).filterMap fun l => l.1.directive? tags l.2

/-- The directives of items below one another. -/
def directivesFrom (tags : BuildTags) (line : Nat) : List BodyItem → List Directive
  | [] => []
  | i :: is => i.directives tags line ++ directivesFrom tags (line + i.height) is

end BodyItem

/-- The package clause stands below the targets, and the items below it. -/
def PlainFile.facts (tags : BuildTags) (f : PlainFile) : Scanned where
  package := String.ofList f.package.text
  deps := f.items.filterMap BodyItem.dep?
  funcs := []
  directives := (f.targets.zipIdx 1).map (fun t => t.1.directive t.2) ++
    BodyItem.directivesFrom tags (f.targets.length + 2) f.items

/-! ### How it is read -/

namespace PackageName

variable (p : PackageName)

theorem ne_lineEnd_of_mem {c : Char} (hc : c ∈ p.text) : c ≠ '\n' := by
  rintro rfl
  rcases List.mem_cons.mp hc with hFirst | hRest
  · exact absurd p.opens (hFirst ▸ by decide)
  · exact absurd (p.continues _ hRest) (by decide)

def piece : Plain.Piece := .ofPackage p.text

theorem count_lineEnd : p.piece.text.count '\n' = 0 := by
  have hName : p.text.count '\n' = 0 := count_lineEnd_of_forall fun _ hc => p.ne_lineEnd_of_mem hc
  have hText : p.piece.text = "package ".toList ++ p.text := rfl
  rw [hText, List.count_append, hName]
  rfl

end PackageName

def CommentLine.piece (l : CommentLine) : Plain.Piece :=
  .ofComment '/' l.text
    (Lexeme.comment?_line fun c hc => ⟨(l.oneLine c hc).1, l.staysInside.noNul c hc⟩)

theorem CommentLine.count_lineEnd (l : CommentLine) : l.text.count '\n' = 0 :=
  count_lineEnd_of_forall fun c hc => (l.oneLine c hc).1

theorem TargetName.ne_of_mem (t : TargetName) {c : Char} (hc : c ∈ " target: ".toList ++ t.text) :
    c ≠ '\n' ∧ c ≠ Lexeme.nul := by
  rcases List.mem_append.mp hc with hMark | hName
  · have hAll : " target: ".toList.all (fun d => d != '\n' && d != Lexeme.nul) = true := rfl
    have hFits := List.all_eq_true.mp hAll c hMark
    rw [Bool.and_eq_true, bne_iff_ne, bne_iff_ne] at hFits
    exact hFits
  · obtain ⟨hVisible, hNul⟩ := t.visible c hName
    refine ⟨?_, hNul⟩
    rintro rfl
    exact absurd hVisible (by decide)

def TargetName.piece (t : TargetName) : Plain.Piece :=
  .ofComment '/' (" target: ".toList ++ t.text) (Lexeme.comment?_line fun _ hc => t.ne_of_mem hc)

theorem ImportPath.ne_lineEnd_of_mem (p : ImportPath) {c : Char} (hc : c ∈ p.inside) :
    c ≠ '\n' := by
  rintro rfl
  exact absurd (p.printable _ hc).1 (by decide)

def ImportPath.piece (p : ImportPath) : Plain.Piece := .ofImport p.inside

theorem joined_singleton (l : BlockLine) : joined [l] = l.text := List.intercalate_singleton

theorem joined_cons_cons (l m : BlockLine) (ls : List BlockLine) :
    joined (l :: m :: ls) = l.text ++ '\n' :: joined (m :: ls) := by
  rw [joined, List.map_cons, List.map_cons, List.intercalate_cons_cons, List.append_assoc]
  rfl

/-- Neither a line nor a seam between two of them closes the comment. -/
theorem blockRest?_joined (ls : List BlockLine) :
    Lexeme.blockRest? (joined ls ++ "*/".toList) = some ((joined ls).length + 2) := by
  induction ls with
  | nil => rfl
  | cons l ls ih =>
    cases ls with
    | nil =>
      rw [joined_singleton]
      exact Lexeme.blockRest?_close l.staysInside
    | cons m ls =>
      have hNext : Lexeme.blockRest? ('\n' :: (joined (m :: ls) ++ "*/".toList)) =
          some ((joined (m :: ls)).length + 2 + 1) := congrArg (Option.map (· + 1)) ih
      rw [joined_cons_cons, List.append_assoc, List.cons_append,
        Lexeme.blockRest?_append l.staysInside (by decide) _, hNext, Option.map_some,
        List.length_append, List.length_cons]
      congr 1
      omega

theorem comment?_of_blockRest? {inside : List Char}
    (h : Lexeme.blockRest? (inside ++ "*/".toList) = some (inside.length + 2)) :
    Lexeme.comment? ('/' :: '*' :: (inside ++ "*/".toList)) =
      some ((inside ++ "*/".toList).length + 2) := by
  rw [Lexeme.comment?, h, Option.map_some, List.length_append]
  rfl

def blockPiece (ls : List BlockLine) : Plain.Piece :=
  .ofComment '*' (joined ls ++ "*/".toList) (comment?_of_blockRest? (blockRest?_joined ls))

def BodyItem.piece : BodyItem → Plain.Piece
  | importOf path => path.piece
  | lineComment l => l.piece
  | blockComment ls => blockPiece ls

theorem BodyItem.piece_text (i : BodyItem) : i.piece.text = i.text := by
  cases i <;> rfl

end BuildScan
