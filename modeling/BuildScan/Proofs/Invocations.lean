import BuildScan.Invocation
import BuildScan.Proofs.Blanks

/-!
# Putting commands together

The words of a text are the only ones that it spells (`words_eq_iff`): words with blanks between
them, where a word goes on to the next blank.  Arguments are split into words one after the other,
so the words of arguments are those of any text that joins them with blanks (`splitArgs_of_joins`),
and words stay as they are (`splitArgs_of_isWord`).

A command takes arguments and directories in any order.  What it has in the end are the words of all
arguments (`argv_takeAll`), so their grouping does not matter (`arguments_split_alike`), and each of
them is a word.  This is why the shown command can be read back: it joins words with blanks
(`shown_command_is_faithful`).
-/

namespace BuildScan

open BuildScan.Text

/-! ### The words of a text -/

namespace Text

/-- The text has these words, with blanks before, between and behind them. -/
inductive Spells : List (List Char) → List Char → Prop
  | blanks {cs : List Char} : Blanks cs → Spells [] cs
  /-- A word goes on to the next blank or to the end. -/
  | word {gap w rest : List Char} {ws : List (List Char)} :
      Blanks gap → IsWord w → opensBlank rest = true → Spells ws rest →
      Spells (w :: ws) (gap ++ (w ++ rest))

variable {ws : List (List Char)} {cs : List Char} {c : Char}

theorem Spells.cons_of_blank (h : Spells ws cs) (hc : isBlank c = true) : Spells ws (c :: cs) := by
  cases h with
  | blanks hBlanks => exact .blanks (List.forall_mem_cons.mpr ⟨hc, hBlanks⟩)
  | word hGap hWord hOpens hRest =>
    rw [← List.cons_append]
    exact .word (List.forall_mem_cons.mpr ⟨hc, hGap⟩) hWord hOpens hRest

/-- In front of a text that does not open with a blank, a character joins the first word. -/
theorem Spells.cons_of_not_opensBlank (h : Spells ws cs) (hc : isBlank c = false)
    (hOpens : ¬ opensBlank cs = true) :
    ∃ w others, ws = w :: others ∧ Spells ((c :: w) :: others) (c :: cs) := by
  cases h with
  | blanks hBlanks => exact absurd (opensBlank_of_blanks hBlanks) hOpens
  | @word gap w rest others hGap hWord hRest hSpells =>
    cases gap with
    | nil =>
      have hLonger : IsWord (c :: w) :=
        ⟨List.cons_ne_nil _ _, List.forall_mem_cons.mpr ⟨hc, hWord.2⟩⟩
      refine ⟨w, others, rfl, ?_⟩
      show Spells ((c :: w) :: others) ([] ++ ((c :: w) ++ rest))
      exact .word hGap hLonger hRest hSpells
    | cons d gap => exact absurd (hGap d List.mem_cons_self) hOpens

theorem spells_words (cs : List Char) : Spells (words cs) cs := by
  induction cs with
  | nil => exact .blanks (List.forall_mem_nil _)
  | cons c cs ih =>
    rw [words]
    by_cases hBlank : isBlank c = true
    · rw [if_pos hBlank]
      exact ih.cons_of_blank hBlank
    · have hLetter : isBlank c = false := Bool.not_eq_true _ ▸ hBlank
      rw [if_neg hBlank]
      by_cases hOpens : opensBlank cs = true
      · have hWord : IsWord [c] := ⟨List.cons_ne_nil _ _, List.forall_mem_singleton.mpr hLetter⟩
        rw [if_pos hOpens]
        show Spells ([c] :: words cs) ([] ++ ([c] ++ cs))
        exact .word (List.forall_mem_nil _) hWord hOpens ih
      · obtain ⟨w, others, hWords, hSpells⟩ := ih.cons_of_not_opensBlank hLetter hOpens
        rw [if_neg hOpens, hWords]
        exact hSpells

theorem Spells.words_eq (h : Spells ws cs) : words cs = ws := by
  induction h with
  | blanks hBlanks =>
    have hNone := words_blanks_append hBlanks []
    rwa [List.append_nil] at hNone
  | word hGap hWord hOpens _ ih => rw [words_blanks_append hGap, words_append hWord hOpens, ih]

theorem words_eq_iff : words cs = ws ↔ Spells ws cs :=
  ⟨fun h => h ▸ spells_words cs, Spells.words_eq⟩

/-- Words leave out the blanks of a text and nothing else. -/
theorem Spells.flatten_eq (h : Spells ws cs) : ws.flatten = cs.filter fun c => !isBlank c := by
  induction h with
  | blanks hBlanks => exact (List.filter_eq_nil_iff.mpr fun c hc => by simp [hBlanks c hc]).symm
  | @word gap w rest ws hGap hWord _ _ ih =>
    have hNone : gap.filter (fun c => !isBlank c) = [] :=
      List.filter_eq_nil_iff.mpr fun c hc => by simp [hGap c hc]
    have hAll : w.filter (fun c => !isBlank c) = w :=
      List.filter_eq_self.mpr fun c hc => by simp [hWord.2 c hc]
    rw [List.flatten_cons, List.filter_append, List.filter_append, hNone, hAll, ih, List.nil_append]

theorem wordsOf_eq_iff {s : String} {ws : List String} :
    wordsOf s = ws ↔ Spells (ws.map String.toList) s.toList := by
  rw [← words_eq_iff, wordsOf]
  constructor
  · rintro rfl
    simp
  · intro hWords
    simp [hWords]

end Text

/-! ### Arguments -/

/-- The text joins the arguments, with blanks between any two of them. -/
inductive Joins : List String → String → Prop
  | none : Joins [] ""
  | one (arg : String) : Joins [arg] arg
  | more {arg next gap whole : String} {args : List String} :
      gap ≠ "" → Blanks gap.toList → Joins (next :: args) whole →
        Joins (arg :: next :: args) (arg ++ gap ++ whole)

section

variable {args ws : List String} {gap : String}

theorem joins_intercalate (hNil : gap ≠ "") (hGap : Blanks gap.toList) (args : List String) :
    Joins args (gap.intercalate args) := by
  induction args with
  | nil => exact .none
  | cons arg args ih =>
    cases args with
    | nil =>
      rw [String.intercalate_singleton]
      exact .one arg
    | cons next args =>
      rw [String.intercalate_cons_cons]
      exact .more hNil hGap ih

theorem splitArgs_singleton (arg : String) : splitArgs [arg] = wordsOf arg :=
  List.flatMap_singleton ..

theorem splitArgs_append (args more : List String) :
    splitArgs (args ++ more) = splitArgs args ++ splitArgs more :=
  List.flatMap_append

theorem isWord_of_mem_splitArgs {w : String} (h : w ∈ splitArgs args) : IsWord w.toList := by
  obtain ⟨arg, -, hw⟩ := List.mem_flatMap.mp h
  exact isWord_of_mem_wordsOf hw

theorem splitArgs_of_isWord (h : ∀ w ∈ ws, IsWord w.toList) : splitArgs ws = ws := by
  induction ws with
  | nil => rfl
  | cons w ws ih =>
    obtain ⟨hFirst, hRest⟩ := List.forall_mem_cons.mp h
    have hSplit := ih hRest
    rw [splitArgs] at hSplit ⊢
    rw [List.flatMap_cons, wordsOf_of_isWord hFirst, hSplit, List.singleton_append]

theorem splitArgs_of_joins {whole : String} (h : Joins args whole) :
    splitArgs [whole] = splitArgs args := by
  induction h with
  | none => rfl
  | one arg => rfl
  | @more arg next gap whole args hNil hGap _ ih =>
    rw [splitArgs_singleton] at ih ⊢
    rw [wordsOf_append_gap hNil hGap, ih]
    rfl

theorem join_wordsOf (arg : String) :
    (wordsOf arg).flatMap String.toList = arg.toList.filter fun c => !isBlank c := by
  rw [← (spells_words arg.toList).flatten_eq, wordsOf, List.flatMap_map, List.flatMap_def]
  simp

/-- Splitting leaves out the blanks of the arguments and nothing else. -/
theorem join_splitArgs (args : List String) :
    String.join (splitArgs args) =
      String.ofList ((String.join args).toList.filter fun c => !isBlank c) := by
  rw [← String.toList_inj, String.toList_ofList, String.toList_join, String.toList_join, splitArgs,
    List.flatMap_assoc, List.filter_flatMap]
  exact congrArg (List.flatMap · args) (funext join_wordsOf)

end

/-! ### Commands -/

namespace Invocation

/-- One step of putting a command together. -/
inductive Step where
  | withArgs (args : List String)
  | inDirectory (dir : String)

namespace Step

/-- The arguments that a step gives. -/
def args : Step → List String
  | withArgs args => args
  | inDirectory _ => []

/-- The step does not give a directory. -/
def givesArgs : Step → Bool
  | withArgs _ => true
  | inDirectory _ => false

end Step

/-- The command after a step. -/
def take (inv : Invocation) : Step → Invocation
  | .withArgs args => inv.withArgs args
  | .inDirectory dir => inv.inDirectory dir

/-- The command after some steps. -/
def takeAll (inv : Invocation) (steps : List Step) : Invocation := steps.foldl take inv

theorem argv_take (inv : Invocation) (step : Step) :
    (inv.take step).argv = inv.argv ++ splitArgs step.args := by
  cases step with
  | withArgs args => rfl
  | inDirectory dir => exact (List.append_nil _).symm

theorem program_take (inv : Invocation) (step : Step) : (inv.take step).program = inv.program := by
  cases step <;> rfl

theorem argv_takeAll (inv : Invocation) (steps : List Step) :
    (inv.takeAll steps).argv = inv.argv ++ splitArgs (steps.flatMap Step.args) := by
  induction steps generalizing inv with
  | nil => exact (List.append_nil _).symm
  | cons step steps ih =>
    have hRest := ih (inv.take step)
    rw [argv_take, List.append_assoc, ← splitArgs_append, ← List.flatMap_cons] at hRest
    exact hRest

theorem program_takeAll (inv : Invocation) (steps : List Step) :
    (inv.takeAll steps).program = inv.program := by
  induction steps generalizing inv with
  | nil => rfl
  | cons step steps ih => exact (ih (inv.take step)).trans (program_take inv step)

theorem flatMap_args_filter (steps : List Step) :
    (steps.filter Step.givesArgs).flatMap Step.args = steps.flatMap Step.args := by
  induction steps with
  | nil => rfl
  | cons step steps ih =>
    cases step with
    | withArgs args => rw [List.filter_cons_of_pos rfl, List.flatMap_cons, List.flatMap_cons, ih]
    | inDirectory dir =>
      rw [List.filter_cons_of_neg Bool.false_ne_true, ih]
      rfl

theorem isWord_of_mem_argv {program w : String} {steps : List Step}
    (h : w ∈ ((new program).takeAll steps).argv) : IsWord w.toList := by
  rw [argv_takeAll] at h
  exact isWord_of_mem_splitArgs h

/-- The words that a command is given are all that it has of its arguments. -/
theorem argv_takeAll_eq_iff {inv : Invocation} {steps others : List Step} :
    (inv.takeAll steps).argv = (inv.takeAll others).argv ↔
      splitArgs (steps.flatMap Step.args) = splitArgs (others.flatMap Step.args) := by
  rw [argv_takeAll, argv_takeAll, List.append_cancel_left_eq]

end Invocation

open Invocation (Step)

/-- **Arguments are split alike, however they are grouped.** -/
theorem arguments_split_alike :
    -- the words of a text are those that it spells
    (∀ text ws, splitArgs [text] = ws ↔ Spells (ws.map String.toList) text.toList) ∧
    -- what splitting gives are words, and it leaves out blanks and nothing else
    (∀ args, (∀ w ∈ splitArgs args, IsWord w.toList) ∧
      String.join (splitArgs args) =
        String.ofList ((String.join args).toList.filter fun c => !isBlank c)) ∧
    -- one argument is split after the other, and what is split already stays as it is
    (∀ args more, splitArgs (args ++ more) = splitArgs args ++ splitArgs more) ∧
    (∀ args, splitArgs (splitArgs args) = splitArgs args) ∧
    -- arguments may be joined by blanks, of the same kind everywhere or not
    (∀ args whole, Joins args whole → splitArgs [whole] = splitArgs args) ∧
    (∀ args gap, gap ≠ "" → Blanks gap.toList → splitArgs [gap.intercalate args] = splitArgs args) ∧
    -- so a command has the words of all arguments, whatever strings, lists and steps they come in
    ∀ (inv : Invocation) (steps : List Step),
      (inv.takeAll steps).argv = inv.argv ++ splitArgs (steps.flatMap Step.args) ∧
      ∀ others, (inv.takeAll steps).argv = (inv.takeAll others).argv ↔
        splitArgs (steps.flatMap Step.args) = splitArgs (others.flatMap Step.args) := by
  refine ⟨fun text ws => ?_,
    fun args => ⟨fun w hw => isWord_of_mem_splitArgs hw, join_splitArgs args⟩,
    splitArgs_append, fun args => splitArgs_of_isWord fun w hw => isWord_of_mem_splitArgs hw,
    fun args whole h => splitArgs_of_joins h,
    fun args gap hNil hGap => splitArgs_of_joins (joins_intercalate hNil hGap args),
    fun inv steps =>
      ⟨Invocation.argv_takeAll inv steps, fun others => Invocation.argv_takeAll_eq_iff⟩⟩
  rw [splitArgs_singleton]
  exact wordsOf_eq_iff

/-- Four arguments, joined by a gap of two other blanks, and given in two steps with a directory
between them. -/
theorem arguments_split_alike_compiler :
    let args := ["-o main.6", "", "  -I/usr/include\u3000-DX ", "main.go"]
    let gap := "\u00a0\t"
    let flags := ["-o", "main.6", "-I/usr/include", "-DX", "main.go"]
    gap ≠ "" ∧ Blanks gap.toList ∧ splitArgs args = flags ∧
    splitArgs [gap.intercalate args] = flags ∧
      ((Invocation.new "6g").takeAll [.withArgs args]).argv =
        ((Invocation.new "6g").takeAll
          [.withArgs ["-o", "main.6 -I/usr/include"], .inDirectory "/tmp",
          .withArgs ["-DX\nmain.go"]]).argv := by
  intro args gap flags
  obtain ⟨-, -, -, -, -, hJoin, hCommands⟩ := arguments_split_alike
  have hGap : gap ≠ "" ∧ Blanks gap.toList := by decide
  have hSplit : splitArgs args = flags := by decide
  exact ⟨hGap.1, hGap.2, hSplit, (hJoin args gap hGap.1 hGap.2).trans hSplit,
    ((hCommands (Invocation.new "6g") [.withArgs args]).2 _).mpr (by decide)⟩

/-! ### The shown command -/

namespace Invocation

theorem intercalate_space (first : String) (others : List String) :
    " ".intercalate (first :: others) = first ++ String.join (others.map (" " ++ ·)) := by
  induction others generalizing first with
  | nil =>
    rw [String.intercalate_singleton, List.map_nil, String.join_nil, String.append_empty]
  | cons next others ih =>
    rw [String.intercalate_cons_cons, ih, List.map_cons, String.join_cons]
    simp only [String.append_assoc]

/-- Words hold no space, so each space in front of one is a separator. -/
theorem count_space_join {ws : List String} (h : ∀ w ∈ ws, IsWord w.toList) :
    (String.join (ws.map (" " ++ ·))).toList.count ' ' = ws.length := by
  induction ws with
  | nil => rfl
  | cons w ws ih =>
    obtain ⟨hFirst, hRest⟩ := List.forall_mem_cons.mp h
    have hNone : w.toList.count ' ' = 0 := by
      rw [List.count_eq_zero]
      intro hSpace
      exact absurd (hFirst.2 ' ' hSpace) (by decide)
    have hSpace : (" " : String).toList.count ' ' = 1 := by decide
    rw [List.map_cons, String.join_cons, String.toList_append, String.toList_append,
      List.count_append, List.count_append, ih hRest, hNone, hSpace, List.length_cons]
    omega

theorem wordsOf_commandLine {inv : Invocation} (h : ∀ w ∈ inv.argv, IsWord w.toList) :
    wordsOf inv.commandLine = wordsOf inv.program ++ inv.argv := by
  have hJoins : Joins (inv.program :: inv.argv) inv.commandLine :=
    joins_intercalate (by decide) (by decide) _
  have hArgs : splitArgs inv.argv = inv.argv := splitArgs_of_isWord h
  rw [← splitArgs_singleton, splitArgs_of_joins hJoins, splitArgs, List.flatMap_cons, ← splitArgs,
    hArgs]

theorem commandLine_congr {inv other : Invocation} (hProgram : inv.program = other.program)
    (hArgv : inv.argv = other.argv) : inv.commandLine = other.commandLine := by
  rw [commandLine, commandLine, hProgram, hArgv]

end Invocation

open Invocation (new)

/-- **A command is shown faithfully.** -/
theorem shown_command_is_faithful :
    (∀ program (steps : List Step),
      let inv := (new program).takeAll steps
      -- its words are those of the program, and then the arguments
      wordsOf inv.commandLine = wordsOf program ++ inv.argv ∧
      -- there is one space in front of each argument, and no argument holds another one
      inv.commandLine = program ++ String.join (inv.argv.map (" " ++ ·)) ∧
      inv.commandLine.toList.count ' ' = program.toList.count ' ' + inv.argv.length ∧
      -- directories make no difference
      let undirected := (new program).takeAll (steps.filter Step.givesArgs)
      inv.argv = undirected.argv ∧ inv.commandLine = undirected.commandLine) ∧
    -- so a program that is a word can be read back with its arguments
    (∀ program (steps : List Step), IsWord program.toList →
      let inv := (new program).takeAll steps
      wordsOf inv.commandLine = program :: inv.argv) ∧
    ∀ program other (steps others : List Step), IsWord program.toList → IsWord other.toList →
      let inv := (new program).takeAll steps
      let inv' := (new other).takeAll others
      inv.commandLine = inv'.commandLine → program = other ∧ inv.argv = inv'.argv := by
  have hWords (program : String) (steps : List Step) :
      wordsOf ((new program).takeAll steps).commandLine =
        wordsOf program ++ ((new program).takeAll steps).argv := by
    have hArgs : ∀ w ∈ ((new program).takeAll steps).argv, IsWord w.toList :=
      fun w hw => Invocation.isWord_of_mem_argv hw
    rw [Invocation.wordsOf_commandLine hArgs, Invocation.program_takeAll]
    rfl
  have hWordFirst (program : String) (steps : List Step) (hProgram : IsWord program.toList) :
      wordsOf ((new program).takeAll steps).commandLine =
        program :: ((new program).takeAll steps).argv := by
    rw [hWords, wordsOf_of_isWord hProgram, List.singleton_append]
  refine ⟨fun program steps => ?_, hWordFirst, fun program other steps others hProgram hOther => ?_⟩
  · intro inv
    have hSpaces : inv.commandLine = program ++ String.join (inv.argv.map (" " ++ ·)) := by
      rw [Invocation.commandLine, Invocation.intercalate_space, Invocation.program_takeAll]
      rfl
    have hSame : inv.argv = ((new program).takeAll (steps.filter Step.givesArgs)).argv := by
      rw [Invocation.argv_takeAll_eq_iff, Invocation.flatMap_args_filter]
    refine ⟨hWords program steps, hSpaces, ?_, hSame, ?_⟩
    · rw [hSpaces, String.toList_append, List.count_append,
        Invocation.count_space_join fun w hw => Invocation.isWord_of_mem_argv hw]
    · refine Invocation.commandLine_congr ?_ hSame
      rw [Invocation.program_takeAll, Invocation.program_takeAll]
  · intro inv inv' hSame
    have hRead := hWordFirst program steps hProgram
    rw [hSame, hWordFirst other others hOther] at hRead
    obtain ⟨hProgramEq, hArgvEq⟩ := List.cons.inj hRead
    exact ⟨hProgramEq.symm, hArgvEq.symm⟩

/-- A command in a directory and one without are put together from the same words and are shown
alike, so they can be read back alike. -/
theorem shown_command_is_faithful_linker :
    let steps : List Step :=
      [.withArgs ["-o prog"], .inDirectory "/tmp", .withArgs ["", "main.6\u2003-s"]]
    let others : List Step := [.withArgs ["-o", "prog main.6", "-s"]]
    let inv := (new "/usr/bin/6l").takeAll steps
    let inv' := (new "/usr/bin/6l").takeAll others
    IsWord "/usr/bin/6l".toList ∧ inv.commandLine = "/usr/bin/6l -o prog main.6 -s" ∧
      wordsOf inv.commandLine = ["/usr/bin/6l", "-o", "prog", "main.6", "-s"] ∧
      inv.commandLine = inv'.commandLine ∧ inv.argv = inv'.argv := by
  intro steps others inv inv'
  obtain ⟨-, hRead, hEqual⟩ := shown_command_is_faithful
  have hProgram : IsWord "/usr/bin/6l".toList := by decide
  have hShown : inv.commandLine = inv'.commandLine := by decide
  have hArgv : inv.argv = ["-o", "prog", "main.6", "-s"] := by decide
  exact ⟨hProgram, by decide, (hRead _ steps hProgram).trans (congrArg _ hArgv), hShown,
    (hEqual _ _ steps others hProgram hProgram hShown).2⟩

/-- A program with a blank in its name is shown like another one with an argument. -/
example : (new "go build").commandLine = ((new "go").withArgs ["build"]).commandLine := by decide

end BuildScan
