import BuildScan.Json.Literal
import Mathlib.Data.List.Forall2
import Mathlib.Tactic.SplitIfs

/-!
# Literals are read as they are written

A character is written as itself or as an escape, and an escape names the character or, for a
control character, its number (`StandsFor`).  So the pieces of a written text stand for its
characters one by one (`pieces?_flatMap_writeChar`), none of them is half of a pair, and joining
them gives the text: `literal?_writeText`.

A literal ends at its closing quote, and what follows has no part in it (`literal?_append`).
-/

namespace BuildScan.Json

/-- The piece is one by which the character is written. -/
inductive StandsFor : Piece → Char → Prop
  | char (c : Char) : StandsFor (.char c) c
  | control {c : Char} : c.toNat < 0x20 → StandsFor (.unit c.toNat) c

/-! ### Pieces -/

theorem pieces?_shortEscape {letter c : Char} (hUnit : letter ≠ 'u')
    (h : shortEscapes.lookup letter = some c) (cs : List Char) :
    pieces? ('\\' :: letter :: cs) = (pieces? cs).map fun r => (.char c :: r.1, r.2) := by
  rw [pieces?.eq_4 _ _ (fun _ _ _ _ _ hLetter _ => hUnit hLetter), h]
  cases pieces? cs <;> rfl

theorem pieces?_unitEscape {a b c d : Char} {n : Nat} (h : unit? a b c d = some n)
    (cs : List Char) :
    pieces? ('\\' :: 'u' :: a :: b :: c :: d :: cs) =
      (pieces? cs).map fun r => (.unit n :: r.1, r.2) := by
  rw [pieces?.eq_3, h]
  cases pieces? cs <;> rfl

theorem pieces?_plain {c : Char} (hQuote : c ≠ '"') (hEscape : c ≠ '\\')
    (hControl : ¬ c.toNat < 0x20)
    (cs : List Char) : pieces? (c :: cs) = (pieces? cs).map fun r => (.char c :: r.1, r.2) := by
  rw [pieces?.eq_5 _ _ hQuote (fun _ _ _ _ _ hc _ => hEscape hc) (fun _ _ hc _ => hEscape hc),
    if_neg (by simp [hControl, hEscape])]

theorem unit?_hexChar {n : Nat} (h : n < 0x20) :
    unit? '0' '0' (hexChar (n / 16)) (hexChar (n % 16)) = some n := by
  have hAll : ∀ m < 0x20, unit? '0' '0' (hexChar (m / 16)) (hexChar (m % 16)) = some m := by decide
  exact hAll n h

theorem pieces?_writeChar (c : Char) :
    ∃ p, StandsFor p c ∧
      ∀ cs, pieces? (writeChar c ++ cs) = (pieces? cs).map fun r => (p :: r.1, r.2) := by
  have hShort {letter : Char} (hUnit : letter ≠ 'u') (h : shortEscapes.lookup letter = some c) :
      ∃ p, StandsFor p c ∧
        ∀ cs, pieces? (['\\', letter] ++ cs) = (pieces? cs).map fun r => (p :: r.1, r.2) :=
    ⟨.char c, .char c, fun cs => pieces?_shortEscape hUnit h cs⟩
  rw [writeChar]
  split_ifs with hQuote hEscape hBack hFeed hLine hReturn hTab hControl
  · exact hShort (by decide) (by rw [hQuote]; rfl)
  · exact hShort (by decide) (by rw [hEscape]; rfl)
  · exact hShort (by decide) (by rw [hBack]; rfl)
  · exact hShort (by decide) (by rw [hFeed]; rfl)
  · exact hShort (by decide) (by rw [hLine]; rfl)
  · exact hShort (by decide) (by rw [hReturn]; rfl)
  · exact hShort (by decide) (by rw [hTab]; rfl)
  · exact ⟨.unit c.toNat, .control hControl,
      fun cs => pieces?_unitEscape (unit?_hexChar hControl) cs⟩
  · exact ⟨.char c, .char c, fun cs => pieces?_plain hQuote hEscape hControl cs⟩

/-- The pieces of a written text stand for its characters, up to the closing quote. -/
theorem pieces?_flatMap_writeChar (cs rest : List Char) :
    ∃ ps, List.Forall₂ StandsFor ps cs ∧
      pieces? (cs.flatMap writeChar ++ '"' :: rest) = some (ps, rest) := by
  induction cs with
  | nil => exact ⟨[], .nil, pieces?.eq_2 rest⟩
  | cons c cs ih =>
    obtain ⟨ps, hStand, hPieces⟩ := ih
    obtain ⟨p, hFirst, hWritten⟩ := pieces?_writeChar c
    refine ⟨p :: ps, .cons hFirst hStand, ?_⟩
    rw [List.flatMap_cons, List.append_assoc, hWritten, hPieces]
    rfl

/-! ### Texts -/

/-- A unit below the surrogates stands for itself, whatever follows. -/
theorem joined?_control {n : Nat} (h : n < 0x20) (ps : List Piece) :
    joined? (.unit n :: ps) = (joined? ps).map (Char.ofNat n :: ·) := by
  have hHigh : isHighSurrogate n = false := by simp [isHighSurrogate]; omega
  have hLow : isLowSurrogate n = false := by simp [isLowSurrogate]; omega
  cases ps with
  | nil => simp [joined?, hHigh, hLow]
  | cons p ps =>
    cases p with
    | char c => simp [joined?, hHigh, hLow]
    | unit m => rw [joined?, hHigh, hLow, Bool.false_and, Bool.or_self, if_neg nofun, if_neg nofun]

theorem joined?_of_standsFor {ps : List Piece} {cs : List Char} (h : List.Forall₂ StandsFor ps cs) :
    joined? ps = some cs := by
  induction h with
  | nil => rfl
  | cons hFirst _ ih =>
    cases hFirst with
    | char c => rw [joined?, ih, Option.map_some]
    | control hControl => rw [joined?_control hControl, ih, Option.map_some, Char.ofNat_toNat]

/-- A written literal is read as its text. -/
theorem literal?_writeText (s : String) (rest : List Char) :
    ∃ inside, writeText s ++ rest = '"' :: inside ∧ literal? inside = some (some s, rest) := by
  obtain ⟨ps, hStand, hPieces⟩ := pieces?_flatMap_writeChar s.toList rest
  refine ⟨s.toList.flatMap writeChar ++ '"' :: rest, ?_, ?_⟩
  · rw [writeText, List.append_assoc, List.cons_append, List.singleton_append]
  · rw [literal?, hPieces, Option.map_some, joined?_of_standsFor hStand, Option.map_some,
      String.ofList_toList]

/-! ### What follows a literal -/

theorem pieces?_append {cs rest : List Char} {ps : List Piece} (h : pieces? cs = some (ps, rest))
    (behind : List Char) : pieces? (cs ++ behind) = some (ps, rest ++ behind) := by
  fun_induction pieces? cs generalizing ps rest with
  | case1 => cases h
  | case2 cs =>
    cases h
    exact pieces?.eq_2 _
  | case3 a b c d cs n more last hMore hUnit ih =>
    cases h
    exact (pieces?_unitEscape hUnit (cs ++ behind)).trans (by rw [ih hMore]; rfl)
  | case4 => cases h
  | case5 letter cs hLong c more last hMore hLetter ih =>
    cases h
    have hUnit : letter ≠ 'u' := by
      rintro rfl
      cases hLetter
    exact (pieces?_shortEscape hUnit hLetter (cs ++ behind)).trans (by rw [ih hMore]; rfl)
  | case6 => cases h
  | case7 => cases h
  | case8 c cs hQuote hUnits hShort hPlain ih =>
    obtain ⟨⟨more, last⟩, hMore, hPieces⟩ := Option.map_eq_some_iff.mp h
    cases hPieces
    obtain ⟨hControl, hEscape⟩ : ¬ c.toNat < 0x20 ∧ c ≠ '\\' := by simpa using hPlain
    exact (pieces?_plain hQuote hEscape hControl (cs ++ behind)).trans (by rw [ih hMore]; rfl)

/-- Reading a literal looks no further than its closing quote. -/
theorem literal?_append {cs rest : List Char} {s : Option String} (h : literal? cs = some (s, rest))
    (behind : List Char) : literal? (cs ++ behind) = some (s, rest ++ behind) := by
  obtain ⟨⟨ps, last⟩, hPieces, hText⟩ := Option.map_eq_some_iff.mp h
  cases hText
  rw [literal?, pieces?_append hPieces behind]
  rfl

end BuildScan.Json
