import BuildScan.Proofs.Json.RoundTrip

/-!
# A text of several values

Objects that are written one after the other, each on lines of its own, can be told apart again.
`reads_of_flatten` says that however the text is cut into pieces that are a value each, these are
the objects that were written, in their order.  Where an object ends does not depend on what follows
(`value?_append`), so the first piece ends where the first object does, up to blanks.
-/

namespace BuildScan.Json

/-- The value is an object. -/
def Value.IsObject : Value → Prop
  | .object _ => True
  | _ => False

/-- The text of some values, each with the end of a line behind it. -/
def writeLines (l : Layout) (vs : List Value) : List Char :=
  vs.flatMap fun v => v.write l 0 ++ ['\n']

/-- The piece is one value, with blanks around it. -/
def ReadsAs (cs : List Char) (v : Value) : Prop :=
  ∃ rest, readPrefix? cs = some (v, rest) ∧ IsGaps rest

theorem skipGap_eq_nil_iff {cs : List Char} : skipGap cs = [] ↔ IsGaps cs :=
  List.dropWhile_eq_nil_iff

theorem read?_eq_some_iff {s : String} {v : Value} : read? s = some v ↔ ReadsAs s.toList v := by
  rw [read?, ReadsAs]
  constructor
  · intro h
    obtain ⟨⟨w, rest⟩, hRead, h⟩ := Option.bind_eq_some_iff.mp h
    rw [Option.ite_none_right_eq_some, List.isEmpty_iff, skipGap_eq_nil_iff] at h
    obtain ⟨hRest, hSame⟩ := h
    cases hSame
    exact ⟨rest, hRead, hRest⟩
  · rintro ⟨rest, hRead, hRest⟩
    simp only [hRead, Option.bind_eq_bind, Option.bind_some, skipGap_eq_nil_iff.mpr hRest]
    rfl

/-- Only what follows the blanks counts. -/
theorem value?_skipGap (fuel : Nat) (cs : List Char) :
    value? fuel (skipGap cs) = value? fuel cs := by
  have hSplit : cs = cs.takeWhile isGap ++ skipGap cs := List.takeWhile_append_dropWhile.symm
  conv => rhs; rw [hSplit]
  exact (value?_isGaps (fun c hc => List.mem_takeWhile_imp hc) fuel _).symm

theorem skipGap_ne_nil {fuel : Nat} {cs last : List Char} {v : Value}
    (h : value? fuel cs = some (v, last)) : skipGap cs ≠ [] := by
  intro hNil
  rw [← value?_skipGap, hNil, value?_nil] at h
  cases h

theorem not_isWord_of_brace {fuel : Nat} {cs rest last : List Char} {v : Value}
    (h : value? fuel cs = some (v, last)) (hBrace : skipGap cs = '\x7b' :: rest) : ¬ v.IsWord := by
  intro hWord
  cases fuel with
  | zero => cases h
  | succ fuel =>
    rw [value?_eq_some_iff] at h
    cases h with
    | word hFirst hOpens =>
      rw [hBrace] at hFirst
      exact hOpens.2.2 (List.cons.inj hFirst).1.symm
    | _ => exact hWord

theorem write_object_head {v : Value} (hv : v.IsObject) (l : Layout) (depth : Nat) :
    ∃ cs, v.write l depth = '\x7b' :: cs := by
  cases v with
  | object members =>
    cases members with
    | nil => exact ⟨_, by rw [Value.write]⟩
    | cons m ms => exact ⟨_, by rw [Value.write]; rfl⟩
  | _ => exact hv.elim

variable {l : Layout}

/-- A value that is written on lines of its own is read from them. -/
theorem reads_line (hl : l.IsBlank) {v : Value} (hv : v.Writable) :
    ReadsAs (v.write l 0 ++ ['\n']) v := by
  refine ⟨['\n'], ?_, by simp [IsGaps, isGap]⟩
  refine readBack_of_writable hl hv 0 _ _ ?_ fun _ => endsWord_cons rfl []
  rw [List.length_append]
  omega

/-- **A text of objects is cut in one way only.** The pieces may share the blanks between two
objects in any way. -/
theorem reads_of_flatten (hl : l.IsBlank) {vs : List Value} (hObjects : ∀ v ∈ vs, v.IsObject)
    (hWritable : ∀ v ∈ vs, v.Writable) {pieces : List (List Char)}
    (hPieces : ∀ p ∈ pieces, ∃ v, ReadsAs p v)
    (hFlatten : skipGap pieces.flatten = skipGap (writeLines l vs)) :
    List.Forall₂ ReadsAs pieces vs := by
  induction vs generalizing pieces with
  | nil =>
    cases pieces with
    | nil => exact .nil
    | cons p ps =>
      obtain ⟨v, last, hRead, -⟩ := hPieces p List.mem_cons_self
      obtain ⟨c, cs, hFirst⟩ := List.exists_cons_of_ne_nil (skipGap_ne_nil hRead)
      rw [List.flatten_cons, skipGap_append hFirst] at hFlatten
      cases hFlatten
  | cons v vs ih =>
    obtain ⟨hObject, hObjects⟩ := List.forall_mem_cons.mp hObjects
    obtain ⟨hFirst, hWritable⟩ := List.forall_mem_cons.mp hWritable
    obtain ⟨cs, hBrace⟩ := write_object_head hObject l 0
    have hWritten : writeLines l (v :: vs) = v.write l 0 ++ '\n' :: writeLines l vs := by
      rw [writeLines, List.flatMap_cons, List.append_assoc]
      rfl
    have hText : skipGap (writeLines l (v :: vs)) = '\x7b' :: (cs ++ '\n' :: writeLines l vs) := by
      rw [hWritten, hBrace]
      exact skipGap_cons rfl _
    cases pieces with
    | nil =>
      rw [hText] at hFlatten
      cases hFlatten
    | cons p ps =>
      obtain ⟨w, last, hRead, hLast⟩ := hPieces p List.mem_cons_self
      obtain ⟨c, cs', hShown⟩ := List.exists_cons_of_ne_nil (skipGap_ne_nil hRead)
      rw [List.flatten_cons] at hFlatten
      have hc : skipGap p = '\x7b' :: cs' := by
        rw [skipGap_append hShown, hText] at hFlatten
        rw [hShown, (List.cons.inj hFlatten).1]
      -- both the piece and the object are read from the front of the same text
      have hPiece : value? (2 * p.length + 1 + 2 * (v.write l 0).length) (p ++ ps.flatten) =
          some (w, last ++ ps.flatten) :=
        value?_append hRead (Nat.le_add_right _ _) fun hWord =>
          absurd hWord (not_isWord_of_brace hRead hc)
      have hValue : value? (2 * p.length + 1 + 2 * (v.write l 0).length) (writeLines l (v :: vs)) =
          some (v, '\n' :: writeLines l vs) := by
        rw [hWritten]
        exact readBack_of_writable hl hFirst 0 _ _ (Nat.le_add_left _ _) fun _ =>
          endsWord_cons rfl _
      rw [← value?_skipGap, hFlatten, value?_skipGap, hValue] at hPiece
      obtain ⟨rfl, hBehind⟩ := Prod.mk.inj (Option.some.inj hPiece)
      refine .cons ⟨last, hRead, hLast⟩ (ih hObjects hWritable
        (fun q hq => hPieces q (List.mem_cons_of_mem p hq)) ?_)
      rw [← skipGap_of_isGaps hLast, ← hBehind]
      rfl

end BuildScan.Json
