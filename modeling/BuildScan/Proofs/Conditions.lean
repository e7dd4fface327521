import BuildScan.Proofs.Positions
import Mathlib.Logic.Basic
import Mathlib.Tactic.ByContra

/-!
# What conditions mean

A condition is taken apart at its commas (`BuildTags.termsOf`), and it holds if all its terms do.  A
term is a name, which holds if the tags have it (`termHolds_name`), or a negated name, which holds
if they do not (`termHolds_negated`), or it is malformed and never holds
(`termHolds_of_not_isTerm`).

That the empty condition is turned away at once changes nothing (`holds_eq_all`).

`condition_means_conjunction` puts these together.  Only the terms of a condition matter, not their
order nor how often they come, and no term holds together with its negation.
-/

namespace BuildScan

open BuildScan.Text

/-! ### Letters and digits of ASCII -/

theorem isAlphanum_iff {c : Char} : c.isAlphanum = true ↔
    ('A' ≤ c ∧ c ≤ 'Z') ∨ ('a' ≤ c ∧ c ≤ 'z') ∨ ('0' ≤ c ∧ c ≤ '9') := by
  have hUpper : c.isUpper = true ↔ 'A' ≤ c ∧ c ≤ 'Z' := decide_eq_true_iff
  have hLower : c.isLower = true ↔ 'a' ≤ c ∧ c ≤ 'z' :=
    Bool.and_eq_true_iff.trans (and_congr decide_eq_true_iff decide_eq_true_iff)
  have hDigit : c.isDigit = true ↔ '0' ≤ c ∧ c ≤ '9' :=
    Bool.and_eq_true_iff.trans (and_congr decide_eq_true_iff decide_eq_true_iff)
  have hLetter : c.isAlpha = true ↔ c.isUpper = true ∨ c.isLower = true := Bool.or_eq_true_iff
  have hEither : c.isAlphanum = true ↔ c.isAlpha = true ∨ c.isDigit = true := Bool.or_eq_true_iff
  rw [hEither, hLetter, hUpper, hLower, hDigit, or_assoc]

theorem toNat_of_isAlphanum {c : Char} (h : c.isAlphanum = true) :
    0x21 ≤ c.toNat ∧ c.toNat < 0x80 := by
  have hRange {first last : Char} (hIn : first ≤ c ∧ c ≤ last) (hFirst : 0x21 ≤ first.toNat)
      (hLast : last.toNat < 0x80) : 0x21 ≤ c.toNat ∧ c.toNat < 0x80 :=
    ⟨Nat.le_trans hFirst (UInt32.le_iff_toNat_le.mp hIn.1),
      Nat.lt_of_le_of_lt (UInt32.le_iff_toNat_le.mp hIn.2) hLast⟩
  rcases isAlphanum_iff.mp h with hUpper | hLower | hDigit
  · exact hRange hUpper (by decide) (by decide)
  · exact hRange hLower (by decide) (by decide)
  · exact hRange hDigit (by decide) (by decide)

/-! ### Parts -/

theorem splitAt_append_cons (c : Char) (xs ys : List Char) :
    splitAt c (xs ++ c :: ys) = splitAt c xs ++ splitAt c ys := by
  induction xs with
  | nil => exact splitAt_self c ys
  | cons d xs ih =>
    rw [List.cons_append]
    by_cases hEq : d = c
    · subst hEq
      rw [splitAt_self, splitAt_self, ih, List.cons_append]
    · obtain ⟨part, parts, hParts, hCons⟩ := splitAt_of_ne hEq xs
      obtain ⟨part', parts', hParts', hCons'⟩ := splitAt_of_ne hEq (xs ++ c :: ys)
      rw [ih, hParts, List.cons_append] at hParts'
      obtain ⟨rfl, rfl⟩ := List.cons.inj hParts'
      rw [hCons, hCons', List.cons_append]

theorem intercalate_splitAt (c : Char) (cs : List Char) : [c].intercalate (splitAt c cs) = cs := by
  induction cs with
  | nil => rfl
  | cons d cs ih =>
    by_cases hEq : d = c
    · subst hEq
      rw [splitAt_self, List.intercalate_cons_of_ne_nil (splitAt_ne_nil d cs), ih]
      rfl
    · obtain ⟨part, parts, hParts, hCons⟩ := splitAt_of_ne hEq cs
      rw [hParts] at ih
      rw [hCons, ← ih]
      cases parts with
      | nil => rfl
      | cons next parts => rw [List.intercalate_cons_cons, List.intercalate_cons_cons]; rfl

namespace BuildTags

/-! ### Terms -/

/-- The letters of names: those of ASCII, digits, and two more. -/
def IsNameLetter (c : Char) : Prop :=
  ('A' ≤ c ∧ c ≤ 'Z') ∨ ('a' ≤ c ∧ c ≤ 'z') ∨ ('0' ≤ c ∧ c ≤ '9') ∨ c = '_' ∨ c = '.'

/-- A name of a tag: one or more letters. -/
def IsTagName (n : String) : Prop := n ≠ "" ∧ ∀ c ∈ n.toList, IsNameLetter c

/-- A name, or a negated one. -/
def IsTerm (t : String) : Prop := IsTagName t ∨ ∃ n, t = "!" ++ n ∧ IsTagName n

/-- The terms of a condition, which commas part. -/
def termsOf (condition : String) : List String := (splitAt ',' condition.toList).map String.ofList

theorem isNameChar_iff {c : Char} : isNameChar c = true ↔ IsNameLetter c := by
  rw [isNameChar, Bool.or_eq_true, Bool.or_eq_true, isAlphanum_iff, beq_iff_eq, beq_iff_eq]
  simp only [IsNameLetter, or_assoc]

theorem isName_iff {n : String} : isName n.toList = true ↔ IsTagName n := by
  simp only [isName, IsTagName, Bool.and_eq_true, Bool.not_eq_true', List.isEmpty_eq_false_iff,
    List.all_eq_true, isNameChar_iff, ne_eq, String.toList_eq_nil_iff]

instance (c : Char) : Decidable (IsNameLetter c) := decidable_of_iff _ isNameChar_iff

instance (n : String) : Decidable (IsTagName n) := decidable_of_iff _ isName_iff

theorem toList_negated (n : String) : ("!" ++ n).toList = '!' :: n.toList := String.toList_append

theorem not_isTagName_negated (n : String) : ¬ IsTagName ("!" ++ n) := by
  rintro ⟨-, hLetters⟩
  rw [toList_negated] at hLetters
  exact absurd (hLetters '!' List.mem_cons_self) (by decide)

theorem isTerm_negated_iff {n : String} : IsTerm ("!" ++ n) ↔ IsTagName n := by
  constructor
  · rintro (hName | ⟨m, hSame, hName⟩)
    · exact absurd hName (not_isTagName_negated n)
    · rwa [(String.append_right_inj "!").mp hSame]
  · exact fun hName => .inr ⟨n, rfl, hName⟩

variable (tags : BuildTags)

theorem has_toList (n : String) : tags.has n.toList = decide (n ∈ tags.satisfied) := by
  rw [has, String.ofList_toList, List.contains_eq_mem]

theorem termHolds_negated {n : String} (h : IsTagName n) :
    tags.termHolds ("!" ++ n).toList = decide (n ∉ tags.satisfied) := by
  rw [toList_negated, termHolds, isName_iff.mpr h, has_toList, Bool.true_and, decide_not]

theorem termHolds_name {n : String} (h : IsTagName n) :
    tags.termHolds n.toList = decide (n ∈ tags.satisfied) := by
  rw [termHolds.eq_def]
  split
  next name hText =>
    have hLetter := h.2 '!' (hText ▸ List.mem_cons_self)
    exact absurd hLetter (by decide)
  next => rw [isName_iff.mpr h, has_toList, Bool.true_and]

theorem termHolds_of_not_isTerm {t : String} (h : ¬ IsTerm t) :
    tags.termHolds t.toList = false := by
  rw [IsTerm, not_or] at h
  rw [termHolds.eq_def]
  split
  next name hText =>
    have hNegated : t = "!" ++ String.ofList name := by
      rw [← String.toList_inj, toList_negated, hText, String.toList_ofList]
    have hName : isName name = false := by
      by_contra hName
      rw [Bool.not_eq_false, ← String.toList_ofList (l := name), isName_iff] at hName
      exact h.2 ⟨_, hNegated, hName⟩
    rw [hName, Bool.false_and]
  next =>
    rw [Bool.eq_false_iff.mpr fun hName => h.1 (isName_iff.mp hName), Bool.false_and]

/-! ### The terms of a condition -/

variable {tags} {e t : String} {ts : List String}

/-- The check for the empty condition changes nothing: its one term is malformed. -/
theorem holds_eq_all (tags : BuildTags) (cs : List Char) :
    tags.holds cs = (splitAt ',' cs).all tags.termHolds := by
  rw [holds]
  split
  next hEmpty =>
    rw [List.isEmpty_iff.mp hEmpty]
    rfl
  next => rfl

theorem accepts_iff : tags.accepts e = true ↔ ∀ t ∈ termsOf e, tags.termHolds t.toList = true := by
  rw [accepts, holds_eq_all, List.all_eq_true, termsOf, List.forall_mem_map]
  simp only [String.toList_ofList]

theorem termsOf_append (e₁ e₂ : String) : termsOf (e₁ ++ "," ++ e₂) = termsOf e₁ ++ termsOf e₂ := by
  have hText : (e₁ ++ "," ++ e₂).toList = e₁.toList ++ ',' :: e₂.toList := by
    rw [String.toList_append, String.toList_append, List.append_assoc]
    rfl
  rw [termsOf, hText, splitAt_append_cons, List.map_append]
  rfl

theorem termsOf_of_notMem (h : ',' ∉ e.toList) : termsOf e = [e] := by
  rw [termsOf, splitAt_of_notMem h, List.map_singleton, String.ofList_toList]

theorem comma_notMem_of_mem_termsOf (h : t ∈ termsOf e) : ',' ∉ t.toList := by
  obtain ⟨part, hPart, rfl⟩ := List.mem_map.mp h
  rw [String.toList_ofList]
  exact notMem_of_mem_splitAt hPart

theorem intercalate_termsOf (e : String) : ",".intercalate (termsOf e) = e := by
  have hParts : (termsOf e).map String.toList = splitAt ',' e.toList := by
    rw [termsOf, List.map_map]
    exact (List.map_congr_left fun part _ => String.toList_ofList).trans (List.map_id _)
  rw [← String.toList_inj, String.toList_intercalate, hParts]
  exact intercalate_splitAt ',' e.toList

/-- The terms of a condition are the texts without commas that it joins by commas. -/
theorem termsOf_eq_iff :
    termsOf e = ts ↔ ts ≠ [] ∧ (∀ t ∈ ts, ',' ∉ t.toList) ∧ ",".intercalate ts = e := by
  constructor
  · rintro rfl
    refine ⟨fun hNil => ?_, fun t ht => comma_notMem_of_mem_termsOf ht, intercalate_termsOf e⟩
    exact splitAt_ne_nil ',' e.toList (List.map_eq_nil_iff.mp hNil)
  · rintro ⟨hNil, hTerms, rfl⟩
    induction ts with
    | nil => exact absurd rfl hNil
    | cons t ts ih =>
      obtain ⟨hFirst, hRest⟩ := List.forall_mem_cons.mp hTerms
      by_cases hLast : ts = []
      · rw [hLast, String.intercalate_singleton, termsOf_of_notMem hFirst]
      · rw [String.intercalate_cons_of_ne_nil hLast, termsOf_append, termsOf_of_notMem hFirst,
          ih hLast hRest, List.singleton_append]

/-- In front of a condition `!` negates its first term. -/
theorem exists_termsOf_negated (e : String) :
    ∃ first others, termsOf e = first :: others ∧
      termsOf ("!" ++ e) = ("!" ++ first) :: others := by
  obtain ⟨part, parts, hParts, hCons⟩ := splitAt_of_ne (by decide : '!' ≠ ',') e.toList
  refine ⟨String.ofList part, parts.map String.ofList, by rw [termsOf, hParts, List.map_cons], ?_⟩
  have hFirst : String.ofList ('!' :: part) = "!" ++ String.ofList part := by
    rw [← String.toList_inj, toList_negated, String.toList_ofList, String.toList_ofList]
  rw [termsOf, toList_negated, hCons, List.map_cons, hFirst]

theorem accepts_eq_false_of_mem (ht : t ∈ termsOf e) (h : tags.termHolds t.toList = false) :
    tags.accepts e = false := by
  by_contra hAccepts
  rw [Bool.not_eq_false, accepts_iff] at hAccepts
  have hHolds := hAccepts t ht
  rw [h] at hHolds
  cases hHolds

theorem accepts_of_notMem (h : ',' ∉ e.toList) : tags.accepts e = tags.termHolds e.toList := by
  rw [accepts, holds_eq_all, splitAt_of_notMem h, List.all_cons, List.all_nil, Bool.and_true]

theorem comma_notMem_of_isTagName {n : String} (h : IsTagName n) : ',' ∉ n.toList := fun hComma =>
  absurd (h.2 ',' hComma) (by decide)

/-- A term of the form of one either holds or not; one of another form never holds. -/
theorem termHolds_iff : tags.termHolds t.toList = true ↔
    (IsTagName t ∧ t ∈ tags.satisfied) ∨ ∃ n, t = "!" ++ n ∧ IsTagName n ∧ n ∉ tags.satisfied := by
  by_cases hTerm : IsTerm t
  · rcases hTerm with hName | ⟨n, rfl, hName⟩
    · rw [termHolds_name tags hName, decide_eq_true_eq]
      constructor
      · exact fun hMem => .inl ⟨hName, hMem⟩
      · rintro (⟨-, hMem⟩ | ⟨n, rfl, -⟩)
        · exact hMem
        · exact absurd hName (not_isTagName_negated n)
    · rw [termHolds_negated tags hName, decide_eq_true_eq]
      constructor
      · exact fun hMem => .inr ⟨n, rfl, hName, hMem⟩
      · rintro (⟨hNegated, -⟩ | ⟨m, hSame, -, hMem⟩)
        · exact absurd hNegated (not_isTagName_negated n)
        · rwa [(String.append_right_inj "!").mp hSame]
  · rw [termHolds_of_not_isTerm tags hTerm]
    constructor
    · intro hFalse
      cases hFalse
    · rintro (⟨hName, -⟩ | ⟨n, hSame, hName, -⟩)
      · exact absurd (.inl hName) hTerm
      · exact absurd (.inr ⟨n, hSame, hName⟩) hTerm

/-- A malformed term fails negated, too. -/
theorem accepts_of_malformed (ht : t ∈ termsOf e) (h : ¬ IsTerm t) :
    tags.accepts e = false ∧ tags.accepts ("!" ++ e) = false := by
  refine ⟨accepts_eq_false_of_mem ht (termHolds_of_not_isTerm tags h), ?_⟩
  obtain ⟨first, others, hTerms, hNegated⟩ := exists_termsOf_negated e
  rw [hTerms] at ht
  rcases List.mem_cons.mp ht with rfl | ht
  · have hNot : ¬ IsTerm ("!" ++ t) := fun hTerm => h (.inl (isTerm_negated_iff.mp hTerm))
    exact accepts_eq_false_of_mem (hNegated ▸ List.mem_cons_self)
      (termHolds_of_not_isTerm tags hNot)
  · exact accepts_eq_false_of_mem (hNegated ▸ List.mem_cons_of_mem _ ht)
      (termHolds_of_not_isTerm tags h)

/-- **What conditions mean.** -/
theorem condition_means_conjunction (tags : BuildTags) :
    -- a comma joins conditions
    (∀ e₁ e₂, tags.accepts (e₁ ++ "," ++ e₂) = (tags.accepts e₁ && tags.accepts e₂)) ∧
    -- without one a condition is a name that is satisfied, or a negated one that is not
    (∀ e, ',' ∉ e.toList → (tags.accepts e = true ↔
      (IsTagName e ∧ e ∈ tags.satisfied) ∨ ∃ n, e = "!" ++ n ∧ IsTagName n ∧ n ∉ tags.satisfied)) ∧
    -- order and repetition of terms do not matter
    (∀ e ts, termsOf e = ts ↔ ts ≠ [] ∧ (∀ t ∈ ts, ',' ∉ t.toList) ∧ ",".intercalate ts = e) ∧
    (∀ e e', (∀ t, t ∈ termsOf e ↔ t ∈ termsOf e') → tags.accepts e = tags.accepts e') ∧
    -- a name or its negation holds, and not both
    (∀ n, IsTagName n → tags.accepts ("!" ++ n) = !tags.accepts n) ∧
    -- a malformed term fails, and so does its negation, and any condition with one of the two
    (∀ t, ',' ∉ t.toList → ¬ IsTerm t → tags.accepts t = false ∧ tags.accepts ("!" ++ t) = false) ∧
    (∀ e, (∃ t ∈ termsOf e, ¬ IsTerm t) →
      tags.accepts e = false ∧ tags.accepts ("!" ++ e) = false) ∧
    -- no condition holds with a term and its negation
    ∀ e t, t ∈ termsOf e → "!" ++ t ∈ termsOf e → tags.accepts e = false := by
  refine ⟨?_, ?_, fun e ts => termsOf_eq_iff, ?_, ?_, ?_, ?_, ?_⟩
  · intro e₁ e₂
    rw [Bool.eq_iff_iff, Bool.and_eq_true, accepts_iff, accepts_iff, accepts_iff, termsOf_append,
      List.forall_mem_append]
  · intro e hComma
    rw [accepts_of_notMem hComma, termHolds_iff]
  · intro e e' hSame
    rw [Bool.eq_iff_iff, accepts_iff, accepts_iff]
    simp only [hSame]
  · intro n hName
    have hComma := comma_notMem_of_isTagName hName
    have hNegated : ',' ∉ ("!" ++ n).toList := by
      rw [toList_negated, List.mem_cons, not_or]
      exact ⟨by decide, hComma⟩
    rw [accepts_of_notMem hNegated, accepts_of_notMem hComma, termHolds_negated tags hName,
      termHolds_name tags hName, decide_not]
  · intro t hComma hTerm
    exact accepts_of_malformed (termsOf_of_notMem hComma ▸ List.mem_singleton_self t) hTerm
  · rintro e ⟨t, ht, hTerm⟩
    exact accepts_of_malformed ht hTerm
  · intro e t ht hNegated
    by_cases hName : IsTagName t
    · by_cases hMem : t ∈ tags.satisfied
      · refine accepts_eq_false_of_mem hNegated ?_
        rw [termHolds_negated tags hName, decide_eq_false_iff_not, not_not]
        exact hMem
      · refine accepts_eq_false_of_mem ht ?_
        rw [termHolds_name tags hName, decide_eq_false hMem]
    · exact accepts_eq_false_of_mem hNegated
        (termHolds_of_not_isTerm tags fun hTerm => hName (isTerm_negated_iff.mp hTerm))

/-- One condition joins a name and a negated one, one has a malformed term, and one contradicts
itself. -/
theorem condition_means_conjunction_linux :
    let tags : BuildTags := ⟨["linux"]⟩
    ',' ∉ "linux".toList ∧ IsTagName "arm" ∧ ¬ IsTerm "!!linux" ∧
      tags.accepts "linux,!arm" = true ∧ tags.accepts "linux,!!linux" = false ∧
      tags.accepts "arm,!arm" = false := by
  intro tags
  obtain ⟨hJoin, hSingle, hTerms, -, hEither, -, hMalformed, hContrary⟩ :=
    condition_means_conjunction tags
  have hComma : ',' ∉ "linux".toList := by decide
  have hArm : IsTagName "arm" := by decide
  have hDouble : ¬ IsTerm ("!" ++ "!linux") := fun hTerm =>
    absurd (isTerm_negated_iff.mp hTerm) (by decide)
  refine ⟨hComma, hArm, hDouble, ?_, ?_, ?_⟩
  · calc tags.accepts ("linux" ++ "," ++ ("!" ++ "arm"))
        = (tags.accepts "linux" && !tags.accepts "arm") := by rw [hJoin, hEither "arm" hArm]
      _ = true := by rw [(hSingle "linux" hComma).mpr (.inl (by decide))]; decide
  · refine (hMalformed "linux,!!linux" ⟨_, ?_, hDouble⟩).1
    rw [(hTerms "linux,!!linux" ["linux", "!!linux"]).mpr (by decide)]
    decide
  · exact hContrary "arm,!arm" "arm" (by decide) (by decide)

end BuildTags

end BuildScan
