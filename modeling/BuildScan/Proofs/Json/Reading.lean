import BuildScan.Json.Reading
import BuildScan.Proofs.Json.Literal
import Mathlib.Data.List.TakeWhile
import Mathlib.Tactic.SplitIfs

/-!
# How a value is read

The reader takes one step for each value, item and member (`Step`, `ItemStep`, `MemberStep`).  It
looks no further than the end of a value: `value?_append` says that what follows does not matter,
unless it goes on with a word that has not ended (`EndsWord`).
-/

namespace BuildScan.Json

/-! ### Blanks and words -/

/-- Only blanks. -/
def IsGaps (cs : List Char) : Prop := ∀ c ∈ cs, isGap c = true

/-- No word goes on here. -/
def EndsWord (cs : List Char) : Prop := ∀ c, cs.head? = some c → isWordChar c = false

theorem isWordChar_of_isGap {c : Char} (h : isGap c = true) : isWordChar c = false := by
  simp only [isGap, Bool.or_eq_true, beq_iff_eq] at h
  rcases h with ((rfl | rfl) | rfl) | rfl <;> rfl

theorem isGap_of_isWordChar {c : Char} (h : isWordChar c = true) : isGap c = false := by
  rw [← Bool.not_eq_true]
  intro hGap
  rw [isWordChar_of_isGap hGap] at h
  cases h

theorem endsWord_cons {c : Char} (hc : isWordChar c = false) (cs : List Char) :
    EndsWord (c :: cs) := by
  intro d hd
  cases hd
  exact hc

theorem endsWord_append_cons {gaps : List Char} (hGaps : IsGaps gaps) {c : Char}
    (hc : isWordChar c = false) (cs : List Char) : EndsWord (gaps ++ c :: cs) := by
  cases gaps with
  | nil => exact endsWord_cons hc cs
  | cons d gaps => exact endsWord_cons (isWordChar_of_isGap (hGaps d List.mem_cons_self)) _

theorem skipGap_of_isGaps {gaps : List Char} (h : IsGaps gaps) (cs : List Char) :
    skipGap (gaps ++ cs) = skipGap cs := List.dropWhile_append_of_pos h

theorem skipGap_cons {c : Char} (h : isGap c = false) (cs : List Char) :
    skipGap (c :: cs) = c :: cs :=
  List.dropWhile_cons_of_neg (by simp [h])

theorem skipGap_append {cs rest : List Char} {c : Char} (h : skipGap cs = c :: rest)
    (behind : List Char) : skipGap (cs ++ behind) = c :: (rest ++ behind) := by
  induction cs with
  | nil => cases h
  | cons d cs ih =>
    by_cases hGap : isGap d = true
    · rw [skipGap, List.dropWhile_cons_of_pos hGap] at h
      rw [List.cons_append, skipGap, List.dropWhile_cons_of_pos hGap]
      exact ih h
    · rw [Bool.not_eq_true] at hGap
      rw [skipGap_cons hGap] at h
      cases h
      exact skipGap_cons hGap _

/-- A stretch that has ended, or that what follows does not continue, is the same in front of it. -/
theorem span_append {p : Char → Bool} {cs behind : List Char}
    (h : cs.dropWhile p = [] → ∀ c, behind.head? = some c → p c = false) :
    (cs ++ behind).takeWhile p = cs.takeWhile p ∧
      (cs ++ behind).dropWhile p = cs.dropWhile p ++ behind := by
  induction cs with
  | nil =>
    cases behind with
    | nil => exact ⟨rfl, rfl⟩
    | cons c behind => simp [h rfl c rfl]
  | cons d cs ih =>
    by_cases hd : p d = true
    · obtain ⟨hTake, hDrop⟩ := ih (by simpa [hd] using h)
      simp [hd, hTake, hDrop]
    · simp [hd]

/-! ### Words -/

/-- The value is written as a word. -/
def Value.IsWord : Value → Prop
  | .text _ => False
  | .array _ => False
  | .object _ => False
  | _ => True

theorem isWord_of_ofWord? {word : List Char} {v : Value} (h : ofWord? word = some v) :
    v.IsWord := by
  have hNumber {b : Bool} (h : (if b then some (Value.decimal word) else none) = some v) :
      v.IsWord := by
    rw [Option.ite_none_right_eq_some] at h
    cases h.2
    trivial
  unfold ofWord? at h
  iterate 4
    split at h
    · cases h
      trivial
  split at h
  · exact hNumber h
  · exact hNumber h

/-! ### Steps of the reader -/

/-- The character opens no value but a word. -/
def OpensWord (c : Char) : Prop := c ≠ '"' ∧ c ≠ '[' ∧ c ≠ '\x7b'

/-- How a value is read: what its first character opens, and what has to follow. -/
inductive Step (fuel : Nat) (cs : List Char) : Value → List Char → Prop
  | text {rest last : List Char} {s : Option String} : skipGap cs = '"' :: rest →
      literal? rest = some (s, last) → Step fuel cs (.text s) last
  | emptyArray {rest last : List Char} : skipGap cs = '[' :: rest → skipGap rest = ']' :: last →
      Step fuel cs (.array []) last
  | array {rest last : List Char} {items : List Value} : skipGap cs = '[' :: rest →
      (∀ last, skipGap rest ≠ ']' :: last) → items? fuel (skipGap rest) = some (items, last) →
      Step fuel cs (.array items) last
  | emptyObject {rest last : List Char} :
      skipGap cs = '\x7b' :: rest → skipGap rest = '\x7d' :: last →
      Step fuel cs (.object []) last
  | object {rest last : List Char} {members : List (Option String × Value)} :
      skipGap cs = '\x7b' :: rest → (∀ last, skipGap rest ≠ '\x7d' :: last) →
      members? fuel (skipGap rest) = some (members, last) → Step fuel cs (.object members) last
  | word {c : Char} {rest : List Char} {v : Value} : skipGap cs = c :: rest → OpensWord c →
      ofWord? ((c :: rest).takeWhile isWordChar) = some v →
      Step fuel cs v ((c :: rest).dropWhile isWordChar)

theorem step_of_value? {fuel : Nat} {cs last : List Char} {v : Value}
    (h : value? (fuel + 1) cs = some (v, last)) : Step fuel cs v last := by
  rw [value?] at h
  split at h
  · rename_i rest hQuote
    obtain ⟨⟨s, last⟩, hLiteral, hValue⟩ := Option.map_eq_some_iff.mp h
    cases hValue
    exact .text hQuote hLiteral
  · rename_i rest hBracket
    split at h
    · rename_i last hClosed
      cases h
      exact .emptyArray hBracket hClosed
    · rename_i hOpen
      obtain ⟨⟨items, last⟩, hItems, hValue⟩ := Option.map_eq_some_iff.mp h
      cases hValue
      exact .array hBracket hOpen hItems
  · rename_i rest hBrace
    split at h
    · rename_i last hClosed
      cases h
      exact .emptyObject hBrace hClosed
    · rename_i hOpen
      obtain ⟨⟨members, last⟩, hMembers, hValue⟩ := Option.map_eq_some_iff.mp h
      cases hValue
      exact .object hBrace hOpen hMembers
  · rename_i hQuote hBracket hBrace
    obtain ⟨w, hWord, hValue⟩ := Option.map_eq_some_iff.mp h
    cases hRest : skipGap cs with
    | nil =>
      rw [hRest] at hWord
      cases hWord
    | cons c rest =>
      rw [hRest] at hQuote hBracket hBrace hWord hValue
      cases hValue
      exact .word hRest ⟨fun hc => hQuote rest (hc ▸ rfl), fun hc => hBracket rest (hc ▸ rfl),
        fun hc => hBrace rest (hc ▸ rfl)⟩ hWord

theorem value?_of_step {fuel : Nat} {cs last : List Char} {v : Value} (h : Step fuel cs v last) :
    value? (fuel + 1) cs = some (v, last) := by
  cases h with
  | text hQuote hLiteral => simp only [value?, hQuote, hLiteral, Option.map_some]
  | emptyArray hBracket hClosed => simp only [value?, hBracket, hClosed]
  | array hBracket hOpen hItems =>
    simp only [value?, hBracket, hItems, Option.map_some]
  | emptyObject hBrace hClosed => simp only [value?, hBrace, hClosed]
  | object hBrace hOpen hMembers =>
    simp only [value?, hBrace, hMembers, Option.map_some]
  | word hFirst hc hWord =>
    rw [value?, hFirst]
    split
    · rename_i hQuote
      exact absurd (List.cons.inj hQuote).1 hc.1
    · rename_i hBracket
      exact absurd (List.cons.inj hBracket).1 hc.2.1
    · rename_i hBrace
      exact absurd (List.cons.inj hBrace).1 hc.2.2
    · rw [hWord, Option.map_some]

theorem value?_eq_some_iff {fuel : Nat} {cs last : List Char} {v : Value} :
    value? (fuel + 1) cs = some (v, last) ↔ Step fuel cs v last :=
  ⟨step_of_value?, value?_of_step⟩

/-- What stands behind an item of an array: its closing bracket, or a comma and more items. -/
inductive ItemStep (fuel : Nat) (cs : List Char) : List Value → List Char → Prop
  | last {rest last : List Char} {v : Value} : value? fuel cs = some (v, rest) →
      skipGap rest = ']' :: last → ItemStep fuel cs [v] last
  | more {rest next last : List Char} {v : Value} {vs : List Value} :
      value? fuel cs = some (v, rest) → skipGap rest = ',' :: next →
      items? fuel next = some (vs, last) → ItemStep fuel cs (v :: vs) last

theorem step_of_items? {fuel : Nat} {cs last : List Char} {items : List Value}
    (h : items? (fuel + 1) cs = some (items, last)) : ItemStep fuel cs items last := by
  rw [items?] at h
  obtain ⟨⟨v, rest⟩, hValue, h⟩ := Option.bind_eq_some_iff.mp h
  dsimp only at h
  split at h
  · rename_i hClosed
    cases h
    exact .last hValue hClosed
  · rename_i hComma
    obtain ⟨⟨vs, last⟩, hMore, h⟩ := Option.bind_eq_some_iff.mp h
    cases h
    exact .more hValue hComma hMore
  · cases h

theorem items?_of_step {fuel : Nat} {cs last : List Char} {items : List Value}
    (h : ItemStep fuel cs items last) : items? (fuel + 1) cs = some (items, last) := by
  cases h with
  | last hValue hClosed =>
    simp only [items?, hValue, Option.bind_eq_bind, Option.bind_some, hClosed]
    rfl
  | more hValue hComma hMore =>
    simp only [items?, hValue, Option.bind_eq_bind, Option.bind_some, hComma, hMore]
    rfl

theorem items?_eq_some_iff {fuel : Nat} {cs last : List Char} {items : List Value} :
    items? (fuel + 1) cs = some (items, last) ↔ ItemStep fuel cs items last :=
  ⟨step_of_items?, items?_of_step⟩

/-- What stands behind the key of a member: a colon, a value, and the closing brace or more
members. -/
inductive MemberStep (fuel : Nat) (cs : List Char) : List (Option String × Value) → List Char → Prop
  | last {inside colon behind rest last : List Char} {key : Option String} {v : Value} :
      skipGap cs = '"' :: inside → literal? inside = some (key, colon) →
      skipGap colon = ':' :: behind →
      value? fuel behind = some (v, rest) → skipGap rest = '\x7d' :: last →
      MemberStep fuel cs [(key, v)] last
  | more {inside colon behind rest next last : List Char} {key : Option String} {v : Value}
      {ms : List (Option String × Value)} :
      skipGap cs = '"' :: inside → literal? inside = some (key, colon) →
      skipGap colon = ':' :: behind →
      value? fuel behind = some (v, rest) → skipGap rest = ',' :: next →
      members? fuel next = some (ms, last) → MemberStep fuel cs ((key, v) :: ms) last

theorem step_of_members? {fuel : Nat} {cs last : List Char} {ms : List (Option String × Value)}
    (h : members? (fuel + 1) cs = some (ms, last)) : MemberStep fuel cs ms last := by
  rw [members?] at h
  split at h
  · rename_i inside hQuote
    obtain ⟨⟨key, colon⟩, hLiteral, h⟩ := Option.bind_eq_some_iff.mp h
    dsimp only at h
    split at h
    · rename_i behind hColon
      obtain ⟨⟨v, rest⟩, hValue, h⟩ := Option.bind_eq_some_iff.mp h
      dsimp only at h
      split at h
      · rename_i hClosed
        cases h
        exact .last hQuote hLiteral hColon hValue hClosed
      · rename_i hComma
        obtain ⟨⟨vs, last⟩, hMore, h⟩ := Option.bind_eq_some_iff.mp h
        cases h
        exact .more hQuote hLiteral hColon hValue hComma hMore
      · cases h
    · cases h
  · cases h

theorem members?_of_step {fuel : Nat} {cs last : List Char} {ms : List (Option String × Value)}
    (h : MemberStep fuel cs ms last) : members? (fuel + 1) cs = some (ms, last) := by
  cases h with
  | last hQuote hLiteral hColon hValue hClosed =>
    simp only [members?, hQuote, hLiteral, Option.bind_eq_bind, Option.bind_some, hColon, hValue,
      hClosed]
    rfl
  | more hQuote hLiteral hColon hValue hComma hMore =>
    simp only [members?, hQuote, hLiteral, Option.bind_eq_bind, Option.bind_some, hColon, hValue,
      hComma, hMore]
    rfl

theorem members?_eq_some_iff {fuel : Nat} {cs last : List Char}
    {ms : List (Option String × Value)} :
    members? (fuel + 1) cs = some (ms, last) ↔ MemberStep fuel cs ms last :=
  ⟨step_of_members?, members?_of_step⟩

/-! ### What follows a value -/

/-- With this fuel, or more, a value is read the same in front of anything that does not continue
it. -/
def ValuesExtend (fuel : Nat) : Prop :=
  ∀ cs v last, value? fuel cs = some (v, last) → ∀ more, fuel ≤ more → ∀ behind,
    (v.IsWord → last = [] → EndsWord behind) → value? more (cs ++ behind) = some (v, last ++ behind)

/-- With this fuel, or more, items are read the same in front of anything. -/
def ItemsExtend (fuel : Nat) : Prop :=
  ∀ cs items last, items? fuel cs = some (items, last) → ∀ more, fuel ≤ more → ∀ behind,
    items? more (cs ++ behind) = some (items, last ++ behind)

/-- With this fuel, or more, members are read the same in front of anything. -/
def MembersExtend (fuel : Nat) : Prop :=
  ∀ cs ms last, members? fuel cs = some (ms, last) → ∀ more, fuel ≤ more → ∀ behind,
    members? more (cs ++ behind) = some (ms, last ++ behind)

theorem ne_nil_of_skipGap {rest last : List Char} {c : Char} (h : skipGap rest = c :: last) :
    rest ≠ [] := by
  rintro rfl
  cases h

/-- If another character than the closing one follows, it does so in front of anything. -/
theorem skipGap_append_ne {rest : List Char} {closing : Char} (hSome : skipGap rest ≠ [])
    (hOpen : ∀ last, skipGap rest ≠ closing :: last) (behind : List Char) :
    skipGap (rest ++ behind) = skipGap rest ++ behind ∧
      ∀ last, skipGap (rest ++ behind) ≠ closing :: last := by
  obtain ⟨c, cs, hFirst⟩ := List.exists_cons_of_ne_nil hSome
  rw [skipGap_append hFirst, hFirst]
  refine ⟨rfl, fun last h => hOpen cs ?_⟩
  rw [hFirst, (List.cons.inj h).1]

theorem value?_nil (fuel : Nat) : value? fuel [] = none := by
  cases fuel <;> rfl

theorem items?_nil (fuel : Nat) : items? fuel [] = none := by
  cases fuel with
  | zero => rfl
  | succ fuel =>
    rw [items?, value?_nil]
    rfl

theorem members?_nil (fuel : Nat) : members? fuel [] = none := by
  cases fuel <;> rfl

theorem valuesExtend_succ {fuel : Nat} (hItems : ItemsExtend fuel) (hMembers : MembersExtend fuel) :
    ValuesExtend (fuel + 1) := by
  intro cs v last h more hMore behind hEnd
  obtain ⟨more, rfl⟩ : ∃ k, more = k + 1 := ⟨more - 1, by omega⟩
  have hMore : fuel ≤ more := Nat.le_of_succ_le_succ hMore
  rw [value?_eq_some_iff] at h ⊢
  cases h with
  | text hQuote hLiteral =>
    exact .text (skipGap_append hQuote behind) (literal?_append hLiteral behind)
  | emptyArray hBracket hClosed =>
    exact .emptyArray (skipGap_append hBracket behind) (skipGap_append hClosed behind)
  | @array rest last items hBracket hOpen hRead =>
    have hSome : skipGap rest ≠ [] := by
      intro hNil
      rw [hNil, items?_nil] at hRead
      cases hRead
    obtain ⟨hRest, hOpen⟩ := skipGap_append_ne hSome hOpen behind
    refine .array (skipGap_append hBracket behind) hOpen ?_
    rw [hRest]
    exact hItems _ _ _ hRead more hMore behind
  | emptyObject hBrace hClosed =>
    exact .emptyObject (skipGap_append hBrace behind) (skipGap_append hClosed behind)
  | @object rest last members hBrace hOpen hRead =>
    have hSome : skipGap rest ≠ [] := by
      intro hNil
      rw [hNil, members?_nil] at hRead
      cases hRead
    obtain ⟨hRest, hOpen⟩ := skipGap_append_ne hSome hOpen behind
    refine .object (skipGap_append hBrace behind) hOpen ?_
    rw [hRest]
    exact hMembers _ _ _ hRead more hMore behind
  -- only a word is ended by what follows it, not by a mark of its own
  | word hFirst hc hWord =>
    obtain ⟨hTake, hDrop⟩ := span_append (p := isWordChar) (hEnd (isWord_of_ofWord? hWord))
    rw [← hDrop]
    exact .word (skipGap_append hFirst behind) hc (hTake ▸ hWord)

theorem itemsExtend_succ {fuel : Nat} (hValues : ValuesExtend fuel) (hItems : ItemsExtend fuel) :
    ItemsExtend (fuel + 1) := by
  intro cs items last h more hMore behind
  obtain ⟨more, rfl⟩ : ∃ k, more = k + 1 := ⟨more - 1, by omega⟩
  have hMore : fuel ≤ more := Nat.le_of_succ_le_succ hMore
  rw [items?_eq_some_iff] at h ⊢
  cases h with
  | last hValue hClosed =>
    refine .last (hValues _ _ _ hValue more hMore behind ?_) (skipGap_append hClosed behind)
    exact fun _ hNil => absurd hNil (ne_nil_of_skipGap hClosed)
  | more hValue hComma hRead =>
    refine .more (hValues _ _ _ hValue more hMore behind ?_) (skipGap_append hComma behind)
      (hItems _ _ _ hRead more hMore behind)
    exact fun _ hNil => absurd hNil (ne_nil_of_skipGap hComma)

theorem membersExtend_succ {fuel : Nat} (hValues : ValuesExtend fuel)
    (hMembers : MembersExtend fuel) :
    MembersExtend (fuel + 1) := by
  intro cs ms last h more hMore behind
  obtain ⟨more, rfl⟩ : ∃ k, more = k + 1 := ⟨more - 1, by omega⟩
  have hMore : fuel ≤ more := Nat.le_of_succ_le_succ hMore
  rw [members?_eq_some_iff] at h ⊢
  cases h with
  | last hQuote hLiteral hColon hValue hClosed =>
    refine .last (skipGap_append hQuote behind) (literal?_append hLiteral behind)
      (skipGap_append hColon behind) (hValues _ _ _ hValue more hMore behind ?_)
      (skipGap_append hClosed behind)
    exact fun _ hNil => absurd hNil (ne_nil_of_skipGap hClosed)
  | more hQuote hLiteral hColon hValue hComma hRead =>
    refine .more (skipGap_append hQuote behind) (literal?_append hLiteral behind)
      (skipGap_append hColon behind) (hValues _ _ _ hValue more hMore behind ?_)
      (skipGap_append hComma behind) (hMembers _ _ _ hRead more hMore behind)
    exact fun _ hNil => absurd hNil (ne_nil_of_skipGap hComma)

theorem all_extend (fuel : Nat) : ValuesExtend fuel ∧ ItemsExtend fuel ∧ MembersExtend fuel := by
  induction fuel with
  | zero =>
    refine ⟨fun cs v last h => ?_, fun cs items last h => ?_, fun cs ms last h => ?_⟩
    · cases h
    · cases h
    · cases h
  | succ fuel ih =>
    obtain ⟨hValues, hItems, hMembers⟩ := ih
    exact ⟨valuesExtend_succ hItems hMembers, itemsExtend_succ hValues hItems,
      membersExtend_succ hValues hMembers⟩

/-- Reading a value looks no further than its end, unless that is a word that goes on. -/
theorem value?_append {fuel more : Nat} {cs last : List Char} {v : Value}
    (h : value? fuel cs = some (v, last)) (hMore : fuel ≤ more) {behind : List Char}
    (hEnd : v.IsWord → last = [] → EndsWord behind) :
    value? more (cs ++ behind) = some (v, last ++ behind) :=
  (all_extend fuel).1 cs v last h more hMore behind hEnd

end BuildScan.Json
