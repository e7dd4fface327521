import BuildScan.Json.Writing
import BuildScan.Proofs.Json.Reading

/-!
# Values are read as they are written

`read?_render` says that a value that can be written (`Value.Writable`) is read from its text,
whatever blanks stand between the tokens.  The reader is bounded by the length of the text; the
proof shows on the way that twice the length of what is written for a value is enough (`ReadBack`).
-/

namespace BuildScan.Json

/-! ### Numbers -/

theorem head?_toDigits {n : Nat} (h : 0 < n) : (Nat.toDigits 10 n).head? ≠ some '0' := by
  induction n using Nat.strongRecOn with
  | ind n ih =>
    by_cases hSmall : n < 10
    · have hAll : ∀ m < 10, 0 < m → [Nat.digitChar m].head? ≠ some '0' := by decide
      rw [Nat.toDigits_of_lt_base hSmall]
      exact hAll n hSmall h
    · rw [Nat.toDigits_of_base_le (by decide) (Nat.not_lt.mp hSmall),
        List.head?_append_of_ne_nil _ Nat.toDigits_ne_nil]
      exact ih (n / 10) (by omega) (by omega)

theorem isWhole_toDigits (n : Nat) : isWhole (Nat.toDigits 10 n) = true := by
  have hDigits : isDigits (Nat.toDigits 10 n) = true := by
    rw [isDigits, Bool.and_eq_true, Bool.not_eq_true', List.isEmpty_eq_false_iff, List.all_eq_true]
    exact ⟨Nat.toDigits_ne_nil, fun c hc => Nat.isDigit_of_mem_toDigits (by decide) (by decide) hc⟩
  rw [isWhole, hDigits, Bool.true_and]
  rcases Nat.eq_zero_or_pos n with rfl | hPos
  · rfl
  · rw [Bool.or_eq_true, bne_iff_ne]
    exact .inr (head?_toDigits hPos)

theorem numberOf_toDigits (n : Nat) : numberOf (Nat.toDigits 10 n) = n := by
  have hStep : (fun (k : Nat) (c : Char) => k * 10 + (c.toNat - 48)) =
      fun (k : Nat) (c : Char) => 10 * k + (c.toNat - '0'.toNat) := by
    funext k c
    rw [Nat.mul_comm]
    rfl
  rw [numberOf, hStep, ← Nat.ofDigitChars_eq_foldl, Nat.ofDigitChars_ten_toDigits]

theorem ofWord?_toDigits (n : Nat) : ofWord? (Nat.toDigits 10 n) = some (.natural n) := by
  have hWhole := isWhole_toDigits n
  have hNot {word : List Char} (h : isWhole word = false) : Nat.toDigits 10 n ≠ word := by
    rintro rfl
    rw [hWhole] at h
    cases h
  unfold ofWord?
  rw [if_neg (hNot rfl), if_neg (hNot rfl), if_neg (hNot rfl), if_pos hWhole,
    numberOf_toDigits]

/-! ### Values that can be written -/

/-- The value can be written: its strings are texts, and its numbers are natural. -/
inductive Value.Writable : Value → Prop
  | null : Writable .null
  | bool (b : Bool) : Writable (.bool b)
  | natural (n : Nat) : Writable (.natural n)
  | text (s : String) : Writable (.text (some s))
  | array {items : List Value} : (∀ v ∈ items, Writable v) → Writable (.array items)
  | object {members : List (Option String × Value)} : (∀ m ∈ members, m.1.isSome = true) →
      (∀ m ∈ members, Writable m.2) → Writable (.object members)

/-- Nothing but blanks is put between the tokens. -/
structure Layout.IsBlank (l : Layout) : Prop where
  gap : ∀ depth, IsGaps (l.gap depth)
  afterColon : IsGaps l.afterColon

theorem compact_isBlank : Layout.compact.IsBlank := ⟨fun _ => nofun, nofun⟩

theorem pretty_isBlank : Layout.pretty.IsBlank := by
  refine ⟨fun depth c hc => ?_, fun c hc => ?_⟩
  · rcases List.mem_cons.mp hc with rfl | hc
    · rfl
    · rw [List.eq_of_mem_replicate hc]
      rfl
  · rw [List.mem_singleton.mp hc]
    rfl

/-! ### What is written -/

/-- A member as it is written, up to its value. -/
def writeKey (l : Layout) (key : Option String) : List Char :=
  writeString key ++ ':' :: l.afterColon

theorem writeItems_cons_append (l : Layout) (depth : Nat) (v : Value) (vs : List Value)
    (behind : List Char) : writeItems l depth (v :: vs) ++ behind =
      ',' ::
        (l.gap (depth + 1) ++ (v.write l (depth + 1) ++ (writeItems l depth vs ++ behind))) := by
  rw [writeItems]
  simp only [List.cons_append, List.append_assoc]

theorem write_array_cons_append (l : Layout) (depth : Nat) (v : Value) (vs : List Value)
    (behind : List Char) : (Value.array (v :: vs)).write l depth ++ behind =
      '[' ::
        (l.gap (depth + 1) ++ (v.write l (depth + 1) ++ (writeItems l depth vs ++ behind))) := by
  rw [Value.write]
  simp only [List.cons_append, List.append_assoc]

theorem writeMembers_cons_append (l : Layout) (depth : Nat) (key : Option String) (v : Value)
    (ms : List (Option String × Value)) (behind : List Char) :
    writeMembers l depth ((key, v) :: ms) ++ behind =
      ',' :: (l.gap (depth + 1) ++ (writeKey l key ++ (v.write l (depth + 1) ++
        (writeMembers l depth ms ++ behind)))) := by
  rw [writeMembers, writeKey]
  simp only [List.cons_append, List.append_assoc]

theorem write_object_cons_append (l : Layout) (depth : Nat) (key : Option String) (v : Value)
    (ms : List (Option String × Value)) (behind : List Char) :
    (Value.object ((key, v) :: ms)).write l depth ++ behind =
      '\x7b' :: (l.gap (depth + 1) ++ (writeKey l key ++ (v.write l (depth + 1) ++
        (writeMembers l depth ms ++ behind)))) := by
  rw [Value.write, writeKey]
  simp only [List.cons_append, List.append_assoc]

/-! ### Reading it back -/

/-- What is written for a value is read as this value, with twice as much fuel as there are
characters. -/
def ReadBack (l : Layout) (v : Value) : Prop :=
  ∀ depth fuel behind, 2 * (v.write l depth).length ≤ fuel → (v.IsWord → EndsWord behind) →
    value? fuel (v.write l depth ++ behind) = some (v, behind)

theorem value?_isGaps {gaps : List Char} (h : IsGaps gaps) (fuel : Nat) (cs : List Char) :
    value? fuel (gaps ++ cs) = value? fuel cs := by
  cases fuel with
  | zero => rfl
  | succ fuel => rw [value?, value?, skipGap_of_isGaps h]

/-- A word is read back if it is one of the words that stand for the value. -/
theorem readBack_word {l : Layout} {v : Value} {word : List Char}
    (hWritten : ∀ depth, v.write l depth = word) (hWord : ofWord? word = some v)
    (hChars : ∀ c ∈ word, isWordChar c = true) : ReadBack l v := by
  intro depth fuel behind hFuel hEnd
  rw [hWritten] at hFuel ⊢
  cases word with
  | nil => cases hWord
  | cons c cs =>
    obtain ⟨fuel, rfl⟩ : ∃ k, fuel = k + 1 := ⟨fuel - 1, by rw [List.length_cons] at hFuel; omega⟩
    have hFirst : isWordChar c = true := hChars c List.mem_cons_self
    have hOpens : OpensWord c := by
      refine ⟨?_, ?_, ?_⟩ <;> rintro rfl <;> cases hFirst
    have hSkip : skipGap (c :: cs ++ behind) = c :: (cs ++ behind) :=
      skipGap_cons (isGap_of_isWordChar hFirst) _
    have hDrop : (c :: cs).dropWhile isWordChar = [] := List.dropWhile_eq_nil_iff.mpr hChars
    have hTake : (c :: cs).takeWhile isWordChar = c :: cs := List.takeWhile_eq_self_iff.mpr hChars
    obtain ⟨hTakeAll, hDropAll⟩ :
        (c :: cs ++ behind).takeWhile isWordChar = (c :: cs).takeWhile isWordChar ∧
          (c :: cs ++ behind).dropWhile isWordChar = (c :: cs).dropWhile isWordChar ++ behind :=
      span_append fun _ => hEnd (isWord_of_ofWord? hWord)
    rw [hTake] at hTakeAll
    rw [hDrop, List.nil_append] at hDropAll
    have hStep : Step fuel (c :: cs ++ behind) v ((c :: (cs ++ behind)).dropWhile isWordChar) :=
      .word hSkip hOpens (by rw [← List.cons_append, hTakeAll, hWord])
    rw [value?_eq_some_iff]
    rwa [← List.cons_append, hDropAll] at hStep

theorem readBack_text (l : Layout) (s : String) : ReadBack l (.text (some s)) := by
  intro depth fuel behind hFuel _
  obtain ⟨inside, hWritten, hLiteral⟩ := literal?_writeText s behind
  have hFuel : 0 < fuel := by
    simp only [Value.write, writeString, writeText, List.length_append, List.length_cons] at hFuel
    omega
  obtain ⟨fuel, rfl⟩ : ∃ k, fuel = k + 1 := ⟨fuel - 1, by omega⟩
  rw [Value.write, writeString, Option.getD_some, hWritten, value?_eq_some_iff]
  exact .text (skipGap_cons rfl inside) hLiteral

/-- A value that can be written starts with a character that is neither blank nor a closing
bracket. -/
theorem write_head {v : Value} (hv : v.Writable) (l : Layout) (depth : Nat) :
    ∃ c cs, v.write l depth = c :: cs ∧ isGap c = false ∧ c ≠ ']' := by
  cases hv with
  | null => exact ⟨_, _, by rw [Value.write]; rfl, rfl, by decide⟩
  | bool b =>
    cases b with
    | true => exact ⟨_, _, by rw [Value.write]; rfl, rfl, by decide⟩
    | false => exact ⟨_, _, by rw [Value.write]; rfl, rfl, by decide⟩
  | natural n =>
    obtain ⟨c, cs, hDigits⟩ := List.exists_cons_of_ne_nil (Nat.toDigits_ne_nil (n := n) (b := 10))
    have hDigit : c.isDigit = true :=
      Nat.isDigit_of_mem_toDigits (by decide) (by decide) (hDigits ▸ List.mem_cons_self)
    refine ⟨c, cs, ?_, ?_, ?_⟩
    · rw [Value.write, Nat.toString_eq_ofList_toDigits, String.toList_ofList, hDigits]
    · exact isGap_of_isWordChar (by simp [isWordChar, Char.isAlphanum, hDigit])
    · rintro rfl
      cases hDigit
  | text s => exact ⟨_, _, by rw [Value.write, writeString, writeText]; rfl, rfl, by decide⟩
  | @array items _ =>
    cases items with
    | nil => exact ⟨_, _, by rw [Value.write], rfl, by decide⟩
    | cons v vs => exact ⟨_, _, by rw [Value.write]; rfl, rfl, by decide⟩
  | @object members _ _ =>
    cases members with
    | nil => exact ⟨_, _, by rw [Value.write], rfl, by decide⟩
    | cons m ms => exact ⟨_, _, by rw [Value.write]; rfl, rfl, by decide⟩

variable {l : Layout}

theorem endsWord_writeItems (hl : l.IsBlank) (depth : Nat) (vs : List Value) (behind : List Char) :
    EndsWord (writeItems l depth vs ++ behind) := by
  cases vs with
  | nil =>
    rw [writeItems, List.append_assoc]
    exact endsWord_append_cons (hl.gap depth) rfl behind
  | cons v vs =>
    rw [writeItems]
    exact endsWord_cons rfl _

theorem items?_isGaps {gaps : List Char} (h : IsGaps gaps) (fuel : Nat) (cs : List Char) :
    items? fuel (gaps ++ cs) = items? fuel cs := by
  cases fuel with
  | zero => rfl
  | succ fuel => rw [items?, items?, value?_isGaps h]

theorem items?_write (hl : l.IsBlank) (depth : Nat) {v : Value} {vs : List Value}
    (h : ∀ w ∈ v :: vs, ReadBack l w) (fuel : Nat) (behind : List Char)
    (hFuel : 2 * ((v.write l (depth + 1)).length + (writeItems l depth vs).length) ≤ fuel) :
    items? fuel (v.write l (depth + 1) ++ (writeItems l depth vs ++ behind)) =
      some (v :: vs, behind) := by
  -- each item takes one unit of fuel, and its comma alone allows for two
  induction vs generalizing v fuel with
  | nil =>
    have hLength : 1 ≤ (writeItems l depth []).length := by
      simp [writeItems]
    obtain ⟨fuel, rfl⟩ : ∃ k, fuel = k + 1 := ⟨fuel - 1, by omega⟩
    rw [items?_eq_some_iff]
    refine .last (h v List.mem_cons_self (depth + 1) fuel _ (by omega) fun _ =>
      endsWord_writeItems hl depth [] behind) ?_
    rw [writeItems, List.append_assoc, skipGap_of_isGaps (hl.gap depth)]
    exact skipGap_cons rfl behind
  | cons w ws ih =>
    have hWritten := writeItems_cons_append l depth w ws behind
    have hLength := congrArg List.length hWritten
    simp only [List.length_append, List.length_cons] at hLength
    obtain ⟨fuel, rfl⟩ : ∃ k, fuel = k + 1 := ⟨fuel - 1, by omega⟩
    have hRest := ih (fun u hu => h u (List.mem_cons_of_mem v hu)) fuel (by omega)
    rw [← items?_isGaps (hl.gap (depth + 1))] at hRest
    rw [items?_eq_some_iff]
    refine .more (h v List.mem_cons_self (depth + 1) fuel _ (by omega) fun _ =>
      endsWord_writeItems hl depth (w :: ws) behind) ?_ hRest
    rw [hWritten]
    exact skipGap_cons rfl _

theorem readBack_array (hl : l.IsBlank) {items : List Value} (hWritable : ∀ v ∈ items, v.Writable)
    (h : ∀ v ∈ items, ReadBack l v) : ReadBack l (.array items) := by
  intro depth fuel behind hFuel _
  cases items with
  | nil =>
    obtain ⟨fuel, rfl⟩ : ∃ k, fuel = k + 1 := ⟨fuel - 1, by simp [Value.write] at hFuel; omega⟩
    rw [Value.write, value?_eq_some_iff]
    exact .emptyArray (skipGap_cons rfl _) (skipGap_cons rfl _)
  | cons v vs =>
    have hWritten := write_array_cons_append l depth v vs behind
    have hLength := congrArg List.length hWritten
    simp only [List.length_append, List.length_cons] at hLength
    obtain ⟨c, cs, hHead, hGap, hOpen⟩ := write_head (hWritable v List.mem_cons_self) l (depth + 1)
    have hSkip : skipGap (l.gap (depth + 1) ++ (v.write l (depth + 1) ++
        (writeItems l depth vs ++ behind))) =
          v.write l (depth + 1) ++ (writeItems l depth vs ++ behind) := by
      rw [skipGap_of_isGaps (hl.gap (depth + 1)), hHead]
      exact skipGap_cons hGap _
    obtain ⟨fuel, rfl⟩ : ∃ k, fuel = k + 1 := ⟨fuel - 1, by omega⟩
    rw [hWritten, value?_eq_some_iff]
    refine .array (skipGap_cons rfl _) ?_ ?_
    · intro last hClosed
      rw [hSkip, hHead] at hClosed
      exact hOpen (List.cons.inj hClosed).1
    · rw [hSkip]
      exact items?_write hl depth h fuel behind (by omega)

theorem endsWord_writeMembers (hl : l.IsBlank) (depth : Nat) (ms : List (Option String × Value))
    (behind : List Char) : EndsWord (writeMembers l depth ms ++ behind) := by
  cases ms with
  | nil =>
    rw [writeMembers, List.append_assoc]
    exact endsWord_append_cons (hl.gap depth) rfl behind
  | cons m ms =>
    rw [writeMembers]
    exact endsWord_cons rfl _

theorem members?_isGaps {gaps : List Char} (h : IsGaps gaps) (fuel : Nat) (cs : List Char) :
    members? fuel (gaps ++ cs) = members? fuel cs := by
  cases fuel with
  | zero => rfl
  | succ fuel => rw [members?, members?, skipGap_of_isGaps h]

/-- What is read of a member before its value. -/
theorem key_write (hl : l.IsBlank) (key : String) (behind : List Char) :
    ∃ inside colon next, writeKey l (some key) ++ behind = '"' :: inside ∧
      literal? inside = some (some key, colon) ∧ skipGap colon = ':' :: next ∧
      ∀ fuel, value? fuel next = value? fuel behind := by
  obtain ⟨inside, hWritten, hLiteral⟩ := literal?_writeText key (':' :: (l.afterColon ++ behind))
  refine ⟨inside, _, l.afterColon ++ behind, ?_, hLiteral, skipGap_cons rfl _,
    fun fuel => value?_isGaps hl.afterColon fuel behind⟩
  rw [writeKey, writeString, Option.getD_some, ← hWritten, List.append_assoc]
  rfl

theorem members?_write (hl : l.IsBlank) (depth : Nat) {key : String} {v : Value}
    {ms : List (Option String × Value)} (hKeys : ∀ m ∈ ms, m.1.isSome = true)
    (hFirst : ReadBack l v) (hRest : ∀ m ∈ ms, ReadBack l m.2) (fuel : Nat) (behind : List Char)
    (hFuel : 2 * ((writeKey l (some key)).length + (v.write l (depth + 1)).length +
      (writeMembers l depth ms).length) ≤ fuel) :
    members? fuel (writeKey l (some key) ++ (v.write l (depth + 1) ++
      (writeMembers l depth ms ++ behind))) = some ((some key, v) :: ms, behind) := by
  induction ms generalizing key v fuel with
  | nil =>
    have hLength : 1 ≤ (writeMembers l depth []).length := by simp [writeMembers]
    obtain ⟨fuel, rfl⟩ : ∃ k, fuel = k + 1 := ⟨fuel - 1, by omega⟩
    obtain ⟨inside, colon, next, hWritten, hLiteral, hColon, hNext⟩ :=
      key_write hl key (v.write l (depth + 1) ++ (writeMembers l depth [] ++ behind))
    have hValue := hFirst (depth + 1) fuel (writeMembers l depth [] ++ behind) (by omega) fun _ =>
      endsWord_writeMembers hl depth [] behind
    rw [← hNext] at hValue
    rw [hWritten, members?_eq_some_iff]
    refine .last (skipGap_cons rfl inside) hLiteral hColon hValue ?_
    rw [writeMembers, List.append_assoc, skipGap_of_isGaps (hl.gap depth)]
    exact skipGap_cons rfl behind
  | cons m ms ih =>
    obtain ⟨other, w⟩ := m
    obtain ⟨other, rfl⟩ := Option.isSome_iff_exists.mp (hKeys _ List.mem_cons_self)
    have hMembers := writeMembers_cons_append l depth (some other) w ms behind
    have hLength := congrArg List.length hMembers
    simp only [List.length_append, List.length_cons] at hLength
    obtain ⟨fuel, rfl⟩ : ∃ k, fuel = k + 1 := ⟨fuel - 1, by omega⟩
    obtain ⟨inside, colon, next, hWritten, hLiteral, hColon, hNext⟩ := key_write hl key
      (v.write l (depth + 1) ++ (writeMembers l depth ((some other, w) :: ms) ++ behind))
    have hValue := hFirst (depth + 1) fuel (writeMembers l depth ((some other, w) :: ms) ++ behind)
      (by omega) fun _ => endsWord_writeMembers hl depth _ behind
    rw [← hNext] at hValue
    have hSecond : ReadBack l w := hRest _ List.mem_cons_self
    have hMore : members? fuel (writeKey l (some other) ++ (w.write l (depth + 1) ++
        (writeMembers l depth ms ++ behind))) = some ((some other, w) :: ms, behind) :=
      ih (fun m hm => hKeys m (List.mem_cons_of_mem _ hm)) hSecond
        (fun m hm => hRest m (List.mem_cons_of_mem _ hm)) fuel (by omega)
    rw [← members?_isGaps (hl.gap (depth + 1))] at hMore
    rw [hWritten, members?_eq_some_iff]
    refine .more (skipGap_cons rfl inside) hLiteral hColon hValue ?_ hMore
    rw [hMembers]
    exact skipGap_cons rfl _

theorem readBack_object (hl : l.IsBlank) {members : List (Option String × Value)}
    (hKeys : ∀ m ∈ members, m.1.isSome = true) (h : ∀ m ∈ members, ReadBack l m.2) :
    ReadBack l (.object members) := by
  intro depth fuel behind hFuel _
  cases members with
  | nil =>
    obtain ⟨fuel, rfl⟩ : ∃ k, fuel = k + 1 := ⟨fuel - 1, by simp [Value.write] at hFuel; omega⟩
    rw [Value.write, value?_eq_some_iff]
    exact .emptyObject (skipGap_cons rfl _) (skipGap_cons rfl _)
  | cons m ms =>
    obtain ⟨key, v⟩ := m
    obtain ⟨key, rfl⟩ := Option.isSome_iff_exists.mp (hKeys _ List.mem_cons_self)
    have hWritten := write_object_cons_append l depth (some key) v ms behind
    have hLength := congrArg List.length hWritten
    simp only [List.length_append, List.length_cons] at hLength
    have hSkip : skipGap (l.gap (depth + 1) ++ (writeKey l (some key) ++ (v.write l (depth + 1) ++
        (writeMembers l depth ms ++ behind)))) = writeKey l (some key) ++ (v.write l (depth + 1) ++
          (writeMembers l depth ms ++ behind)) := by
      rw [skipGap_of_isGaps (hl.gap (depth + 1))]
      exact skipGap_cons rfl _
    obtain ⟨fuel, rfl⟩ : ∃ k, fuel = k + 1 := ⟨fuel - 1, by omega⟩
    have hFirst : ReadBack l v := h _ List.mem_cons_self
    rw [hWritten, value?_eq_some_iff]
    refine .object (skipGap_cons rfl _) ?_ ?_
    · intro last hClosed
      rw [hSkip] at hClosed
      exact absurd (List.cons.inj hClosed).1 (by decide)
    · rw [hSkip]
      exact members?_write hl depth (fun m hm => hKeys m (List.mem_cons_of_mem _ hm))
        hFirst (fun m hm => h m (List.mem_cons_of_mem _ hm)) fuel behind (by omega)

/-- Whatever blanks stand between the tokens, a value that can be written is read back. -/
theorem readBack_of_writable (hl : l.IsBlank) {v : Value} (hv : v.Writable) : ReadBack l v := by
  induction hv with
  | null => exact readBack_word (fun _ => Value.write.eq_1 _ _) rfl (List.all_eq_true.mp rfl)
  | bool b =>
    cases b with
    | true => exact readBack_word (fun _ => Value.write.eq_2 _ _) rfl (List.all_eq_true.mp rfl)
    | false => exact readBack_word (fun _ => Value.write.eq_3 _ _) rfl (List.all_eq_true.mp rfl)
  | natural n =>
    have hWritten (depth : Nat) : (Value.natural n).write l depth = Nat.toDigits 10 n := by
      rw [Value.write, Nat.toString_eq_ofList_toDigits, String.toList_ofList]
    refine readBack_word hWritten (ofWord?_toDigits n) fun c hc => ?_
    have hDigit : c.isDigit = true := Nat.isDigit_of_mem_toDigits (by decide) (by decide) hc
    simp [isWordChar, Char.isAlphanum, hDigit]
  | text s => exact readBack_text l s
  | array hItems ih => exact readBack_array hl hItems ih
  | object hKeys _ ih => exact readBack_object hl hKeys ih

/-- **What is written is read back**: a text that is one value gives that value. -/
theorem read?_render (hl : l.IsBlank) {v : Value} (hv : v.Writable) :
    read? (v.render l) = some v := by
  have hValue := readBack_of_writable hl hv 0 (2 * (v.write l 0).length + 1) [] (by omega)
    fun _ => nofun
  rw [List.append_nil] at hValue
  rw [read?, readPrefix?, Value.render, String.toList_ofList, hValue]
  rfl

end BuildScan.Json
