import Mathlib.Data.List.Induction
import Mathlib.Data.List.Basic
import BuildScan.SourceUnit

/-!
# Lists without repetitions

A list without repetitions keeps of equal entries the first, so it has the entries of the list in
the order of their first places (`ordered_unique`).  This order and its members determine it
(`ListsOnce.eq_unique`).

Of two lists, one behind the other, the second one keeps what is new (`unique_append`).  So the list
is also what comes of adding the entries one after the other: one more entry goes behind those that
are there, unless it is among them (`unique_concat`), and so do all of them in turn
(`foldl_addNew`).
-/

namespace BuildScan

/-- The second list has the entries of the first one, each once, in the order of their first
places. -/
structure ListsOnce (xs ys : List String) : Prop where
  nodup : ys.Nodup
  mem_iff : ∀ x, x ∈ ys ↔ x ∈ xs
  sublist : ys.Sublist xs
  ordered : ys.Pairwise fun x y => xs.idxOf x < xs.idxOf y

/-- Adds an entry behind others, unless it is among them. -/
def addNew (seen : List String) (x : String) : List String := if x ∈ seen then seen else seen ++ [x]

theorem unique_filter (p : String → Bool) (xs : List String) :
    unique (xs.filter p) = (unique xs).filter p := by
  induction xs with
  | nil => rfl
  | cons x xs ih =>
    by_cases hx : p x = true
    · rw [List.filter_cons_of_pos hx, unique, unique, List.filter_cons_of_pos hx, ih,
        List.filter_filter, List.filter_filter]
      simp only [Bool.and_comm]
    · -- what is taken out behind `x` for being equal to it would not pass either
      have hSame : ∀ y ∈ unique xs, p y = (p y && (y != x)) := by
        intro y _
        by_cases hEq : y = x
        · simp [hEq, hx]
        · simp [hEq]
      rw [List.filter_cons_of_neg hx, unique, List.filter_cons_of_neg hx, ih, List.filter_filter]
      exact List.filter_congr hSame

/-- The first of equal entries stays. -/
theorem unique_eq_eraseDups (xs : List String) : unique xs = xs.eraseDups := by
  induction hLength : xs.length using Nat.strongRecOn generalizing xs with
  | ind n ih =>
    cases xs with
    | nil => rfl
    | cons x xs =>
      have hShorter : (xs.filter fun y => !y == x).length < n := by
        have hFilter := List.length_filter_le (fun y => !y == x) xs
        rw [List.length_cons] at hLength
        omega
      rw [unique, List.eraseDups_cons, ← ih _ hShorter _ rfl, unique_filter]
      rfl

theorem mem_unique {x : String} {xs : List String} : x ∈ unique xs ↔ x ∈ xs := by
  rw [unique_eq_eraseDups, List.mem_eraseDups]

/-! ### Order -/

theorem unique_sublist (xs : List String) : (unique xs).Sublist xs := by
  induction xs with
  | nil => exact .slnil
  | cons x xs ih => exact (List.filter_sublist.trans ih).cons_cons x

theorem ordered_unique (xs : List String) :
    (unique xs).Pairwise fun x y => xs.idxOf x < xs.idxOf y := by
  induction xs with
  | nil => exact .nil
  | cons x xs ih =>
    have hOther : ∀ y ∈ (unique xs).filter (· != x), x ≠ y := by
      intro y hy
      have hNe := (List.mem_filter.mp hy).2
      exact fun hEq => by simp [hEq] at hNe
    rw [unique, List.pairwise_cons]
    constructor
    · intro y hy
      rw [List.idxOf_cons_self, List.idxOf_cons_ne xs (hOther y hy)]
      exact Nat.succ_pos _
    · refine (ih.filter _).imp_of_mem ?_
      intro y z hy hz hLess
      rw [List.idxOf_cons_ne xs (hOther y hy), List.idxOf_cons_ne xs (hOther z hz)]
      exact Nat.succ_lt_succ hLess

theorem nodup_unique (xs : List String) : (unique xs).Nodup := by
  refine (ordered_unique xs).imp ?_
  rintro x _ hLess rfl
  exact Nat.lt_irrefl _ hLess

theorem listsOnce_unique (xs : List String) : ListsOnce xs (unique xs) :=
  ⟨nodup_unique xs, fun _ => mem_unique, unique_sublist xs, ordered_unique xs⟩

theorem ListsOnce.eq_unique {xs ys : List String} (h : ListsOnce xs ys) : ys = unique xs := by
  have hPerm : ys.Perm (unique xs) := by
    rw [List.perm_ext_iff_of_nodup h.nodup (nodup_unique xs)]
    intro x
    rw [h.mem_iff, mem_unique]
  refine hPerm.eq_of_pairwise ?_ h.ordered (ordered_unique xs)
  intro x y _ _ hLess hMore
  exact absurd hMore (Nat.lt_asymm hLess)

/-! ### Lists in parts -/

/-- Of the second list only what is new stays. -/
theorem unique_append (xs ys : List String) :
    unique (xs ++ ys) = unique xs ++ (unique ys).filter (· ∉ xs) := by
  induction xs with
  | nil =>
    have hAll : (unique ys).filter (· ∉ ([] : List String)) = unique ys :=
      List.filter_eq_self.mpr fun y _ => rfl
    rw [List.nil_append, hAll]
    rfl
  | cons x xs ih =>
    rw [List.cons_append, unique, ih, List.filter_append, List.filter_filter, unique,
      List.cons_append]
    refine congrArg (fun news => x :: ((unique xs).filter (· != x) ++ news)) ?_
    refine List.filter_congr fun y _ => ?_
    rw [Bool.eq_iff_iff]
    simp

theorem unique_unique (xs : List String) : unique (unique xs) = unique xs := by
  induction xs with
  | nil => rfl
  | cons x xs ih =>
    have hNew : ((unique xs).filter (· != x)).filter (· != x) = (unique xs).filter (· != x) := by
      rw [List.filter_filter]
      exact List.filter_congr fun y _ => Bool.and_self _
    rw [unique, unique, unique_filter, ih, hNew]

theorem unique_append_unique (xs ys : List String) :
    unique (unique xs ++ unique ys) = unique (xs ++ ys) := by
  rw [unique_append, unique_append, unique_unique, unique_unique]
  simp only [mem_unique]

theorem unique_concat (xs : List String) (x : String) :
    unique (xs ++ [x]) = addNew (unique xs) x := by
  rw [unique_append, addNew]
  by_cases hMem : x ∈ xs
  · rw [if_pos (mem_unique.mpr hMem)]
    simp [unique, hMem]
  · rw [if_neg (mem_unique.not.mpr hMem)]
    simp [unique, hMem]

/-- Behind each entry the loop has the part that it has seen, without repetitions. -/
theorem foldl_addNew (xs : List String) : xs.foldl addNew [] = unique xs := by
  induction xs using List.reverseRecOn with
  | nil => rfl
  | append_singleton xs x ih => rw [List.foldl_concat, ih, unique_concat]

end BuildScan
