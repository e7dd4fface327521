import BuildScan.Go.Fault

/-!
# The nodes of a tree in the order of the text

`Node.nodes` lists a tree in the order of the text, each node before what stands below it.  The
searches of a tree read this list: `hasFault_iff` says that a tree has a fault if one is in the
list, and `firstFault?_eq_find?` that the search for the first fault, which skips what has none,
finds the first one of the list.

In a tree whose nodes stand in order (`inOrder`) no node starts before one that is listed earlier:
`pairwise_start_of_inOrder`.  So the first fault of the list is also the one that starts first:
`start_le_of_firstFault?`.
-/

namespace BuildScan.Go.Node

/-- Induction on a tree: a node has a property if all its children have it. -/
theorem ind {P : Node → Prop}
    (h : ∀ kind span missing children, (∀ c ∈ children, P c) → P (mk kind span missing children)) :
    ∀ n, P n := by
  intro n
  refine @Node.rec P (fun ns => ∀ c ∈ ns, P c) h ?_ ?_ n
  · intro c hc
    simp at hc
  · intro n ns hn hns c hc
    rcases List.mem_cons.mp hc with rfl | hc
    · exact hn
    · exact hns c hc

mutual

/-- The node and all that stands below it. -/
def nodes : Node → List Node
  | mk kind span missing children => mk kind span missing children :: nodesIn children

def nodesIn : List Node → List Node
  | [] => []
  | n :: ns => nodes n ++ nodesIn ns

end

theorem nodesIn_eq_flatMap (ns : List Node) : nodesIn ns = ns.flatMap nodes := by
  induction ns with
  | nil => rfl
  | cons n ns ih => rw [nodesIn, ih, List.flatMap_cons]

theorem nodes_eq (n : Node) : n.nodes = n :: n.children.flatMap nodes := by
  obtain ⟨kind, span, missing, children⟩ := n
  rw [nodes, nodesIn_eq_flatMap]
  rfl

theorem self_mem_nodes (n : Node) : n ∈ n.nodes := by
  rw [nodes_eq]
  exact List.mem_cons_self

theorem mem_nodes_iff {n m : Node} : m ∈ n.nodes ↔ m = n ∨ ∃ c ∈ n.children, m ∈ c.nodes := by
  rw [nodes_eq, List.mem_cons, List.mem_flatMap]

theorem mem_nodes_of_mem_children {n c : Node} (h : c ∈ n.children) : c ∈ n.nodes :=
  mem_nodes_iff.mpr (Or.inr ⟨c, h, self_mem_nodes c⟩)

theorem mem_nodes_trans {n m k : Node} (hm : m ∈ n.nodes) (hk : k ∈ m.nodes) : k ∈ n.nodes := by
  induction n using ind with
  | h kind span missing children ih =>
    rcases mem_nodes_iff.mp hm with rfl | ⟨c, hc, hm⟩
    · exact hk
    · exact mem_nodes_iff.mpr (Or.inr ⟨c, hc, ih c hc hm⟩)

/-! ### Faults -/

theorem hasFaultIn_eq_any (ns : List Node) : hasFaultIn ns = ns.any hasFault := by
  induction ns with
  | nil => rfl
  | cons n ns ih => rw [hasFaultIn, ih, List.any_cons]

theorem hasFault_eq (n : Node) : n.hasFault = (n.isFault || n.children.any hasFault) := by
  obtain ⟨kind, span, missing, children⟩ := n
  rw [hasFault, hasFaultIn_eq_any]
  rfl

theorem hasFault_iff {n : Node} : n.hasFault = true ↔ ∃ m ∈ n.nodes, m.isFault = true := by
  induction n using ind with
  | h kind span missing children ih =>
    rw [hasFault_eq, Bool.or_eq_true, List.any_eq_true]
    constructor
    · rintro (hFault | ⟨c, hc, hFault⟩)
      · exact ⟨_, self_mem_nodes _, hFault⟩
      · obtain ⟨m, hm, hFault⟩ := (ih c hc).mp hFault
        exact ⟨m, mem_nodes_iff.mpr (Or.inr ⟨c, hc, hm⟩), hFault⟩
    · rintro ⟨m, hm, hFault⟩
      rcases mem_nodes_iff.mp hm with rfl | ⟨c, hc, hm⟩
      · exact Or.inl hFault
      · exact Or.inr ⟨c, hc, (ih c hc).mpr ⟨m, hm, hFault⟩⟩

theorem hasFault_eq_false_iff {n : Node} :
    n.hasFault = false ↔ ∀ m ∈ n.nodes, m.isFault = false := by
  rw [← Bool.not_eq_true, hasFault_iff]
  simp

theorem firstFaultIn?_eq_findSome? (ns : List Node) :
    firstFaultIn? ns = ns.findSome? firstFault? := by
  induction ns with
  | nil => rfl
  | cons n ns ih =>
    rw [firstFaultIn?, ih, List.findSome?_cons]
    cases n.firstFault? <;> rfl

theorem firstFault?_eq (n : Node) :
    n.firstFault? = if n.isFault then some n
      else if n.hasFault then n.children.findSome? firstFault? else none := by
  obtain ⟨kind, span, missing, children⟩ := n
  rw [firstFault?, firstFaultIn?_eq_findSome?]
  rfl

theorem findSome?_firstFault? {ns : List Node}
    (h : ∀ c ∈ ns, c.firstFault? = c.nodes.find? isFault) :
    ns.findSome? firstFault? = (ns.flatMap nodes).find? isFault := by
  induction ns with
  | nil => rfl
  | cons n ns ih =>
    rw [List.findSome?_cons, List.flatMap_cons, List.find?_append, h n List.mem_cons_self,
      ih fun c hc => h c (List.mem_cons_of_mem _ hc)]
    cases n.nodes.find? isFault <;> rfl

/-- Skipping what has no fault, the search still finds the first fault of all nodes. -/
theorem firstFault?_eq_find? (n : Node) : n.firstFault? = n.nodes.find? isFault := by
  induction n using ind with
  | h kind span missing children ih =>
    generalize hn : mk kind span missing children = n
    have hChildren : n.children = children := by rw [← hn]; rfl
    rw [firstFault?_eq, nodes_eq, List.find?_cons, hChildren]
    by_cases hFault : n.isFault = true
    · simp [hFault]
    · simp only [hFault, Bool.false_eq_true, if_false]
      by_cases hAny : n.hasFault = true
      · rw [if_pos hAny, findSome?_firstFault? ih]
      · rw [if_neg hAny]
        symm
        rw [List.find?_eq_none]
        intro m hm
        have hNone := hasFault_eq_false_iff.mp (Bool.not_eq_true _ ▸ hAny) m
        rw [hNone (by rw [nodes_eq, hChildren]; exact List.mem_cons_of_mem _ hm)]
        exact Bool.false_ne_true

/-! ### Order -/

theorem inOrder_eq (n : Node) : n.inOrder = inOrderWithin n.start n.stop n.children := by
  obtain ⟨kind, span, missing, children⟩ := n
  rw [inOrder]
  rfl

theorem inOrderWithin_children {n : Node} (h : n.inOrder = true) :
    inOrderWithin n.start n.stop n.children = true := by
  rwa [inOrder_eq] at h

theorem inOrderWithin_cons {start stop : Nat} {n : Node} {ns : List Node} :
    inOrderWithin start stop (n :: ns) = true ↔
      start ≤ n.start ∧ n.inOrder = true ∧ inOrderWithin n.stop stop ns = true := by
  obtain ⟨kind, span, missing, children⟩ := n
  rw [inOrderWithin, Bool.and_eq_true, Bool.and_eq_true, decide_eq_true_eq, and_assoc]
  rfl

theorem le_of_forall_le {start stop : Nat} {ns : List Node}
    (hAll : ∀ c ∈ ns, c.inOrder = true → c.start ≤ c.stop)
    (h : inOrderWithin start stop ns = true) : start ≤ stop := by
  induction ns generalizing start with
  | nil => simpa [inOrderWithin] using h
  | cons c cs ih =>
    obtain ⟨hStart, hChild, hRest⟩ := inOrderWithin_cons.mp h
    have hSelf := hAll c List.mem_cons_self hChild
    have hBehind := ih (fun d hd => hAll d (List.mem_cons_of_mem _ hd)) hRest
    omega

theorem start_le_stop {n : Node} (h : n.inOrder = true) : n.start ≤ n.stop := by
  induction n using ind with
  | h kind span missing children ih =>
    rw [inOrder_eq] at h
    exact le_of_forall_le ih h

theorem le_of_inOrderWithin {start stop : Nat} {ns : List Node}
    (h : inOrderWithin start stop ns = true) : start ≤ stop :=
  le_of_forall_le (fun _ _ => start_le_stop) h

theorem mem_of_inOrderWithin {start stop : Nat} {ns : List Node}
    (h : inOrderWithin start stop ns = true) {n : Node} (hn : n ∈ ns) :
    n.inOrder = true ∧ start ≤ n.start ∧ n.stop ≤ stop := by
  induction ns generalizing start with
  | nil => simp at hn
  | cons c cs ih =>
    obtain ⟨hStart, hChild, hRest⟩ := inOrderWithin_cons.mp h
    rcases List.mem_cons.mp hn with rfl | hn
    · exact ⟨hChild, hStart, le_of_inOrderWithin hRest⟩
    · obtain ⟨hOrder, hBehind, hStop⟩ := ih hRest hn
      have hSelf := start_le_stop hChild
      exact ⟨hOrder, by omega, hStop⟩

theorem pairwise_of_inOrderWithin {start stop : Nat} {ns : List Node}
    (h : inOrderWithin start stop ns = true) : ns.Pairwise fun a b => a.stop ≤ b.start := by
  induction ns generalizing start with
  | nil => exact List.Pairwise.nil
  | cons c cs ih =>
    obtain ⟨-, -, hRest⟩ := inOrderWithin_cons.mp h
    exact List.Pairwise.cons (fun d hd => (mem_of_inOrderWithin hRest hd).2.1) (ih hRest)

theorem within_of_mem_nodes {n m : Node} (h : n.inOrder = true) (hm : m ∈ n.nodes) :
    n.start ≤ m.start ∧ m.start ≤ m.stop ∧ m.stop ≤ n.stop := by
  induction n using ind with
  | h kind span missing children ih =>
    rcases mem_nodes_iff.mp hm with rfl | ⟨c, hc, hm⟩
    · exact ⟨Nat.le_refl _, start_le_stop h, Nat.le_refl _⟩
    · obtain ⟨hOrder, hStart, hStop⟩ := mem_of_inOrderWithin (inOrderWithin_children h) hc
      obtain ⟨hLow, hSelf, hHigh⟩ := ih c hc hOrder hm
      exact ⟨by omega, hSelf, by omega⟩

theorem inOrder_of_mem_children {n c : Node} (h : n.inOrder = true) (hc : c ∈ n.children) :
    c.inOrder = true :=
  (mem_of_inOrderWithin (inOrderWithin_children h) hc).1

/-- No node starts before one that is listed earlier. -/
theorem pairwise_start_of_inOrder {n : Node} (h : n.inOrder = true) :
    n.nodes.Pairwise fun a b => a.start ≤ b.start := by
  induction n using ind with
  | h kind span missing children ih =>
    have hWithin := inOrderWithin_children h
    rw [nodes_eq]
    refine List.Pairwise.cons ?_ (List.pairwise_flatMap.mpr ⟨?_, ?_⟩)
    · intro m hm
      refine (within_of_mem_nodes h ?_).1
      rw [nodes_eq]
      exact List.mem_cons_of_mem _ hm
    · intro c hc
      exact ih c hc (inOrder_of_mem_children h hc)
    · refine (pairwise_of_inOrderWithin hWithin).imp_of_mem ?_
      intro a b ha hb hab x hx y hy
      have hLeft := within_of_mem_nodes (inOrder_of_mem_children h ha) hx
      have hRight := within_of_mem_nodes (inOrder_of_mem_children h hb) hy
      omega

/-- **The first fault starts first**: in a tree in order, no fault starts before the one that is
found. -/
theorem start_le_of_firstFault? {n f : Node} (h : n.inOrder = true) (hf : n.firstFault? = some f)
    {m : Node} (hm : m ∈ n.nodes) (hFault : m.isFault = true) : f.start ≤ m.start := by
  rw [firstFault?_eq_find?, List.find?_eq_some_iff_append] at hf
  obtain ⟨-, before, behind, hNodes, hSound⟩ := hf
  have hSorted := pairwise_start_of_inOrder h
  rw [hNodes] at hSorted hm
  rcases List.mem_append.mp hm with hm | hm
  · exact absurd hFault (by simpa using hSound m hm)
  · rcases List.mem_cons.mp hm with rfl | hm
    · exact Nat.le_refl _
    · exact (List.pairwise_cons.mp (List.pairwise_append.mp hSorted).2.1).1 m hm

end BuildScan.Go.Node
