import BuildScan.Parsing.Stack
import BuildScan.Text.Bytes

/-!
# The trees of a stack stand on the text

A place stands on a text if it is a seam between two characters of it, and what the place has before
it is the text from there on (`Place.On`).  A tree stands on the text if it starts and stops at such
places, and so does all below it (`Subtree.On`).

`Reader.On` says this of all that a reader holds: the places of its stack, the trees on it, the
terminals that its versions wait with, and the reading that it has finished.  Here it is shown for
the operations of the stack; how a reader uses them does not matter yet.
-/

namespace BuildScan.Parsing

open BuildScan.Text

/-! ### Places and trees -/

/-- The place is a seam of the text, and what is before it is read from there.  Text may be left
behind what it shows. -/
def Place.On (text : List Char) (p : Place) : Prop :=
  ∃ before behind, text = before ++ (p.rest ++ behind) ∧ p.offset = byteSize before

/-- The tree, and all below it, starts and stops on the text. -/
inductive Subtree.On (text : List Char) : Subtree → Prop
  | mk {trunk : Trunk} {children : List Subtree} : trunk.start.On text → trunk.stop.On text →
      (∀ c ∈ children, Subtree.On text c) → Subtree.On text (.mk trunk children)

variable {text : List Char}

theorem Place.on_default : Place.On text default := ⟨[], text, rfl, rfl⟩

theorem Place.on_ofText : (Place.ofText text).On text := ⟨[], [], by rw [ofText]; simp, rfl⟩

theorem Place.advance_on {p : Place} (h : p.On text) (n : Nat) : (p.advance n).On text := by
  induction n generalizing p with
  | zero => exact h
  | succ n ih =>
    rw [advance]
    cases hRest : p.rest with
    | nil => exact h
    | cons c rest =>
      obtain ⟨before, behind, hText, hOffset⟩ := h
      refine ih ⟨before ++ [c], behind, ?_, ?_⟩
      · rw [hText, hRest, List.append_assoc]
        rfl
      · rw [byteSize_append, hOffset]
        rfl

namespace Subtree

theorem On.start {t : Subtree} (h : t.On text) : t.trunk.start.On text := by
  cases h with
  | mk hStart => exact hStart

theorem On.stop {t : Subtree} (h : t.On text) : t.trunk.stop.On text := by
  cases h with
  | mk _ hStop => exact hStop

theorem On.child {t c : Subtree} (h : t.On text) (hc : c ∈ t.children) : c.On text := by
  cases h with
  | mk _ _ hChildren => exact hChildren c hc

theorem On.withTrunk {t : Subtree} (h : t.On text) {f : Trunk → Trunk}
    (hStart : (f t.trunk).start = t.trunk.start) (hStop : (f t.trunk).stop = t.trunk.stop) :
    (t.withTrunk f).On text := by
  obtain ⟨trunk, children⟩ := t
  refine .mk ?_ ?_ fun c hc => h.child hc
  · exact hStart.symm ▸ h.start
  · exact hStop.symm ▸ h.stop

theorem On.asExtra {t : Subtree} (h : t.On text) : t.asExtra.On text := h.withTrunk rfl rfl

theorem on_leaf {label : Label} {shown : Bool} {margin start stop : Place} (hStart : start.On text)
    (hStop : stop.On text) : (leaf label shown margin start stop).On text :=
  .mk hStart hStop (List.forall_mem_nil _)

theorem on_absent {t : Nat} {shown : Bool} {place : Place} (h : place.On text) :
    (absent t shown place).On text :=
  .mk h h (List.forall_mem_nil _)

/-- A tree of others starts with the first and stops with the last of them. -/
theorem on_node (label : Label) (shown : Bool) {here : Place} {trees : List Subtree}
    (hHere : here.On text) (h : ∀ t ∈ trees, t.On text) :
    (node label shown here trees).On text := by
  refine .mk ?_ ?_ h
  · cases trees with
    | nil => exact hHere
    | cons t trees => exact (h t List.mem_cons_self).start
  · show ((trees.getLast?.map fun t => t.trunk.stop).getD here).On text
    cases hLast : trees.getLast? with
    | none => exact hHere
    | some t => exact (h t (List.mem_of_getLast? hLast)).stop

theorem on_splitExtras {trees : List Subtree} (h : ∀ t ∈ trees, t.On text) :
    (∀ t ∈ (splitExtras trees).1, t.On text) ∧ ∀ t ∈ (splitExtras trees).2, t.On text := by
  refine ⟨fun t ht => h t (List.mem_of_mem_take ht), fun t ht => h t ?_⟩
  rw [splitExtras] at ht
  exact List.mem_reverse.mp (List.takeWhile_subset _ (List.mem_reverse.mp ht))

theorem on_named (names : List (Option String)) {trees : List Subtree}
    (h : ∀ t ∈ trees, t.On text) :
    ∀ t ∈ named names trees, t.On text := by
  induction names, trees using named.induct with
  | case1 name names t trees hExtra ih =>
    obtain ⟨hFirst, hRest⟩ := List.forall_mem_cons.mp h
    rw [named.eq_def]
    simp only [hExtra, if_true]
    exact List.forall_mem_cons.mpr ⟨hFirst, ih hRest⟩
  | case2 names t trees hExtra n ih =>
    obtain ⟨hFirst, hRest⟩ := List.forall_mem_cons.mp h
    rw [named, if_neg hExtra]
    exact List.forall_mem_cons.mpr ⟨hFirst.withTrunk rfl rfl, ih hRest⟩
  | case3 names t trees hExtra ih =>
    obtain ⟨hFirst, hRest⟩ := List.forall_mem_cons.mp h
    rw [named, if_neg hExtra]
    exact List.forall_mem_cons.mpr ⟨hFirst, ih hRest⟩
  | case4 names trees hNone =>
    rw [named]
    · exact h
    · exact hNone

end Subtree

/-! ### The stack -/

def Link.On (text : List Char) (k : Link) : Prop := ∀ t, k.tree = some t → t.On text

structure StackNode.On (text : List Char) (n : StackNode) : Prop where
  place : n.place.On text
  links : ∀ k ∈ n.links, k.On text

def Version.On (text : List Char) (v : Version) : Prop :=
  ∀ look, v.standing = .paused look → look.tree.On text

/-- All that a reader holds stands on the text. -/
structure Reader.On (text : List Char) (r : Reader) : Prop where
  nodes : ∀ n ∈ r.nodes, n.On text
  versions : ∀ v ∈ r.versions, v.On text
  finished : ∀ t, r.finished = some t → t.On text

theorem Version.on_of_active {v : Version} (h : v.standing = .active) : v.On text := by
  intro look hLook
  rw [h] at hLook
  cases hLook

theorem StackNode.on_default : StackNode.On text default :=
  ⟨Place.on_default, fun _ hk => nomatch hk⟩

theorem Version.on_default : Version.On text default := Version.on_of_active rfl

theorem mem_of_mem_modify {α : Type} {xs : Array α} {i : Nat} {f : α → α} {x : α}
    (h : x ∈ xs.modify i f) : x ∈ xs ∨ ∃ y ∈ xs, x = f y := by
  obtain ⟨j, hj, rfl⟩ := Array.mem_iff_getElem.mp h
  have hBound : j < xs.size := by rwa [Array.size_modify] at hj
  have hMem : xs[j] ∈ xs := Array.getElem_mem hBound
  rw [Array.getElem_modify]
  split
  · exact .inr ⟨_, hMem, rfl⟩
  · exact .inl hMem

namespace Reader

variable {r : Reader}

theorem on_start : (start (Place.ofText text)).On text where
  nodes := by
    intro n hn
    obtain rfl := Array.mem_singleton.mp hn
    exact ⟨Place.on_ofText, fun _ hk => nomatch hk⟩
  versions := by
    intro v hv
    obtain rfl := Array.mem_singleton.mp hv
    exact Version.on_of_active rfl
  finished := nofun

/-- A node that is not there is taken to stand at the beginning. -/
theorem On.node (h : r.On text) (i : Nat) : (r.node i).On text := by
  rw [Reader.node, Array.getD_eq_getD_getElem?]
  cases hNode : r.nodes[i]? with
  | none => exact StackNode.on_default
  | some n => exact h.nodes n (Array.mem_of_getElem? hNode)

theorem On.version (h : r.On text) (v : Nat) : (r.version v).On text := by
  rw [Reader.version, Array.getD_eq_getD_getElem?]
  cases hVersion : r.versions[v]? with
  | none => exact Version.on_default
  | some k => exact h.versions k (Array.mem_of_getElem? hVersion)

theorem On.top (h : r.On text) (v : Nat) : (r.top v).On text := h.node _

theorem On.ite {s : Reader} {c : Prop} [Decidable c] (hr : r.On text) (hs : s.On text) :
    (if c then r else s).On text := by
  split
  · exact hr
  · exact hs

theorem On.modify (h : r.On text) {v : Nat} {f : Version → Version}
    (hf : ∀ k, k.On text → (f k).On text) : (r.modify v f).On text where
  nodes := h.nodes
  versions := by
    intro k hk
    rcases mem_of_mem_modify hk with hk | ⟨k', hk', rfl⟩
    · exact h.versions k hk
    · exact hf k' (h.versions k' hk')
  finished := h.finished

theorem On.withVersions (h : r.On text) {versions : Array Version}
    (hSub : ∀ k ∈ versions, k ∈ r.versions) :
    Reader.On text { r with versions := versions } where
  nodes := h.nodes
  versions := fun k hk => h.versions k (hSub k hk)
  finished := h.finished

theorem On.remove (h : r.On text) (v : Nat) : (r.remove v).On text := by
  refine h.withVersions fun k hk => ?_
  rw [Array.eraseIdxIfInBounds] at hk
  split at hk
  · exact Array.mem_of_mem_eraseIdx hk
  · exact hk

theorem On.halt (h : r.On text) (v : Nat) : (r.halt v).On text := by
  refine h.modify fun k _ look hLook => ?_
  cases hLook

theorem On.add (h : r.On text) {k : Version} (hk : k.On text) : (r.add k).On text where
  nodes := h.nodes
  versions := by
    intro k' hk'
    rcases Array.mem_push.mp hk' with hk' | rfl
    · exact h.versions k' hk'
    · exact hk
  finished := h.finished

theorem On.addNode (h : r.On text) {n : StackNode} (hn : n.On text) :
    Reader.On text { r with nodes := r.nodes.push n } where
  nodes := by
    intro n' hn'
    rcases Array.mem_push.mp hn' with hn' | rfl
    · exact h.nodes n' hn'
    · exact hn
  versions := h.versions
  finished := h.finished

theorem On.push (h : r.On text) (v : Nat) {t : Subtree} (ht : t.On text) (state : Nat) :
    (r.push v (some t) state).On text := by
  let below := (r.version v).top
  let n := r.node below
  have hNode : StackNode.On text ⟨state, [⟨below, some t⟩], t.trunk.stop, n.cost + t.cost,
      n.weight + t.weight, n.progress + t.progress⟩ := by
    refine ⟨ht.stop, fun k hk t' ht' => ?_⟩
    obtain rfl := List.mem_singleton.mp hk
    exact Option.some.inj ht' ▸ ht
  exact (h.addNode hNode).modify fun k hk => hk

/-- A gap leaves the version where it was. -/
theorem On.pushGap (h : r.On text) (v state : Nat) : (r.push v none state).On text := by
  let below := (r.version v).top
  let n := r.node below
  have hNode :
      StackNode.On text ⟨state, [⟨below, none⟩], n.place, n.cost, n.weight, n.progress⟩ := by
    refine ⟨(h.node below).place, fun k hk t ht => ?_⟩
    obtain rfl := List.mem_singleton.mp hk
    cases ht
  exact (h.addNode hNode).modify fun k hk => hk

theorem On.modifyNode (h : r.On text) {i : Nat} {f : StackNode → StackNode}
    (hf : ∀ n, n.On text → (f n).On text) :
    Reader.On text { r with nodes := r.nodes.modify i f } where
  nodes := by
    intro n hn
    rcases mem_of_mem_modify hn with hn | ⟨n', hn', rfl⟩
    · exact h.nodes n hn
    · exact hf n' (h.nodes n' hn')
  versions := h.versions
  finished := h.finished

theorem On.link (fuel : Nat) {r : Reader} (h : r.On text) (target : Nat) {l : Link}
    (hl : l.On text) :
    (link fuel r target l).On text := by
  induction fuel generalizing r target l with
  | zero => exact h
  | succ fuel ih =>
    rw [Reader.link]
    split
    · exact h
    · dsimp only
      split
      · split
        · -- the link takes the place of a lighter one like it
          refine On.ite ?_ h
          refine h.modifyNode fun n hn => ⟨hn.place, fun k hk => ?_⟩
          rcases List.mem_or_eq_of_mem_set hk with hk | rfl
          · exact hn.links k hk
          · exact hl
        · -- what lies below both becomes one
          refine On.modifyNode ?_ fun n hn => ⟨hn.place, hn.links⟩
          exact List.foldlRecOn _ _ h fun r hr m hm => ih hr _ ((h.node _).links m hm)
      · split
        · exact h
        · refine h.modifyNode fun n hn => ⟨hn.place, fun k hk => ?_⟩
          rcases List.mem_append.mp hk with hk | hk
          · exact hn.links k hk
          · obtain rfl := List.mem_singleton.mp hk
            exact hl

theorem On.merge? (h : r.On text) {v w : Nat} {merged : Reader}
    (hMerged : r.merge? v w = some merged) :
    merged.On text := by
  rw [Reader.merge?] at hMerged
  split at hMerged
  · obtain rfl := Option.some.inj hMerged
    have hLinked : Reader.On text ((r.top w).links.foldl
        (fun s l => Reader.link (s.nodes.size + 1) s (r.version v).top l) r) :=
      List.foldlRecOn _ _ h fun s hs l hl => hs.link _ _ ((h.top w).links l hl)
    refine On.remove ?_ w
    split
    · exact hLinked.modify fun k hk => hk
    · exact hLinked
  · cases hMerged

theorem On.replace (h : r.On text) (v w : Nat) : (r.replace v w).On text := by
  rw [Reader.replace]
  split
  · exact h
  · refine (h.modify fun _ _ => ?_).remove v
    split
    · exact h.version v
    · exact h.version v

/-! ### Ways down -/

/-- All trees that have been met on the way. -/
def Descent.On (text : List Char) (d : Descent) : Prop := ∀ t ∈ d.trees, t.On text

theorem Descent.On.follow {d : Descent} (h : d.On text) {l : Link} (hl : l.On text) :
    (d.follow l).On text := by
  rw [Descent.follow]
  split
  next t ht => exact List.forall_mem_cons.mpr ⟨hl t ht, h⟩
  next => exact h

theorem On.descend (h : r.On text) (judge : Descent → Verdict) (fuel : Nat) {ways : List Descent}
    (hWays : ∀ d ∈ ways, d.On text) : ∀ d ∈ r.descend judge fuel ways, d.On text := by
  induction fuel generalizing ways with
  | zero =>
    intro d hd
    rw [Reader.descend] at hd
    cases hd
  | succ fuel ih =>
    -- what a way is followed by stands on the text as well
    have hFollow (part : List Link → List Link) (hPart : ∀ ls, part ls ⊆ ls) :
        ∀ d ∈ (ways.filter fun d => (judge d).onward).flatMap
          fun d => (part (r.node d.node).links).map d.follow, d.On text := by
      intro d hd
      obtain ⟨d', hd', hd⟩ := List.mem_flatMap.mp hd
      obtain ⟨l, hl, rfl⟩ := List.mem_map.mp hd
      exact (hWays d' (List.mem_filter.mp hd').1).follow ((h.node _).links l (hPart _ hl))
    intro d hd
    cases ways with
    | nil =>
      rw [Reader.descend] at hd
      · cases hd
      · simp
    | cons way ways =>
      rw [Reader.descend] at hd
      · rcases List.mem_append.mp hd with hd | hd
        · exact hWays d (List.mem_filter.mp hd).1
        · refine ih (fun d hd => ?_) d hd
          rcases List.mem_append.mp (List.mem_of_mem_take hd) with hd | hd
          · exact hFollow (List.take 1) (fun ls => List.take_subset 1 ls) d hd
          · exact hFollow (List.drop 1) (fun ls => List.drop_subset 1 ls) d hd
      · simp

theorem On.descents (h : r.On text) (v : Nat) (judge : Descent → Verdict) :
    ∀ d ∈ r.descents v judge, d.On text := by
  refine h.descend judge _ fun d hd => ?_
  obtain rfl := List.mem_singleton.mp hd
  exact List.forall_mem_nil _

theorem On.popped (h : r.On text) (v depth : Nat) :
    ∀ g ∈ r.popped v depth, ∀ trees ∈ g.2, ∀ t ∈ trees, t.On text := by
  rw [Reader.popped]
  refine List.foldlRecOn (motive := fun groups : List (Nat × List (List Subtree)) =>
    ∀ g ∈ groups, ∀ trees ∈ g.2, ∀ t ∈ trees, t.On text) _ _ ?_ ?_
  · exact List.forall_mem_nil _
  · intro groups hGroups d hd
    have hTrees : d.On text := h.descents v _ d hd
    split
    · intro g hg trees hMem
      obtain ⟨g', hg', rfl⟩ := List.mem_map.mp hg
      split at hMem
      · rcases List.mem_append.mp hMem with hMem | hMem
        · exact hGroups g' hg' trees hMem
        · obtain rfl := List.mem_singleton.mp hMem
          exact hTrees
      · exact hGroups g' hg' trees hMem
    · intro g hg trees hMem
      rcases List.mem_append.mp hg with hg | hg
      · exact hGroups g hg trees hMem
      · obtain rfl := List.mem_singleton.mp hg
        obtain rfl := List.mem_singleton.mp hMem
        exact hTrees

end Reader

end BuildScan.Parsing
