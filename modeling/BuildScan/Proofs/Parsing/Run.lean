import BuildScan.Parsing.Run
import BuildScan.Proofs.Parsing.Stack

/-!
# What a reader makes of a text stands on it

A scanner that finds terminals on the text is all that a reader asks for (`Language.ScansOn`).  Then
each thing that a reader does keeps what it holds on the text: reductions and the end of a reading,
the ways out of a fault, the turns of the versions, and giving some of them up.  So a tree of the
whole text stands on it, whatever faults it has: `Language.on_of_parse?`.
-/

namespace BuildScan.Parsing

variable {text : List Char} {l : Language}

/-! ### Terminals -/

/-- What is found, or where looking for it went, is on the text. -/
def Found.On (text : List Char) : Found → Prop
  | .terminal _ _ start stop => start.On text ∧ stop.On text
  | .nothing start stop => start.On text ∧ stop.On text

/-- Looking for terminals on the text, the scanner stays there. -/
def Language.ScansOn (l : Language) (text : List Char) : Prop :=
  ∀ sought p, p.On text → (l.scan sought p).On text

theorem Place.On.ite {p q : Place} {c : Prop} [Decidable c] (hp : p.On text) (hq : q.On text) :
    (if c then p else q).On text := by
  split
  · exact hp
  · exact hq

namespace Language

theorem on_leaf (t : Nat) (margin : Place) {start stop : Place} (hStart : start.On text)
    (hStop : stop.On text) : (l.leaf t margin start stop).On text :=
  (Subtree.on_leaf hStart hStop).withTrunk rfl rfl

theorem ScansOn.strayEnd (hl : l.ScansOn text) (fuel : Nat) {stop : Place} (h : stop.On text) :
    (l.strayEnd fuel stop).On text := by
  induction fuel generalizing stop with
  | zero => exact h
  | succ fuel ih =>
    have hFound := hl (l.automaton.sought.getD lost .empty) stop h
    rw [Language.strayEnd]
    split
    · exact h
    next start further hScan =>
      rw [hScan] at hFound
      exact .ite (.ite h (ih (Place.advance_on h 1))) (ih hFound.2)

/-- The terminal that a reader goes on with stands on the text, or the stray text in its place
does. -/
theorem ScansOn.lookahead (hl : l.ScansOn text) (state : Nat) {place : Place} (h : place.On text) :
    (l.lookahead state place).tree.On text := by
  have hFirst := hl (l.automaton.sought.getD state .empty) place h
  have hSecond := hl (l.automaton.sought.getD lost .empty) place h
  have hStray {start stop : Place} (hStart : start.On text) (hStop : stop.On text) :
      (Subtree.leaf .error true place start (l.strayEnd (place.rest.length + 1)
        (if stop.offset = start.offset then start.advance 1 else stop))).On text :=
    Subtree.on_leaf hStart (hl.strayEnd _ (.ite (Place.advance_on hStart 1) hStop))
  rw [Language.lookahead]
  cases hFound : l.scan (l.automaton.sought.getD state .empty) place with
  | terminal t word start stop =>
    rw [hFound] at hFirst
    exact on_leaf _ _ hFirst.1 hFirst.2
  | nothing start stop =>
    dsimp only
    cases hAgain : l.scan (l.automaton.sought.getD lost .empty) place with
    | terminal t word start stop =>
      rw [hAgain] at hSecond
      exact on_leaf _ _ hSecond.1 hSecond.2
    | nothing start stop =>
      rw [hAgain] at hSecond
      exact hStray hSecond.1 hSecond.2

end Language

namespace Reader

variable {r : Reader}

/-! ### Reductions -/

theorem on_reduced (k : Reduction) {here : Place} (hHere : here.On text) {trees : List Subtree}
    (h : ∀ t ∈ trees, t.On text) : (reduced l k here trees).On text := by
  have hNode := Subtree.on_node (.part k.part) (l.isShown (.part k.part)) hHere
    (Subtree.on_named k.names h)
  exact hNode.withTrunk (f := fun t => { t with weight := t.weight + k.weight }) rfl rfl

theorem On.joinEarlier (h : r.On text) (v except : Nat) : (r.joinEarlier v except).On text := by
  rw [Reader.joinEarlier]
  cases hJoined : (List.range v).findSome? fun w => if w = except then none else r.merge? w v with
  | none => exact h
  | some s =>
    obtain ⟨w, -, hMerged⟩ := List.exists_of_findSome?_eq_some hJoined
    split at hMerged
    · cases hMerged
    · exact h.merge? hMerged

/-- Trees that are put on a version one after the other. -/
theorem On.pushAll (h : r.On text) (v state : Nat) {trees : List Subtree}
    (hTrees : ∀ t ∈ trees, t.On text) :
    (trees.foldl (fun r t => r.push v (some t) state) r).On text :=
  List.foldlRecOn _ _ h fun _ hs t ht => hs.push v (hTrees t ht) state

theorem On.reduce (h : r.On text) (v : Nat) (k : Reduction) : (reduce l r v k).1.On text := by
  refine List.foldlRecOn _ _ h fun s hs group hGroup => ?_
  have hTrees := h.popped v k.count group hGroup
  dsimp only
  refine .ite hs ?_
  -- each way down gives a tree of the part, and what stands behind it
  have hRead : ∀ p ∈ group.2.map fun trees =>
      let parted := Subtree.splitExtras trees
      (reduced l k (s.node group.1).place parted.1, parted.2),
      p.1.On text ∧ ∀ t ∈ p.2, t.On text := by
    intro p hp
    obtain ⟨trees, hMem, rfl⟩ := List.mem_map.mp hp
    have hParted := Subtree.on_splitExtras (hTrees trees hMem)
    exact ⟨on_reduced k (hs.node _).place hParted.1, hParted.2⟩
  split
  · exact hs
  next one others hOnes =>
    rw [hOnes] at hRead
    obtain ⟨hOne, hOthers⟩ := List.forall_mem_cons.mp hRead
    have hBest : (fun p : Subtree × List Subtree => p.1.On text ∧ ∀ t ∈ p.2, t.On text)
        (others.foldl (fun (best : Subtree × List Subtree) other =>
          if best.1.improves other.1 then other else best) one) := by
      refine List.foldlRecOn
        (motive := fun p : Subtree × List Subtree => p.1.On text ∧ ∀ t ∈ p.2, t.On text) _ _ hOne ?_
      intro best hBest other hOther
      split
      · exact hOthers other hOther
      · exact hBest
    refine On.joinEarlier (On.pushAll (hs.add ?_) _ _ ?_) _ _
    · exact Version.on_of_active rfl
    · exact List.forall_mem_cons.mpr hBest

theorem On.withFinished (h : r.On text) {better : Prop} [Decidable better] {root : Subtree}
    (hRoot : root.On text) (accepted : Nat) :
    Reader.On text
      { r with finished := if better then some root else r.finished, accepted := accepted } where
  nodes := h.nodes
  versions := h.versions
  finished := by
    intro t ht
    by_cases hBetter : better
    · rw [if_pos hBetter] at ht
      exact Option.some.inj ht ▸ hRoot
    · rw [if_neg hBetter] at ht
      exact h.finished t ht

theorem On.accept (h : r.On text) (v : Nat) {finish : Subtree} (hFinish : finish.On text) :
    (accept l r v finish).On text := by
  have hPushed := h.push v hFinish 1
  refine On.halt (List.foldlRecOn _ _ hPushed ?_) v
  intro s hs root hRoot
  obtain ⟨d, hd, hParted⟩ := List.mem_filterMap.mp hRoot
  have hRootOn : root.On text := by
    have hTrees := Subtree.on_splitExtras (hPushed.descents v _ d hd)
    dsimp only at hParted
    split at hParted
    next t hLast =>
      obtain rfl := Option.some.inj hParted
      have hWhole := hTrees.1 t (List.mem_of_getLast? hLast)
      refine Subtree.on_node _ _ hWhole.start fun c hc => ?_
      rcases List.mem_append.mp hc with hc | hc
      · rcases List.mem_append.mp hc with hc | hc
        · exact hTrees.1 c ((List.dropLast_subset _ hc))
        · exact hWhole.child hc
      · exact hTrees.2 c hc
    next => cases hParted
  exact hs.withFinished hRootOn _

/-! ### Ways out of a fault -/

theorem On.fst_ite {α : Type} {a b : Reader × α} {c : Prop} [Decidable c] (ha : a.1.On text)
    (hb : b.1.On text) : (if c then a else b).1.On text := by
  split
  · exact ha
  · exact hb

theorem On.settle (h : r.On text) (v : Nat) : (r.settle v).On text := h.modify fun _ hk => hk

theorem On.settleAll (h : r.On text) : r.settleAll.On text :=
  List.foldlRecOn _ _ h fun _ hs v _ => hs.settle v

theorem On.surpassedBy (h : r.On text) (v : Nat) (s : Standpoint) (ws : List Nat) :
    (surpassedBy v s ws r).1.On text := by
  induction ws generalizing r with
  | nil => exact h
  | cons w ws ih =>
    rw [Reader.surpassedBy]
    split
    · exact ih h
    · have hSettled := h.settle w
      dsimp only
      split
      · exact hSettled
      · split
        · exact hSettled
        · exact ih hSettled
      · exact ih hSettled

theorem On.surpassed (h : r.On text) (v cost : Nat) : (r.surpassed v cost).1.On text := by
  rw [Reader.surpassed]
  split
  · exact h
  · exact (h.settle v).surpassedBy _ _ _

theorem On.reduceAll (h : r.On text) (v : Nat) (terminals : List Nat) (mustRead : Bool)
    (fuel base w round : Nat) (can : Bool) :
    (reduceAll l v terminals mustRead fuel base w round can r).1.On text := by
  induction fuel generalizing r w round can with
  | zero => exact h
  | succ fuel ih =>
    rw [Reader.reduceAll]
    split
    · exact h
    · dsimp only
      split
      next joined hJoined =>
        obtain ⟨u, -, hMerged⟩ := List.exists_of_findSome?_eq_some hJoined
        split at hMerged
        · cases hMerged
        · exact ih (h.merge? hMerged) _ _ _
      next =>
        have hReduced : ((options l (r.state w) terminals).2.foldl
            (fun (done : Reader × Option Nat) k => Reader.reduce l done.1 w k) (r, none)).1.On
              text :=
          List.foldlRecOn (motive := fun done : Reader × Option Nat => done.1.On text) _ _ h
            fun done hDone k _ => hDone.reduce w k
        split
        · exact ih hReduced _ _ _
        · split
          · split
            · exact ih (hReduced.replace _ _) _ _ _
            · exact ih (.ite (hReduced.remove w) hReduced) _ _ _
          · exact ih (.ite (hReduced.remove w) hReduced) _ _ _

theorem On.reduceFreely (h : r.On text) (v : Nat) : (reduceFreely l r v).1.On text :=
  h.reduceAll _ _ _ _ _ _ _ _

theorem On.reduceFor (h : r.On text) (v t : Nat) : (reduceFor l r v t).1.On text := by
  rw [Reader.reduceFor]
  split
  · exact h.reduceFreely v
  · exact h.reduceAll _ _ _ _ _ _ _ _

/-- A terminal that is put in stands at the place where the version is, and takes none of the
text. -/
theorem On.putIn (h : r.On text) (v next : Nat) (ts : List Nat) :
    (putIn l v next ts r).1.On text := by
  induction ts generalizing r with
  | nil => exact h
  | cons t ts ih =>
    rw [Reader.putIn]
    dsimp only
    split
    · exact ih h
    · split
      · have hAdded : (r.add { r.version v with earlier := [] }).On text :=
          h.add (h.version v)
        have hAbsent : (Subtree.absent t (l.isShown (.token t)) (r.top v).place).On text :=
          Subtree.on_absent (h.top v).place
        have hPut := hAdded.push r.count hAbsent (l.afterToken (r.state v) t)
        split
        · exact hPut.reduceFor _ _
        · exact ih (hPut.reduceFor _ _)
      · exact ih h

theorem On.returnTo (h : r.On text) (v depth goal : Nat) : (r.returnTo v depth goal).1.On text := by
  refine List.foldlRecOn (motive := fun done : Reader × Bool => done.1.On text) _ _ h ?_
  intro done hDone group hGroup
  have hGroupTrees := h.popped v depth group hGroup
  dsimp only
  split
  · exact hDone
  next trees others hTrees =>
    rw [hTrees] at hGroupTrees
    split
    · exact hDone
    · -- what was passed over before is passed over again, with all that came behind it
      have hError : ∀ t ∈ ((((done.1.node group.1).links.find? fun k =>
          k.tree.any Subtree.isError).bind Link.tree).map Subtree.children).getD [], t.On text := by
        intro t ht
        cases hFind : ((done.1.node group.1).links.find? fun k => k.tree.any Subtree.isError).bind
            Link.tree with
        | none =>
          rw [hFind] at ht
          cases ht
        | some error =>
          rw [hFind] at ht
          obtain ⟨k, hk, hTree⟩ := Option.bind_eq_some_iff.mp hFind
          exact ((hDone.node _).links k (List.mem_of_find?_eq_some hk) error hTree).child ht
      have hAll := Subtree.on_splitExtras (List.forall_mem_append.mpr
        ⟨hError, hGroupTrees trees List.mem_cons_self⟩)
      refine On.pushAll (hDone.add (Version.on_of_active rfl)) _ _ ?_
      refine List.forall_mem_append.mpr ⟨?_, hAll.2⟩
      split
      · exact List.forall_mem_nil _
      · intro t ht
        obtain rfl := List.mem_singleton.mp ht
        exact (Subtree.on_node _ _ (hDone.node _).place hAll.1).asExtra

theorem On.tryEarlier (h : r.On text) (v : Nat) (look : Lookahead) (versions : Nat)
    (es : List Earlier) : (tryEarlier l v look versions es r).1.On text := by
  induction es generalizing r with
  | nil => exact h
  | cons e es ih =>
    rw [Reader.tryEarlier]
    dsimp only
    split
    · exact ih h
    · generalize r.cost v + Cost.tree * e.depth +
        Cost.text ((r.top v).place.offset - e.place.offset)
        ((r.top v).place.line - e.place.line) = cost
      generalize (e.depth + if 0 < r.progress v then 1 else 0) = depth
      have hJudged := h.surpassed v cost
      have hWent := hJudged.returnTo v depth e.state
      split
      · exact hJudged
      · split
        · exact .fst_ite hWent (ih hWent)
        · exact ih hJudged

theorem On.skip (h : r.On text) (v : Nat) {look : Subtree} (hLook : look.On text) :
    (r.skip v look).On text := by
  have hPass {trees : List Subtree} (hTrees : ∀ t ∈ trees, t.On text) :
      (Subtree.node .skipped false (r.top v).place trees).On text :=
    Subtree.on_node _ _ (h.top v).place hTrees
  have hLast : ∀ t ∈ [look], t.On text := by
    intro t ht
    obtain rfl := List.mem_singleton.mp ht
    exact hLook
  rw [Reader.skip]
  dsimp only
  split
  · split
    next below trees others groups hPopped =>
      have hTrees := h.popped v 1 (below, trees :: others)
        (hPopped ▸ List.mem_cons_self) trees List.mem_cons_self
      refine (h.modify (f := fun k => { k with top := below }) fun k hk => hk).push _ (hPass ?_) _
      refine List.forall_mem_append.mpr ⟨hTrees, fun t ht => ?_⟩
      obtain rfl := List.mem_singleton.mp ht
      exact hPass hLast
    next => exact h.push _ (hPass hLast) _
  · exact h.push _ (hPass hLast) _

theorem On.dropInactive (h : r.On text) (first : Nat) : (r.dropInactive first).On text := by
  refine h.withVersions fun k hk => ?_
  rw [List.mem_toArray] at hk
  rcases List.mem_append.mp hk with hk | hk
  · exact Array.mem_toList_iff.mp (List.mem_of_mem_take hk)
  · exact Array.mem_toList_iff.mp (List.mem_of_mem_drop (List.mem_filter.mp hk).1)

theorem On.recover (h : r.On text) (v : Nat) {look : Lookahead} (hLook : look.tree.On text) :
    (recover l r v look).On text := by
  rw [Reader.recover]
  dsimp only
  generalize (if look.tree.isError then [] else ((r.settle v).version v).earlier) = earlier
  generalize hDropped : (Reader.tryEarlier l v look r.count earlier (r.settle v)).1.dropInactive
    r.count = tried
  have hTried : tried.On text :=
    hDropped ▸ ((h.settle v).tryEarlier v look r.count earlier).dropInactive r.count
  split
  · have hNothing : (Subtree.node .error true (tried.top v).place []).On text :=
      Subtree.on_node _ _ (hTried.top v).place (List.forall_mem_nil _)
    exact (hTried.push v hNothing 1).accept v hLook
  · split
    · exact hTried.halt v
    · split
      · exact (hTried.surpassed _ _).halt v
      · exact (hTried.surpassed _ _).skip v hLook

theorem On.lose (next : Nat) {done : Reader × Bool} (h : done.1.On text) (w : Nat) :
    (lose l next done w).1.On text := by
  have hTried : (if done.2 then done
      else Reader.putIn l w next (List.range l.lexicon.finish) done.1).1.On text :=
    .fst_ite h (h.putIn _ _ _)
  exact hTried.pushGap w Language.lost

theorem On.loseWay (h : r.On text) (v : Nat) {look : Lookahead} (hLook : look.tree.On text) :
    (loseWay l r v look).On text := by
  rw [Reader.loseWay]
  generalize hReduced : Reader.reduceFreely l r v = reduced
  have hFree : reduced.1.On text := hReduced ▸ h.reduceFreely v
  generalize (List.range reduced.1.count).drop r.count = fresh
  have hLost :
      ((v :: fresh).foldl (Reader.lose l (look.terminal l)) (reduced.1, false)).1.On text :=
    List.foldlRecOn (motive := fun done : Reader × Bool => done.1.On text) _ _ hFree
      fun done hDone w _ => hDone.lose _ w
  generalize (v :: fresh).foldl (Reader.lose l (look.terminal l)) (reduced.1, false) = lost at hLost
  have hMerged :
      (fresh.foldl (fun (s : Reader) _ => (s.merge? v r.count).getD s) lost.1).On text := by
    refine List.foldlRecOn _ _ hLost fun s hs _ _ => ?_
    cases hMerge : s.merge? v r.count with
    | none => exact hs
    | some merged => exact hs.merge? hMerge
  refine On.recover ?_ v hLook
  exact hMerged.modify fun k hk => hk

/-! ### Turns -/

theorem on_act {turn : Turn} (h : turn.reader.On text) (v : Nat) {look : Lookahead}
    (hLook : look.tree.On text) (a : Action) : (Turn.act l v look turn a).reader.On text := by
  rw [Turn.act.eq_def]
  split
  · exact h
  · split
    · split
      · exact h
      · exact h.push _ hLook _
    · exact h.reduce _ _
    · exact h.accept _ hLook

theorem On.pause (h : r.On text) (v : Nat) {look : Lookahead} (hLook : look.tree.On text) :
    (r.pause v look).On text := by
  refine h.modify fun k _ other hOther => ?_
  obtain rfl := Standing.paused.inj hOther
  exact hLook

theorem On.read (v fuel : Nat) {r : Reader} (h : r.On text) {look : Lookahead}
    (hLook : look.tree.On text) : (read l v fuel look r).On text := by
  induction fuel generalizing r look with
  | zero => exact h.halt v
  | succ fuel ih =>
    rw [Reader.read]
    dsimp only
    split
    · exact h.push _ hLook.asExtra _
    · split
      · exact h.recover v hLook
      · have hTurn : ((l.actionsOn (r.state v) (look.terminal l)).foldl (Turn.act l v look)
            ⟨r, false, false, none⟩).reader.On text :=
          List.foldlRecOn (motive := fun turn : Turn => turn.reader.On text) _ _ h
            fun turn hTurn a _ => on_act hTurn v hLook a
        split
        · exact hTurn
        · split
          · exact ih (hTurn.replace _ _) hLook
          · split
            · exact hTurn.halt v
            · split
              · exact ih hTurn (hLook.withTrunk rfl rfl)
              · exact hTurn.pause v hLook

variable (hl : l.ScansOn text)

include hl

theorem On.advance (h : r.On text) (v : Nat) : (advance l r v).On text :=
  On.read _ _ h (hl.lookahead _ (h.top v).place)

theorem On.advanceFar (h : r.On text) (v fuel farthest : Nat) :
    (advanceFar l v fuel farthest r).1.On text := by
  induction fuel generalizing r with
  | zero => exact h
  | succ fuel ih =>
    rw [Reader.advanceFar]
    dsimp only
    split
    · split
      · exact h.advance hl v
      · exact ih (h.advance hl v)
    · exact h

theorem On.round (h : r.On text) (steps fuel v farthest : Nat) :
    (round l steps fuel v farthest r).1.On text := by
  induction fuel generalizing r v farthest with
  | zero => exact h
  | succ fuel ih =>
    rw [Reader.round]
    split
    · exact ih (h.advanceFar hl v steps farthest) _ _
    · exact h

omit hl

theorem On.swap (h : r.On text) (v w : Nat) : (r.swap v w).On text :=
  (h.modify fun _ _ => h.version w).modify fun _ _ => h.version v

theorem On.sift (h : r.On text) (s : Standpoint) (v w : Nat) : (sift s v w r).1.On text := by
  induction v, w, r using sift.induct s with
  | case1 v w r hLess hCompare =>
    rw [Reader.sift, dif_pos hLess, hCompare]
    exact h.remove w
  | case2 v w r hLess hCompare ih =>
    rw [Reader.sift, dif_pos hLess, hCompare]
    exact ih (h.remove v)
  | case3 v w r hLess hCompare merged hMerge =>
    rw [Reader.sift, dif_pos hLess, hCompare, hMerge]
    exact h.merge? hMerge
  | case4 v w r hLess hCompare hMerge ih =>
    rw [Reader.sift, dif_pos hLess, hCompare, hMerge]
    exact ih (h.swap v w)
  | case5 v w r hLess merged hMerge hNotOnlyLeft hNotOnlyRight hNotRight =>
    rw [Reader.sift, dif_pos hLess, hMerge]
    split
    next hCompare => exact (hNotOnlyLeft hCompare).elim
    next hCompare => exact (hNotOnlyRight hCompare).elim
    next hCompare => exact (hNotRight hCompare).elim
    next => exact h.merge? hMerge
  | case6 v w r hLess hMerge hNotOnlyLeft hNotOnlyRight hNotRight ih =>
    rw [Reader.sift, dif_pos hLess, hMerge]
    split
    next hCompare => exact (hNotOnlyLeft hCompare).elim
    next hCompare => exact (hNotOnlyRight hCompare).elim
    next hCompare => exact (hNotRight hCompare).elim
    next => exact ih h
  | case7 v w r hNot =>
    rw [Reader.sift, dif_neg hNot]
    exact h

theorem On.siftAll (h : r.On text) (fuel w : Nat) (least : Option Nat) :
    (siftAll fuel w least r).1.On text := by
  induction fuel generalizing r w least with
  | zero => exact h
  | succ fuel ih =>
    rw [Reader.siftAll]
    split
    · exact h
    · split
      · exact ih (h.remove w) _ _
      · exact ih (h.sift _ _ _) _ _

theorem On.resume (h : r.On text) (fuel v : Nat) (another : Bool) (least : Option Nat) :
    (resume l fuel v another least r).1.On text := by
  induction fuel generalizing r v another least with
  | zero => exact h
  | succ fuel ih =>
    rw [Reader.resume]
    split
    next look hPaused =>
      split
      · have hLook := h.version v look hPaused
        refine ih (On.loseWay (h.modify fun k _ => Version.on_of_active rfl) v hLook) _ _ _
      · exact ih (h.remove v) _ _ _
    · exact ih h _ _ _

theorem On.condense (h : r.On text) : (condense l r).1.On text := by
  refine On.resume (On.withVersions (h.settleAll.siftAll _ _ _) fun k hk => ?_) _ _ _ _
  rw [Array.take_eq_extract] at hk
  obtain ⟨i, hi, rfl⟩ := Array.mem_extract_iff_getElem.mp hk
  exact Array.getElem_mem _

include hl

/-- **Whatever the rounds, all that a reader holds stays on the text.** -/
theorem On.run (h : r.On text) (steps fuel farthest : Nat) :
    (run l steps fuel farthest r).On text := by
  induction fuel generalizing r farthest with
  | zero => exact h
  | succ fuel ih =>
    have hRound := (h.round hl steps steps 0 farthest).condense (l := l)
    rw [Reader.run]
    split
    · exact hRound
    · exact ih hRound _

end Reader

/-- The tree of a text stands on it, and so does all below it. -/
theorem Language.on_of_parse? (hl : l.ScansOn text) {tree : Subtree}
    (h : l.parse? text = some tree) :
    tree.On text :=
  (Reader.on_start.run hl _ _ _).finished tree h

end BuildScan.Parsing
