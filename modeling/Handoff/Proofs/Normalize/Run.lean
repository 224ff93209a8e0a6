/-
Module: Handoff.Proofs.Normalize.Run
Purpose: What a run of the normalisation pass does. Visiting a forest never fails when the run is
  not cancelled, and it lays the nodes the forest shows out in preorder from the next id, each
  as describing it gives, linked to its parent and children, named in preorder, and reporting
  only warnings about them. The proof is one induction over the pass's own recursion: a visit of
  one node is its insertion, then its children's visit nested under it, then its flow marked.
Main exports: Visited, NodeVisited, visitChildren_spec, normalizeRoots_spec.
-/
import Handoff.Proofs.Normalize.Forest
import Handoff.Proofs.Normalize.Issues

namespace Handoff

/-! ### Forests one node at a time -/

theorem shown_cons (x : DesignNode) (rest : List DesignNode) :
    shown (x :: rest) = shown [x] ++ shown rest := by
  obtain ⟨a, cs⟩ := x
  by_cases hidden : (!a.isVisible) = true
  · simp [shown, hidden]
  · by_cases group : (a.kind == "GROUP") = true <;> simp [shown, hidden, group]

theorem shownRoots_cons (k : Nat) (x : DesignNode) (rest : List DesignNode) :
    shownRoots k (x :: rest) = shownRoots k [x] ++ shownRoots (k + (shown [x]).length) rest := by
  obtain ⟨a, cs⟩ := x
  by_cases hidden : (!a.isVisible) = true
  · simp [shownRoots, shown, hidden]
  · by_cases group : (a.kind == "GROUP") = true
    · simp [shownRoots, shown, hidden, group]
    · simp [shownRoots, shown, hidden, group, Nat.add_assoc, Nat.add_comm 1]

theorem laidOut_cons (t : AltTree) (parent : Option ParentContext) (absorbed : Float) (k : Nat)
    (x : DesignNode) (rest : List DesignNode) :
    LaidOut t parent absorbed k (x :: rest) ↔
      LaidOut t parent absorbed k [x] ∧ LaidOut t parent absorbed (k + (shown [x]).length) rest := by
  obtain ⟨a, cs⟩ := x
  by_cases hidden : (!a.isVisible) = true
  · simp [LaidOut, shown, hidden]
  · by_cases group : (a.kind == "GROUP") = true
    · simp [LaidOut, shown, hidden, group]
    · simp [LaidOut, shown, hidden, group, shown_visitedChildren, Nat.add_assoc, Nat.add_comm 1,
        and_assoc]

theorem laidOut_visitedChildren (t : AltTree) (parent : Option ParentContext) (k : Nat)
    (a : NodeAttrs) (cs : List DesignNode) :
    LaidOut t parent 0.0 k (visitedChildren a cs) ↔
      (holdsChildren a.kind = true → LaidOut t parent 0.0 k cs) := by
  unfold visitedChildren
  split <;> simp_all [LaidOut]

/-! ### Stretches that do nothing, nest, or retouch a node -/

namespace Extends

variable {parent : Option ParentContext} {s s₁ s₂ : NormState}

/-- Visiting nothing changes nothing. -/
theorem refl (parent : Option ParentContext) (s : NormState) :
    Extends parent [] [] (fun _ => True) s s where
  size_eq := rfl
  names_eq := rfl
  uniqueNames := rfl
  issues := ⟨[], by simp, by simp⟩
  laid := trivial
  frame _ _ _ := rfl
  parentLink _ _ := by simp
  roots_eq := by simp

theorem weaken {attrs : List NodeAttrs} {tops : List Nat} {laid laid' : AltTree → Prop}
    (h : Extends parent attrs tops laid s s₁) (imp : laid s₁.tree → laid' s₁.tree) :
    Extends parent attrs tops laid' s s₁ :=
  { h with laid := imp h.laid }

/-- A node inserted at the next id, followed by a stretch under it, is one stretch: the
second only appends to that node's children. -/
theorem nest {a : NodeAttrs} {attrs : List NodeAttrs} {tops : List Nat} {node : AltNode}
    {context : ParentContext} {laid : AltTree → Prop}
    (first : Extends parent [a] [s.tree.nodes.size]
      (fun t => t.get? s.tree.nodes.size = some node) s s₁)
    (kids : Extends (some context) attrs tops laid s₁ s₂)
    (atNode : context.id = s.tree.nodes.size)
    (below : ∀ p, parent = some p → p.id < s.tree.nodes.size) :
    Extends parent (a :: attrs) [s.tree.nodes.size]
      (fun t => t.get? s.tree.nodes.size = some { node with children := node.children ++ tops } ∧
        laid t) s s₂ := by
  have size₁ := first.size_eq
  have linked : s₂.tree.get? s.tree.nodes.size =
      some { node with children := node.children ++ tops } := by
    rw [← atNode, kids.parentLink context rfl, atNode, first.laid]
    rfl
  -- below the new node the second stretch changes nothing
  have kept : ∀ i, i < s.tree.nodes.size → s₂.tree.get? i = s₁.tree.get? i := fun i lt =>
    kids.frame i (by simp at size₁; omega) (by simp [atNode]; omega)
  refine { toGrows := first.trans kids.toGrows fun i lo hi => ?_,
           laid := ⟨linked, kids.laid⟩, frame := fun i lt notParent => ?_,
           parentLink := fun p atP => ?_, roots_eq := ?_ }
  · simp only [List.length_singleton] at hi
    rw [show i = s.tree.nodes.size by omega, linked, first.laid]
    rfl
  · rw [kept i lt, first.frame i lt notParent]
  · rw [kept p.id (below p atP), first.parentLink p atP]
  · rw [kids.roots_eq, first.roots_eq]
    simp

/-- Changing a node the stretch added, keeping its name, keeps the stretch. -/
theorem retouch {attrs : List NodeAttrs} {tops : List Nat} {laid laid' : AltTree → Prop}
    (h : Extends parent attrs tops laid s s₁) (k : Nat) (f : AltNode → AltNode)
    (new : s.tree.nodes.size ≤ k) (sameName : ∀ n, (f n).uniqueName = n.uniqueName)
    (below : ∀ p, parent = some p → p.id < s.tree.nodes.size)
    (retouched : laid' (s₁.tree.modify k f)) :
    Extends parent attrs tops laid' s { s₁ with tree := s₁.tree.modify k f } := by
  have untouched : ∀ i, i < s.tree.nodes.size → (s₁.tree.modify k f).get? i = s₁.tree.get? i :=
    fun i lt => by rw [AltTree.get?_modify, if_neg (by omega)]
  refine { size_eq := ?_, names_eq := h.names_eq, uniqueNames := ?_, issues := h.issues,
           laid := retouched, frame := fun i lt notParent => ?_, parentLink := fun p atP => ?_,
           roots_eq := h.roots_eq }
  · rw [AltTree.size_modify, h.size_eq]
  · rw [← h.uniqueNames]
    refine List.map_congr_left fun i _ => ?_
    rw [AltTree.get?_modify]
    split
    · rw [Option.map_map]
      exact Option.map_congr fun n _ => sameName n
    · rfl
  · rw [untouched i lt, h.frame i lt notParent]
  · rw [untouched p.id (below p atP), h.parentLink p atP]

end Extends

/-! ### Visits -/

/-- What visiting the forest `ns` under `parent` does to `s`: it lays the nodes the forest
shows out from the next id, and appends its top ones to the parent. -/
def Visited (parent : Option ParentContext) (absorbed : Float) (ns : List DesignNode)
    (s s' : NormState) : Prop :=
  Extends parent (shown ns) (shownRoots s.tree.nodes.size ns)
    (fun t => LaidOut t parent absorbed s.tree.nodes.size ns) s s'

/-- What visiting one node that is not a group does: it takes the next id and is placed there,
and the children it holds are laid out after it. -/
def NodeVisited (parent : Option ParentContext) (absorbed : Float) (a : NodeAttrs)
    (cs : List DesignNode) (s s' : NormState) : Prop :=
  let k := s.tree.nodes.size
  Extends parent (a :: shown (visitedChildren a cs)) [k]
    (fun t => (∃ u, t.get? k =
        some (placedNode t parent absorbed k a (shownRoots (k + 1) (visitedChildren a cs)) u)) ∧
      LaidOut t (some (contextOf a parent absorbed k)) 0.0 (k + 1) (visitedChildren a cs)) s s'

namespace Visited

variable {parent : Option ParentContext} {absorbed : Float} {s s₁ s₂ : NormState}

theorem nil (parent : Option ParentContext) (absorbed : Float) (s : NormState) :
    Visited parent absorbed [] s s := by
  have empty : Extends parent [] [] (fun t => LaidOut t parent absorbed s.tree.nodes.size []) s s :=
    (Extends.refl parent s).weaken fun _ => by simp [LaidOut]
  simpa [Visited, shown, shownRoots] using empty

theorem cons {x : DesignNode} {rest : List DesignNode}
    (head : Visited parent absorbed [x] s s₁) (tail : Visited parent absorbed rest s₁ s₂)
    (below : ∀ p, parent = some p → p.id < s.tree.nodes.size) :
    Visited parent absorbed (x :: rest) s s₂ := by
  have size₁ : s₁.tree.nodes.size = s.tree.nodes.size + (shown [x]).length := head.size_eq
  have both := head.seq tail (fun t t' same => LaidOut.congr _ _ _ _ same) below
  unfold Visited
  rw [shown_cons, shownRoots_cons, ← size₁]
  exact both.weaken fun laid => (laidOut_cons _ _ _ _ _ _).2 (size₁ ▸ laid)

theorem hidden {a : NodeAttrs} {cs rest : List DesignNode} (hidden : (!a.isVisible) = true)
    (tail : Visited parent absorbed rest s s') :
    Visited parent absorbed (.mk a cs :: rest) s s' := by
  simpa [Visited, shown, shownRoots, LaidOut, hidden] using tail

theorem group {a : NodeAttrs} {cs : List DesignNode} (visible : ¬(!a.isVisible) = true)
    (group : (a.kind == "GROUP") = true) (inner : Visited parent (absorbed + a.rotation) cs s s') :
    Visited parent absorbed [.mk a cs] s s' := by
  simpa [Visited, shown, shownRoots, LaidOut, visible, group] using inner

theorem node {a : NodeAttrs} {cs : List DesignNode} (visible : ¬(!a.isVisible) = true)
    (notGroup : ¬(a.kind == "GROUP") = true) (visit : NodeVisited parent absorbed a cs s s') :
    Visited parent absorbed [.mk a cs] s s' := by
  unfold NodeVisited at visit
  simp only [Visited, shown, shownRoots, LaidOut, visible, notGroup, if_false, Bool.false_eq_true,
    List.append_nil, ← shown_visitedChildren]
  exact visit.weaken fun laid =>
    ⟨laid.1, (laidOut_visitedChildren _ _ _ _ _).1 laid.2, trivial⟩

end Visited

/-! ### One node -/

theorem describeNode_uniqueName (a : NodeAttrs) (parent : Option ParentContext) (absorbed : Float)
    (k : Nat) (u : String) : (describeNode a parent absorbed k u).1.uniqueName = u := rfl

theorem describeNode_layout (a : NodeAttrs) (parent : Option ParentContext) (absorbed : Float)
    (k : Nat) (u : String) :
    (describeNode a parent absorbed k u).1.layout = (contextOf a parent absorbed k).layout := rfl

theorem contextOf_id (a : NodeAttrs) (parent : Option ParentContext) (absorbed : Float) (k : Nat) :
    (contextOf a parent absorbed k).id = k := rfl

/-- The state once a node has taken the next id and its name, been described under `parent`,
had what describing it found reported, and been inserted. -/
def enterNode (parent : Option ParentContext) (absorbed : Float) (a : NodeAttrs)
    (s : NormState) : NormState :=
  let described :=
    describeNode a parent absorbed s.tree.nodes.size (s.names.assign (nameBaseOf a)).1
  { tree := s.tree.insert described.1 (parent.map ParentContext.id)
    names := (s.names.assign (nameBaseOf a)).2
    diagnostics := s.diagnostics ++ described.2.2.toArray }

/-- A node's visit: it is entered, then the children it holds are visited under it, then its
flow is marked. -/
theorem visitNode_run (parent : Option ParentContext) (absorbed : Float) (a : NodeAttrs)
    (cs : List DesignNode) (s : NormState) :
    (visitNode false parent absorbed a cs).run s =
      ((if holdsChildren a.kind then
          visitChildren false (some (contextOf a parent absorbed s.tree.nodes.size)) 0.0 cs
        else pure ()) >>= fun () =>
        if (contextOf a parent absorbed s.tree.nodes.size).layout.isSome then
          markChildren s.tree.nodes.size
        else pure ()).run (enterNode parent absorbed a s) := by
  -- the pass tests the kind it mapped, which is what holding children reads
  by_cases holds : holdsChildren a.kind = true
  · simp only [holds, if_true]
    simp only [holdsChildren] at holds
    simp only [visitNode, checkCancel, report, AltTree.nextId, holds, if_true]
    rfl
  · simp only [holds]
    simp only [holdsChildren] at holds
    simp only [visitNode, checkCancel, report, AltTree.nextId, holds, Bool.false_eq_true, if_false]
    rfl

/-- Marking a node's flow reads how its children are placed and changes that node alone. -/
theorem markChildren_run (k : Nat) (s : NormState) :
    (markChildren k).run s = .ok ((), { s with tree := s.tree.modify k fun n =>
      { n with layout := n.layout.map fun l =>
        markAbsoluteChildren l ((s.tree.childrenOf k).map AltNode.positioning) } }) := rfl

/-- Entering a node is a stretch of one node, left at the next id with no children yet. -/
theorem enterNode_extends (parent : Option ParentContext) (absorbed : Float) (a : NodeAttrs)
    (s : NormState) (below : ∀ p, parent = some p → p.id < s.tree.nodes.size) :
    Extends parent [a] [s.tree.nodes.size]
      (fun t => t.get? s.tree.nodes.size = some
        { (describeNode a parent absorbed s.tree.nodes.size (s.names.assign (nameBaseOf a)).1).1 with
          id := s.tree.nodes.size, parent := parent.map ParentContext.id, children := [] })
      s (enterNode parent absorbed a s) := by
  have parentBelow : ∀ p, parent.map ParentContext.id = some p → p < s.tree.nodes.size := by
    intro p atP
    obtain ⟨q, atQ, rfl⟩ := Option.map_eq_some_iff.1 atP
    exact below q atQ
  have placed := AltTree.get?_insert s.tree
    (describeNode a parent absorbed s.tree.nodes.size (s.names.assign (nameBaseOf a)).1).1
    (parent.map ParentContext.id) parentBelow
  refine { size_eq := AltTree.size_insert _ _ _, names_eq := rfl, uniqueNames := ?_,
           issues := ?_, laid := ?_, frame := fun i lt notParent => ?_,
           parentLink := fun p atP => ?_, roots_eq := ?_ }
  · simp [enterNode, placed, describeNode_uniqueName, UniqueNames.assignAll]
  · refine ⟨_, Array.toList_append .., fun d mem => ?_⟩
    obtain ⟨warns, named⟩ := describeNode_about _ _ _ _ _ d (by simpa using mem)
    exact ⟨warns, _, named, Nat.le_refl _, by simp⟩
  · simp [enterNode, placed]
  · simp only [enterNode]
    rw [placed, if_neg (Nat.ne_of_lt lt), if_neg notParent]
  · simp only [enterNode]
    rw [placed, if_neg (Nat.ne_of_lt (below p atP)), if_pos (by rw [atP]; rfl)]
  · simp only [enterNode, AltTree.roots_insert]
    cases parent <;> simp

/-- Visiting a node that is not a group places it at the next id and lays out the children it
holds after it, provided visiting those children under it does. -/
theorem visitNode_spec (parent : Option ParentContext) (absorbed : Float) (a : NodeAttrs)
    (cs : List DesignNode)
    (kids : ∀ (context : ParentContext) (s : NormState), context.id < s.tree.nodes.size →
      ∃ s', (visitChildren false (some context) 0.0 cs).run s = .ok ((), s') ∧
        Visited (some context) 0.0 cs s s')
    (s : NormState) (below : ∀ p, parent = some p → p.id < s.tree.nodes.size) :
    ∃ s', (visitNode false parent absorbed a cs).run s = .ok ((), s') ∧
      NodeVisited parent absorbed a cs s s' := by
  set k := s.tree.nodes.size with atK
  set context := contextOf a parent absorbed k
  set tops := shownRoots (k + 1) (visitedChildren a cs)
  have entered := enterNode_extends parent absorbed a s below
  have size₁ : (enterNode parent absorbed a s).tree.nodes.size = k + 1 := entered.size_eq
  -- the children it holds are visited under it, nothing otherwise
  obtain ⟨s₂, visit₂, visited₂⟩ : ∃ s₂,
      (if holdsChildren a.kind then visitChildren false (some context) 0.0 cs else pure ()).run
        (enterNode parent absorbed a s) = .ok ((), s₂) ∧
      Visited (some context) 0.0 (visitedChildren a cs) (enterNode parent absorbed a s) s₂ := by
    unfold visitedChildren
    split
    · exact kids context _ (by rw [size₁]; exact Nat.lt_succ_self k)
    · exact ⟨_, rfl, Visited.nil _ _ _⟩
  have nested := entered.nest visited₂ (contextOf_id ..) below
  simp only [size₁, List.nil_append] at nested
  have above : ∀ c ∈ tops, k < c := fun c mem => (shownRoots_bounds _ _ c mem).1
  have run₂ : (visitNode false parent absorbed a cs).run s =
      (if context.layout.isSome then markChildren k else pure ()).run s₂ := by
    rw [visitNode_run, StateT.run_bind, visit₂]
    rfl
  simp only [← atK] at nested
  have linked := nested.laid.1
  -- then its flow is marked, which changes it alone
  by_cases flows : context.layout.isSome = true
  · refine ⟨_, by rw [run₂, if_pos flows, markChildren_run], ?_⟩
    unfold NodeVisited
    have same : ∀ (f : AltNode → AltNode), ∀ c ∈ tops, (s₂.tree.modify k f).get? c = s₂.tree.get? c :=
      fun f c mem => by rw [AltTree.get?_modify, if_neg (Nat.ne_of_lt (above c mem))]
    refine nested.retouch k _ (Nat.le_refl k) (fun _ => rfl) below
      ⟨⟨(s.names.assign (nameBaseOf a)).1, ?_⟩, ?_⟩
    · rw [placedNode_congr (same _), AltTree.get?_modify, if_pos rfl, linked]
      simp only [Option.map_some, AltTree.childrenOf, linked, placedNode]
      rfl
    · refine LaidOut.congr _ _ _ _ (fun i lo _ => ?_) nested.laid.2
      rw [AltTree.get?_modify, if_neg (by omega)]
  · refine ⟨s₂, by rw [run₂, if_neg flows]; rfl, ?_⟩
    unfold NodeVisited
    refine nested.weaken fun laid => ⟨⟨(s.names.assign (nameBaseOf a)).1, ?_⟩, laid.2⟩
    -- without a flow there is nothing to mark
    have noFlow : (describeNode a parent absorbed k (s.names.assign (nameBaseOf a)).1).1.layout =
        none := by
      rw [describeNode_layout]
      simpa using flows
    rw [linked]
    simp only [placedNode, ← atK, noFlow, Option.map_none]

/-! ### Forests -/

/-- Visiting a forest under a parent the tree holds never fails when the run is not cancelled,
and lays out what the forest shows. The induction follows the pass's own recursion: through
the forest, into a dissolved group's children, and into the children of a node. -/
theorem visitChildren_spec (parent : Option ParentContext) (absorbed : Float)
    (ns : List DesignNode) (s : NormState)
    (below : ∀ p, parent = some p → p.id < s.tree.nodes.size) :
    ∃ s', (visitChildren false parent absorbed ns).run s = .ok ((), s') ∧
      Visited parent absorbed ns s s' := by
  refine visitChildren.induct false
    (fun parent absorbed ns => ∀ s : NormState, (∀ p, parent = some p → p.id < s.tree.nodes.size) →
      ∃ s', (visitChildren false parent absorbed ns).run s = .ok ((), s') ∧
        Visited parent absorbed ns s s')
    (fun parent absorbed a cs => ∀ s : NormState,
      (∀ p, parent = some p → p.id < s.tree.nodes.size) →
      ∃ s', (visitNode false parent absorbed a cs).run s = .ok ((), s') ∧
        NodeVisited parent absorbed a cs s s')
    ?nil ?hidden ?group ?node ?visit parent absorbed ns s below
  case nil => exact fun parent absorbed s _ => ⟨s, by simp [visitChildren]; rfl, Visited.nil parent absorbed s⟩
  case hidden =>
    intro parent absorbed a cs rest hidden tail s below
    obtain ⟨s', run, visited⟩ := tail s below
    exact ⟨s', by simp [visitChildren, hidden, run], visited.hidden hidden⟩
  case group =>
    intro parent absorbed a cs rest visible group tail inner s below
    obtain ⟨s₁, run₁, visited₁⟩ := inner s below
    have grows : s.tree.nodes.size ≤ s₁.tree.nodes.size := by
      rw [visited₁.size_eq]; omega
    obtain ⟨s₂, run₂, visited₂⟩ := tail s₁ fun p atP => by have := below p atP; omega
    refine ⟨s₂, ?_, (Visited.group visible group visited₁).cons visited₂ below⟩
    simp only [visitChildren, visible, group, checkCancel, if_false, if_true, Bool.false_eq_true]
    simp [run₁]
    exact run₂
  case node =>
    intro parent absorbed a cs rest visible notGroup tail node s below
    obtain ⟨s₁, run₁, visited₁⟩ := node s below
    have grows : s.tree.nodes.size ≤ s₁.tree.nodes.size := by
      rw [visited₁.size_eq]; omega
    obtain ⟨s₂, run₂, visited₂⟩ := tail s₁ fun p atP => by have := below p atP; omega
    refine ⟨s₂, ?_, (Visited.node visible notGroup visited₁).cons visited₂ below⟩
    simp [visitChildren, visible, notGroup, run₁]
    exact run₂
  case visit =>
    intro parent absorbed a cs kids s below
    exact visitNode_spec parent absorbed a cs (fun context s inside => kids context s fun p atP => by
      cases atP; exact inside) s below

/-- The state a pass over a selection starts from. -/
def NormState.start : NormState := ⟨AltTree.empty, UniqueNames.empty, #[]⟩

theorem normalizeRoots_run (roots : List DesignNode) (cancelled : Bool) :
    normalizeRoots roots cancelled =
      match (visitChildren cancelled none 0.0 roots).run NormState.start with
      | .ok ((), s) => .ok (s.tree, s.diagnostics.toList)
      | .error e => .error e := rfl

/-- A pass over a selection that is not cancelled succeeds, and lays the selection out from id
zero with the top nodes it shows as roots. -/
theorem normalizeRoots_spec (roots : List DesignNode) :
    ∃ s, normalizeRoots roots false = .ok (s.tree, s.diagnostics.toList) ∧
      Visited none 0.0 roots NormState.start s := by
  obtain ⟨s, run, visited⟩ := visitChildren_spec none 0.0 roots NormState.start (by simp)
  exact ⟨s, by rw [normalizeRoots_run, run], visited⟩

/-- A cancelled visit stops at the first node it would show or dissolve, and changes nothing
when there is none. -/
theorem visitChildren_cancelled (parent : Option ParentContext) (absorbed : Float) :
    ∀ (ns : List DesignNode) (s : NormState), (visitChildren true parent absorbed ns).run s =
      if ns.any (·.attrs.isVisible) then .error .cancelled else .ok ((), s)
  | [], s => by simp [visitChildren]; rfl
  | .mk a cs :: rest, s => by
      by_cases hidden : (!a.isVisible) = true
      · simp only [Bool.not_eq_eq_eq_not, Bool.not_true] at hidden
        simp [visitChildren, hidden, DesignNode.attrs, visitChildren_cancelled parent absorbed rest]
      · simp only [Bool.not_eq_eq_eq_not, Bool.not_true] at hidden
        by_cases group : (a.kind == "GROUP") = true
        · simp [visitChildren, hidden, group, DesignNode.attrs, checkCancel]; rfl
        · simp [visitChildren, hidden, group, DesignNode.attrs, visitNode, checkCancel]; rfl

/-- A cancelled pass fails exactly when the selection has a node it would show or dissolve,
and otherwise describes nothing. -/
theorem normalizeRoots_cancelled (roots : List DesignNode) :
    normalizeRoots roots true =
      if roots.any (·.attrs.isVisible) then .error .cancelled else .ok (AltTree.empty, []) := by
  rw [normalizeRoots_run, visitChildren_cancelled]
  by_cases shows : roots.any (·.attrs.isVisible) = true
  · rw [if_pos shows, if_pos shows]
  · rw [if_neg shows, if_neg shows]
    rfl

end Handoff
