/-
Module: Handoff.Proofs.Normalize.Placement
Purpose: The normalisation pass read as a list of placements. In preorder, each node a forest
  shows is placed: it takes the next id and is described under the context of the node it is
  placed in (none for a root), with the rotation of the groups dissolved between the two, and
  what describing it finds is reported. `placements` lists these from the tool's tree alone.
  The tree a pass builds holds at each placement's id the node its description gives
  (`LaidOut.placed`), a placement inside another is placed under that other's context
  (`placements_parent`), and the pass reports, in order, exactly what its placements report
  (`visitChildren_issues`).
Main exports: Placement, placements, placements_attrs, placements_ids, LaidOut.placed,
  placements_parent, visitChildren_issues, normalizeRoots_placed.
-/
import Handoff.Proofs.Normalize.Flat

namespace Handoff

/-- One node the pass places: its id, its fields, the context of the node it is placed in (none
for a root), and the rotations of the groups dissolved between the two, outermost first. -/
structure Placement where
  id : Nat
  attrs : NodeAttrs
  parent : Option ParentContext
  groups : List Float

namespace Placement

/-- The rotation of the dissolved groups as the pass accumulates it on the way down: a sum from
zero, outermost group first. -/
def absorbed (p : Placement) : Float := p.groups.foldl (· + ·) 0.0

/-- What the nodes placed inside this one need from it. -/
def context (p : Placement) : ParentContext := contextOf p.attrs p.parent p.absorbed p.id

/-- What describing the placed node reports. -/
def issues (p : Placement) : List Diagnostic :=
  (describeNode p.attrs p.parent p.absorbed p.id "").2.2

end Placement

/-- The placements of the nodes a forest shows, in preorder from id `k`, under `parent` and
below the dissolved groups of rotations `gs`. -/
def placements : Option ParentContext → List Float → Nat → List DesignNode → List Placement
  | _, _, _, [] => []
  | parent, gs, k, .mk a cs :: rest =>
      if !a.isVisible then placements parent gs k rest
      else if a.kind == "GROUP" then
        placements parent (gs ++ [a.rotation]) k cs ++
          placements parent gs (k + (shown cs).length) rest
      else
        ⟨k, a, parent, gs⟩ ::
          ((if holdsChildren a.kind then
              placements (some (contextOf a parent (gs.foldl (· + ·) 0.0) k)) [] (k + 1) cs
            else []) ++
            placements parent gs (k + 1 + (shown (visitedChildren a cs)).length) rest)

/-! ### The node a placement leaves -/

section PlacedNode

variable (t : AltTree) (parent : Option ParentContext) (absorbed : Float) (k : Nat)
  (a : NodeAttrs) (children : List Nat) (u : String)

@[simp] theorem placedNode_id : (placedNode t parent absorbed k a children u).id = k := rfl

@[simp] theorem placedNode_parent :
    (placedNode t parent absorbed k a children u).parent = parent.map ParentContext.id := rfl

@[simp] theorem placedNode_children :
    (placedNode t parent absorbed k a children u).children = children := rfl

theorem placedNode_layout :
    (placedNode t parent absorbed k a children u).layout =
      (contextOf a parent absorbed k).layout.map fun l =>
        markAbsoluteChildren l ((children.filterMap t.get?).map AltNode.positioning) := rfl

theorem placedNode_positioning :
    (placedNode t parent absorbed k a children u).positioning =
      if parent.isSome then
        (classifyChild a (contextOf a parent absorbed k).layout
          (parent.bind ParentContext.layout) k).1.1
      else .flow := rfl

theorem placedNode_sizing :
    (placedNode t parent absorbed k a children u).sizing =
      (classifyChild a (contextOf a parent absorbed k).layout
        (parent.bind ParentContext.layout) k).1.2 := rfl

theorem placedNode_rotationDegrees :
    (placedNode t parent absorbed k a children u).geometry.rotationDegrees =
      -(a.rotation + absorbed) := rfl

theorem placedNode_cumulativeRotationDegrees :
    (placedNode t parent absorbed k a children u).geometry.cumulativeRotationDegrees =
      -(contextOf a parent absorbed k).cumulativeRotation := rfl

theorem contextOf_cumulativeRotation :
    (contextOf a parent absorbed k).cumulativeRotation =
      (parent.map ParentContext.cumulativeRotation).getD 0.0 + (a.rotation + absorbed) := rfl

end PlacedNode

/-- What describing a node reports does not depend on its name. -/
theorem describeNode_issues (a : NodeAttrs) (parent : Option ParentContext) (absorbed : Float)
    (k : Nat) (u : String) :
    (describeNode a parent absorbed k u).2.2 = (describeNode a parent absorbed k "").2.2 := rfl

/-! ### Placements, read off the tool's tree -/

theorem foldl_add_append_rotation (gs : List Float) (r : Float) :
    (gs ++ [r]).foldl (· + ·) 0.0 = gs.foldl (· + ·) 0.0 + r := by
  simp

/-- The placements place the nodes the forest shows, in order. -/
theorem placements_attrs :
    ∀ (parent : Option ParentContext) (gs : List Float) (k : Nat) (ns : List DesignNode),
      (placements parent gs k ns).map Placement.attrs = shown ns
  | _, _, _, [] => by simp [placements, shown]
  | parent, gs, k, .mk a cs :: rest => by
      by_cases hidden : (!a.isVisible) = true
      · simp only [placements, shown, hidden, if_true]
        exact placements_attrs parent gs k rest
      by_cases group : (a.kind == "GROUP") = true
      · simp only [placements, shown, hidden, group, if_true, if_false, Bool.false_eq_true,
          List.map_append]
        rw [placements_attrs, placements_attrs]
      simp only [placements, shown, hidden, group, if_false, Bool.false_eq_true, List.map_cons,
        List.map_append]
      rw [placements_attrs parent gs _ rest]
      -- the children it holds are placed after it, none otherwise
      split
      · rw [placements_attrs _ [] (k + 1) cs]
      · rfl
termination_by _ _ _ ns => ns

/-- The placements take the ids from `k` on, one after the other. -/
theorem placements_ids :
    ∀ (parent : Option ParentContext) (gs : List Float) (k : Nat) (ns : List DesignNode),
      (placements parent gs k ns).map Placement.id = List.range' k (shown ns).length
  | _, _, _, [] => by simp [placements, shown]
  | parent, gs, k, .mk a cs :: rest => by
      by_cases hidden : (!a.isVisible) = true
      · simp only [placements, shown, hidden, if_true]
        exact placements_ids parent gs k rest
      by_cases group : (a.kind == "GROUP") = true
      · simp only [placements, shown, hidden, group, if_true, if_false, Bool.false_eq_true,
          List.map_append, List.length_append]
        rw [placements_ids, placements_ids, List.range'_append_1]
      simp only [placements, shown, hidden, group, if_false, Bool.false_eq_true, List.map_cons,
        List.map_append, List.length_cons, List.length_append]
      rw [placements_ids, ← shown_visitedChildren]
      -- the node, then the stretch of the children it holds, then the rest
      have kids : (if holdsChildren a.kind then
          placements (some (contextOf a parent (gs.foldl (· + ·) 0.0) k)) [] (k + 1) cs
          else []).map Placement.id = List.range' (k + 1) (shown (visitedChildren a cs)).length := by
        unfold visitedChildren
        split
        · exact placements_ids _ [] (k + 1) cs
        · simp [shown]
      rw [kids, List.range'_append_1, List.range'_succ]
termination_by _ _ _ ns => ns

/-- A placement inside the forest is placed under the forest's parent, or under the context of
another of its placements. -/
theorem placements_parent :
    ∀ (parent : Option ParentContext) (gs : List Float) (k : Nat) (ns : List DesignNode),
      ∀ p ∈ placements parent gs k ns, p.parent = parent ∨
        ∃ q ∈ placements parent gs k ns, p.parent = some q.context
  | _, _, _, [], p, mem => by simp [placements] at mem
  | parent, gs, k, .mk a cs :: rest, p, mem => by
      by_cases hidden : (!a.isVisible) = true
      · simp only [placements, hidden, if_true] at mem ⊢
        exact placements_parent parent gs k rest p mem
      by_cases group : (a.kind == "GROUP") = true
      · simp only [placements, hidden, group, if_true, if_false, Bool.false_eq_true,
          List.mem_append] at mem ⊢
        rcases mem with inner | outer
        · rcases placements_parent parent _ k cs p inner with same | ⟨q, atQ, under⟩
          · exact .inl same
          · exact .inr ⟨q, .inl atQ, under⟩
        · rcases placements_parent parent gs _ rest p outer with same | ⟨q, atQ, under⟩
          · exact .inl same
          · exact .inr ⟨q, .inr atQ, under⟩
      simp only [placements, hidden, group, if_false, Bool.false_eq_true, List.mem_cons,
        List.mem_append] at mem ⊢
      rcases mem with rfl | below | outer
      · exact .inl rfl
      · -- among the children it holds: placed under it, or under one of them
        split at below
        · rcases placements_parent _ [] (k + 1) cs p below with same | ⟨q, atQ, under⟩
          · exact .inr ⟨⟨k, a, parent, gs⟩, .inl rfl, same⟩
          · refine .inr ⟨q, .inr (.inl ?_), under⟩
            rw [if_pos ‹_›]
            exact atQ
        · simp at below
      · rcases placements_parent parent gs _ rest p outer with same | ⟨q, atQ, under⟩
        · exact .inl same
        · exact .inr ⟨q, .inr (.inr atQ), under⟩
termination_by _ _ _ ns => ns

/-! ### What a laid-out tree holds -/

/-- A laid-out tree holds at each placement's id the node the placement describes. -/
theorem LaidOut.placed {t : AltTree} :
    ∀ (parent : Option ParentContext) (gs : List Float) (k : Nat) (ns : List DesignNode),
      LaidOut t parent (gs.foldl (· + ·) 0.0) k ns → ∀ p ∈ placements parent gs k ns,
      ∃ children u,
        t.get? p.id = some (placedNode t p.parent p.absorbed p.id p.attrs children u)
  | _, _, _, [], _, p, mem => by simp [placements] at mem
  | parent, gs, k, .mk a cs :: rest, laid, p, mem => by
      by_cases hidden : (!a.isVisible) = true
      · simp only [LaidOut, placements, hidden, if_true] at laid mem
        exact LaidOut.placed parent gs k rest laid p mem
      by_cases group : (a.kind == "GROUP") = true
      · simp only [LaidOut, placements, hidden, group, if_true, if_false, Bool.false_eq_true,
          List.mem_append] at laid mem
        rcases mem with inner | outer
        · -- the group's rotation joins those dissolved above its children
          rw [← foldl_add_append_rotation] at laid
          exact LaidOut.placed parent _ k cs laid.1 p inner
        · exact LaidOut.placed parent gs _ rest laid.2 p outer
      simp only [LaidOut, placements, hidden, group, if_false, Bool.false_eq_true, List.mem_cons,
        List.mem_append] at laid mem
      obtain ⟨⟨u, atK⟩, kids, later⟩ := laid
      rcases mem with rfl | below | outer
      · exact ⟨_, u, atK⟩
      · split at below
        · exact LaidOut.placed _ [] (k + 1) cs (kids ‹_›) p below
        · simp at below
      · exact LaidOut.placed parent gs _ rest later p outer
termination_by _ _ _ ns => ns

/-! ### What a run reports -/

/-- A visit that does not fail under a parent the tree holds reports, after what was reported
before, exactly what its placements report, in order. The induction follows the pass's own
recursion; the dissolved rotation it carries is the sum of the groups' rotations `gs`. -/
theorem visitChildren_issues (parent : Option ParentContext) (absorbed : Float)
    (ns : List DesignNode) :
    ∀ gs : List Float, absorbed = gs.foldl (· + ·) 0.0 → ∀ s s' : NormState,
      (∀ p, parent = some p → p.id < s.tree.nodes.size) →
      (visitChildren false parent absorbed ns).run s = .ok ((), s') →
      s'.diagnostics.toList =
        s.diagnostics.toList ++ (placements parent gs s.tree.nodes.size ns).flatMap Placement.issues := by
  refine visitChildren.induct false
    (fun parent absorbed ns => ∀ gs : List Float, absorbed = gs.foldl (· + ·) 0.0 →
      ∀ s s' : NormState, (∀ p, parent = some p → p.id < s.tree.nodes.size) →
      (visitChildren false parent absorbed ns).run s = .ok ((), s') →
      s'.diagnostics.toList =
        s.diagnostics.toList ++ (placements parent gs s.tree.nodes.size ns).flatMap Placement.issues)
    (fun parent absorbed a cs => ∀ gs : List Float, absorbed = gs.foldl (· + ·) 0.0 →
      ∀ s s' : NormState, (∀ p, parent = some p → p.id < s.tree.nodes.size) →
      (visitNode false parent absorbed a cs).run s = .ok ((), s') →
      s'.diagnostics.toList = s.diagnostics.toList ++
        (⟨s.tree.nodes.size, a, parent, gs⟩ : Placement).issues ++
        (if holdsChildren a.kind then
          (placements (some (contextOf a parent absorbed s.tree.nodes.size)) []
            (s.tree.nodes.size + 1) cs).flatMap Placement.issues
        else []))
    ?nil ?hidden ?group ?node ?visit parent absorbed ns
  case nil =>
    intro parent absorbed gs _ s s' _ run
    have same : s' = s := by
      simp only [visitChildren] at run
      injection run with run
      exact (congrArg Prod.snd run).symm
    simp [same, placements]
  case hidden =>
    intro parent absorbed a cs rest hidden tail gs sum s s' below run
    simp only [visitChildren, hidden, if_true] at run
    simpa [placements, hidden] using tail gs sum s s' below (by simpa [hidden] using run)
  case group =>
    intro parent absorbed a cs rest visible group tail inner gs sum s s' below run
    -- the dissolved children are visited first, then the rest from where they end
    obtain ⟨s₁, run₁, visited₁⟩ := visitChildren_spec parent (absorbed + a.rotation) cs s below
    have size₁ : s₁.tree.nodes.size = s.tree.nodes.size + (shown cs).length := visited₁.size_eq
    have run₂ : (visitChildren false parent absorbed rest).run s₁ = .ok ((), s') := by
      rw [← run]
      simp only [visitChildren, visible, group, checkCancel, if_false, if_true, Bool.false_eq_true]
      simp [run₁]
      rfl
    have early := inner (gs ++ [a.rotation]) (by rw [sum, foldl_add_append_rotation]) s s₁ below run₁
    have late := tail gs sum s₁ s' (fun p atP => by have := below p atP; omega) run₂
    rw [late, early, size₁]
    simp [placements, visible, group]
  case node =>
    intro parent absorbed a cs rest visible notGroup tail node gs sum s s' below run
    obtain ⟨s₁, run₁, visited₁⟩ := visitNode_spec parent absorbed a cs
      (fun context s inside => visitChildren_spec (some context) 0.0 cs s fun p atP => by
        cases atP; exact inside) s below
    have size₁ : s₁.tree.nodes.size = s.tree.nodes.size + 1 + (shown (visitedChildren a cs)).length := by
      rw [visited₁.size_eq, List.length_cons, Nat.add_assoc, Nat.add_comm 1]
    have run₂ : (visitChildren false parent absorbed rest).run s₁ = .ok ((), s') := by
      rw [← run]
      simp [visitChildren, visible, notGroup, run₁]
      rfl
    have here := node gs sum s s₁ below run₁
    have late := tail gs sum s₁ s' (fun p atP => by have := below p atP; omega) run₂
    rw [late, here, size₁]
    subst sum
    simp only [placements, visible, notGroup, if_false, Bool.false_eq_true, List.flatMap_cons,
      List.flatMap_append, List.append_assoc]
    split <;> simp
  case visit =>
    intro parent absorbed a cs kids gs sum s s' below run
    set k := s.tree.nodes.size
    have entered := enterNode_extends parent absorbed a s below
    have size₁ : (enterNode parent absorbed a s).tree.nodes.size = k + 1 := entered.size_eq
    have reported : (enterNode parent absorbed a s).diagnostics.toList =
        s.diagnostics.toList ++ (⟨k, a, parent, gs⟩ : Placement).issues := by
      subst sum
      simp [enterNode, Placement.issues, Placement.absorbed, describeNode_issues]
      rfl
    rw [visitNode_run] at run
    -- marking the node's flow reports nothing
    have marked : ∀ s₂ : NormState, (if (contextOf a parent absorbed k).layout.isSome then
        markChildren k else pure ()).run s₂ = .ok ((), s') → s'.diagnostics = s₂.diagnostics := by
      intro s₂ mark
      split at mark
      · rw [markChildren_run] at mark
        rw [← (Prod.mk.inj (Except.ok.inj mark)).2]
      · rw [← (Prod.mk.inj (Except.ok.inj mark)).2]
    by_cases holds : holdsChildren a.kind = true
    · obtain ⟨s₂, run₂, _⟩ := visitChildren_spec (some (contextOf a parent absorbed k)) 0.0 cs
        (enterNode parent absorbed a s) fun p atP => by
          cases atP
          rw [size₁, contextOf_id]
          exact Nat.lt_succ_self k
      rw [if_pos holds, StateT.run_bind, run₂] at run
      have below₂ := kids (contextOf a parent absorbed k) [] rfl (enterNode parent absorbed a s) s₂
        (fun p atP => by cases atP; rw [size₁, contextOf_id]; exact Nat.lt_succ_self k) run₂
      rw [marked s₂ run, below₂, reported, size₁, if_pos holds, List.append_assoc]
    · rw [if_neg holds] at run
      have run₂ : (pure () : Normalizing Unit).run (enterNode parent absorbed a s) =
          .ok ((), enterNode parent absorbed a s) := rfl
      rw [StateT.run_bind, run₂] at run
      rw [marked _ run, reported, if_neg holds, List.append_nil]

/-! ### A whole pass -/

/-- A pass over a selection that is not cancelled succeeds; its tree holds at each placement's
id the node the placement describes, its placements take the ids from zero on in order, each
is placed as a root or under another's context, and it reports exactly what they report. -/
theorem normalizeRoots_placed (roots : List DesignNode) :
    ∃ tree diagnostics, normalizeRoots roots false = .ok (tree, diagnostics) ∧
      (placements none [] 0 roots).map Placement.id = List.range tree.nodes.size ∧
      (∀ p ∈ placements none [] 0 roots, ∃ children u,
        tree.get? p.id = some (placedNode tree p.parent p.absorbed p.id p.attrs children u)) ∧
      diagnostics = (placements none [] 0 roots).flatMap Placement.issues := by
  obtain ⟨s, run, visited⟩ := visitChildren_spec none 0.0 roots NormState.start (by simp)
  have reported := visitChildren_issues none 0.0 roots [] rfl NormState.start s (by simp) run
  refine ⟨s.tree, s.diagnostics.toList, by rw [normalizeRoots_run, run], ?_,
    LaidOut.placed none [] 0 roots visited.laidOut, ?_⟩
  · rw [placements_ids, visited.size_eq_length, List.range_eq_range']
  · simpa [NormState.start, AltTree.empty] using reported

/-- When the placements take the ids of a tree in order, the `i`-th placement is one of them and
has id `i`. -/
theorem placement_of_getElem? {tree : AltTree} {roots : List DesignNode} {i : Nat} {p : Placement}
    (ids : (placements none [] 0 roots).map Placement.id = List.range tree.nodes.size)
    (atI : (placements none [] 0 roots)[i]? = some p) :
    p ∈ placements none [] 0 roots ∧ p.id = i := by
  refine ⟨List.mem_of_getElem? atI, ?_⟩
  have lt : i < tree.nodes.size := by
    rw [← List.length_range (n := tree.nodes.size), ← ids, List.length_map]
    exact (List.getElem?_eq_some_iff.1 atI).1
  have idAt := congrArg (·[i]?) ids
  simp only [List.getElem?_map, atI, List.getElem?_range lt, Option.map_some,
    Option.some.injEq] at idAt
  exact idAt

/-- When the placements take the ids of a tree in order, each node of the tree has a placement
at its index, and that placement places the node the forest shows at that index. -/
theorem placement_of_get? {tree : AltTree} {roots : List DesignNode} {i : Nat} {n : AltNode}
    (ids : (placements none [] 0 roots).map Placement.id = List.range tree.nodes.size)
    (found : tree.get? i = some n) :
    ∃ p, (placements none [] 0 roots)[i]? = some p ∧ (shown roots)[i]? = some p.attrs := by
  have lt : i < (placements none [] 0 roots).length := by
    rw [← List.length_map (f := Placement.id), ids, List.length_range]
    exact AltTree.lt_size_of_get? found
  refine ⟨_, List.getElem?_eq_getElem lt, ?_⟩
  rw [← placements_attrs none [] 0 roots, List.getElem?_map, List.getElem?_eq_getElem lt]
  rfl

end Handoff
