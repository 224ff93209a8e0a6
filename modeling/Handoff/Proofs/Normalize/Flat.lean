/-
Module: Handoff.Proofs.Normalize.Flat
Purpose: The description follows the tool's tree with hidden nodes dropped and groups dissolved.
  Its roots are the nodes `flat` keeps of the selection, one for one and in order; the children
  of each node are those `flat` keeps of its tool node's children when its kind holds children,
  and none otherwise; and each node keeps its tool node's id, type and name. No node of the
  description comes from a group.
Main exports: Describes, DescribesAll, LaidOut.describes, shown_not_group, LaidOut.fromShown,
  normalizeRoots_follows_flat.
-/
import Handoff.Proofs.Normalize.Shape

namespace Handoff

mutual

/-- The node at id `i` of `t` stands for the tool node `.mk a cs`: it keeps the tool node's id,
type and name, and its children stand, in order, for the nodes `flat` keeps of `cs` when the
kind holds children. -/
inductive Describes (t : AltTree) : Nat → DesignNode → Prop where
  | mk {i : Nat} {a : NodeAttrs} {cs : List DesignNode} {n : AltNode}
      (found : t.get? i = some n) (sourceId : n.sourceId = a.id) (sourceKind : n.sourceKind = a.kind)
      (name : n.name = a.name)
      (children : DescribesAll t n.children (if holdsChildren a.kind then flat cs else [])) :
      Describes t i (.mk a cs)

/-- The ids stand, one for one and in order, for the tool nodes. -/
inductive DescribesAll (t : AltTree) : List Nat → List DesignNode → Prop where
  | nil : DescribesAll t [] []
  | cons {i : Nat} {n : DesignNode} {ids : List Nat} {ns : List DesignNode}
      (head : Describes t i n) (tail : DescribesAll t ids ns) : DescribesAll t (i :: ids) (n :: ns)

end

theorem DescribesAll.append {t : AltTree} {ids ids' : List Nat} {ns ns' : List DesignNode}
    (first : DescribesAll t ids ns) (second : DescribesAll t ids' ns') :
    DescribesAll t (ids ++ ids') (ns ++ ns') := by
  induction ids generalizing ns with
  | nil =>
      cases first
      exact second
  | cons i ids tail =>
      cases first with
      | cons head rest => exact .cons head (tail rest)

variable {t : AltTree}

/-- The top nodes of a laid-out forest stand for the nodes `flat` keeps of it. -/
theorem LaidOut.describes :
    ∀ (parent : Option ParentContext) (absorbed : Float) (k : Nat) (ns : List DesignNode),
      LaidOut t parent absorbed k ns → DescribesAll t (shownRoots k ns) (flat ns)
  | _, _, _, [], _ => by simpa [shownRoots, flat] using DescribesAll.nil
  | parent, absorbed, k, .mk a cs :: rest, laid => by
      by_cases hidden : (!a.isVisible) = true
      · simp only [LaidOut, shownRoots, flat, hidden, if_true] at laid ⊢
        exact LaidOut.describes parent absorbed k rest laid
      by_cases group : (a.kind == "GROUP") = true
      · simp only [LaidOut, shownRoots, flat, hidden, group, if_true, if_false,
          Bool.false_eq_true] at laid ⊢
        exact (LaidOut.describes parent _ k cs laid.1).append
          (LaidOut.describes parent absorbed _ rest laid.2)
      simp only [LaidOut, shownRoots, flat, hidden, group, if_false, Bool.false_eq_true] at laid ⊢
      obtain ⟨⟨u, placed⟩, kids, later⟩ := laid
      rw [← shown_visitedChildren]
      refine .cons (.mk placed rfl rfl rfl ?_) (LaidOut.describes parent absorbed _ rest later)
      -- the children it lists are the top nodes of the children it holds
      show DescribesAll t (shownRoots (k + 1) (visitedChildren a cs)) _
      unfold visitedChildren
      split
      · exact LaidOut.describes _ 0.0 (k + 1) cs (kids ‹_›)
      · simpa [shownRoots] using DescribesAll.nil
termination_by _ _ _ ns => ns

/-- The nodes a forest shows are visible and none is a group. -/
theorem shown_not_group : ∀ (ns : List DesignNode), ∀ a ∈ shown ns, a.kind ≠ "GROUP"
  | [], _, mem => by simp [shown] at mem
  | .mk a cs :: rest, b, mem => by
      by_cases hidden : (!a.isVisible) = true
      · simp only [shown, hidden, if_true] at mem
        exact shown_not_group rest b mem
      by_cases group : (a.kind == "GROUP") = true
      · simp only [shown, hidden, group, if_true, if_false, Bool.false_eq_true,
          List.mem_append] at mem
        exact mem.elim (shown_not_group cs b) (shown_not_group rest b)
      simp only [shown, hidden, group, if_false, Bool.false_eq_true, List.mem_cons,
        List.mem_append] at mem
      rcases mem with rfl | mem | mem
      · simpa using group
      · split at mem
        · exact shown_not_group cs b mem
        · simp at mem
      · exact shown_not_group rest b mem
termination_by ns => ns

/-- The node at each id of a laid-out forest's stretch stands for the forest's shown node at the
same place in preorder. -/
theorem LaidOut.fromShown :
    ∀ (parent : Option ParentContext) (absorbed : Float) (k : Nat) (ns : List DesignNode),
      LaidOut t parent absorbed k ns → ∀ (i : Nat) (a : NodeAttrs), (shown ns)[i]? = some a →
      ∃ n, t.get? (k + i) = some n ∧ n.sourceId = a.id ∧ n.sourceKind = a.kind ∧ n.name = a.name
  | _, _, _, [], _, i, a, at_ => by simp [shown] at at_
  | parent, absorbed, k, .mk b cs :: rest, laid, i, a, at_ => by
      by_cases hidden : (!b.isVisible) = true
      · simp only [LaidOut, shown, hidden, if_true] at laid at_
        exact LaidOut.fromShown parent absorbed k rest laid i a at_
      by_cases group : (b.kind == "GROUP") = true
      · simp only [LaidOut, shown, hidden, group, if_true, if_false, Bool.false_eq_true] at laid at_
        rw [List.getElem?_append] at at_
        split at at_
        · exact LaidOut.fromShown parent _ k cs laid.1 i a at_
        · obtain ⟨n, found, facts⟩ :=
            LaidOut.fromShown parent absorbed _ rest laid.2 _ a at_
          exact ⟨n, by rwa [Nat.add_assoc, Nat.add_sub_cancel' (by omega)] at found, facts⟩
      simp only [LaidOut, shown, hidden, group, if_false, Bool.false_eq_true] at laid at_
      obtain ⟨⟨u, placed⟩, kids, later⟩ := laid
      rw [← shown_visitedChildren] at at_
      cases i with
      | zero =>
          simp only [List.getElem?_cons_zero, Option.some.injEq] at at_
          subst at_
          exact ⟨_, placed, rfl, rfl, rfl⟩
      | succ i =>
          simp only [List.getElem?_cons_succ, List.getElem?_append] at at_
          split at at_
          · -- below the node, among the children it holds
            unfold visitedChildren at at_
            split at at_
            · obtain ⟨n, found, facts⟩ :=
                LaidOut.fromShown _ 0.0 (k + 1) cs (kids ‹_›) i a at_
              exact ⟨n, by rwa [Nat.add_assoc, Nat.add_comm 1] at found, facts⟩
            · simp [shown] at at_
          · obtain ⟨n, found, facts⟩ := LaidOut.fromShown parent absorbed _ rest later _ a at_
            exact ⟨n, by rwa [Nat.add_assoc, Nat.add_assoc, Nat.add_sub_cancel' (by omega),
              Nat.add_comm 1] at found, facts⟩
termination_by _ _ _ ns => ns

/-- A pass over a selection that is not cancelled succeeds, and its description follows the
selection with hidden nodes dropped and groups dissolved: its roots stand, in order, for the
nodes `flat` keeps of the selection, and no node of it comes from a group. -/
theorem normalizeRoots_follows_flat (roots : List DesignNode) :
    ∃ tree diagnostics, normalizeRoots roots false = .ok (tree, diagnostics) ∧
      DescribesAll tree tree.roots (flat roots) ∧
      ∀ i n, tree.get? i = some n → n.sourceKind ≠ "GROUP" := by
  obtain ⟨s, run, visited⟩ := normalizeRoots_spec roots
  refine ⟨s.tree, s.diagnostics.toList, run, ?_, fun i n found => ?_⟩
  · rw [visited.roots_eq_shownRoots]
    exact LaidOut.describes none 0.0 0 roots visited.laidOut
  · -- the node at `i` stands for the `i`-th node the selection shows, which is no group
    have lt := AltTree.lt_size_of_get? found
    rw [visited.size_eq_length] at lt
    have at_ : (shown roots)[i]? = some (shown roots)[i] := List.getElem?_eq_getElem lt
    obtain ⟨n', found', _, sourceKind, _⟩ :=
      LaidOut.fromShown none 0.0 0 roots visited.laidOut i _ at_
    rw [Nat.zero_add, found, Option.some.injEq] at found'
    rw [found', sourceKind]
    exact shown_not_group roots _ (List.getElem_mem lt)

end Handoff
