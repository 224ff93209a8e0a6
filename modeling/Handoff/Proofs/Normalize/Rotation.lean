/-
Module: Handoff.Proofs.Normalize.Rotation
Purpose: The rotations the normalisation pass records. A node's own rotation is its tool angle
  plus the rotations of the groups dissolved above it, negated into the code's convention; its
  cumulative rotation adds the cumulative rotation of the node it is placed in, and compares
  equal (as a double) to that node's cumulative rotation plus its own, or to its own at a root,
  whenever it is a number. Negation commutes with rounding to nearest up to the sign of a zero
  (`Float.neg_add_beq`), which is what makes the comparison exact.
Main exports: normalizeRoots_rotation.
-/
import Handoff.Proofs.Normalize.Placement
import Handoff.Proofs.Float.Negation

namespace Handoff

/-- The cumulative rotation a placed node records is that of the context it is placed in,
negated, after its own tool angle and the dissolved groups' rotations. -/
theorem placedNode_cumulative (t : AltTree) (p : Placement) (children : List Nat) (u : String) :
    (placedNode t p.parent p.absorbed p.id p.attrs children u).geometry.cumulativeRotationDegrees =
      -((p.parent.map ParentContext.cumulativeRotation).getD 0.0 + (p.attrs.rotation + p.absorbed)) := by
  rw [placedNode_cumulativeRotationDegrees, contextOf_cumulativeRotation]

/-- A pass over a selection that is not cancelled succeeds, and every node it builds records as
its rotation the negated sum of its tool angle and the rotations of the groups dissolved between
it and its parent, outermost first. When its cumulative rotation is a number, that compares
equal to its rotation at a root, and to its parent's cumulative rotation plus its rotation
elsewhere. -/
theorem normalizeRoots_rotation (roots : List DesignNode) :
    ∃ tree diagnostics, normalizeRoots roots false = .ok (tree, diagnostics) ∧
      (placements none [] 0 roots).length = tree.nodes.size ∧
      ∀ i n p, tree.get? i = some n → (placements none [] 0 roots)[i]? = some p →
        n.geometry.rotationDegrees = -(p.attrs.rotation + p.groups.foldl (· + ·) 0.0) ∧
        (n.geometry.cumulativeRotationDegrees.isNaN = false →
          (n.parent = none →
            (n.geometry.cumulativeRotationDegrees == n.geometry.rotationDegrees) = true) ∧
          ∀ j m, n.parent = some j → tree.get? j = some m →
            (n.geometry.cumulativeRotationDegrees ==
              m.geometry.cumulativeRotationDegrees + n.geometry.rotationDegrees) = true) := by
  obtain ⟨tree, diagnostics, run, ids, placed, -⟩ := normalizeRoots_placed roots
  have length : (placements none [] 0 roots).length = tree.nodes.size := by
    rw [← List.length_map (f := Placement.id), ids, List.length_range]
  refine ⟨tree, diagnostics, run, length, fun i n p found atI => ?_⟩
  obtain ⟨mem, pid⟩ := placement_of_getElem? ids atI
  obtain ⟨children, u, atP⟩ := placed p mem
  rw [pid, found, Option.some.injEq] at atP
  subst atP
  refine ⟨placedNode_rotationDegrees .., fun number => ⟨fun root => ?_, fun j m up above => ?_⟩⟩
  · -- a root's cumulative rotation starts from +0, and `-(0 + x)` compares equal to `-0 + -x`
    rw [placedNode_parent, Option.map_eq_none_iff] at root
    rw [← pid, placedNode_cumulative, root] at number ⊢
    rw [placedNode_rotationDegrees]
    rw [Float.isNaN_neg] at number
    have sum := Float.neg_add_beq 0.0 (p.attrs.rotation + p.absorbed) number
    rwa [Float.negZero_add] at sum
  · -- otherwise the node is placed under the context of the placement of its parent
    rw [placedNode_parent] at up
    obtain ⟨c, atC, rfl⟩ := Option.map_eq_some_iff.1 up
    obtain ⟨q, memQ, under⟩ : ∃ q ∈ placements none [] 0 roots, p.parent = some q.context := by
      rcases placements_parent none [] 0 roots p mem with root | inner
      · rw [root] at atC
        cases atC
      · exact inner
    rw [atC, Option.some.injEq] at under
    subst under
    obtain ⟨children', u', atQ⟩ := placed q memQ
    rw [Placement.context, contextOf_id, atQ, Option.some.injEq] at above
    subst above
    rw [← pid, placedNode_cumulative, atC] at number ⊢
    rw [placedNode_cumulative, placedNode_rotationDegrees]
    rw [Float.isNaN_neg] at number
    exact Float.neg_add_beq _ _ number

end Handoff
