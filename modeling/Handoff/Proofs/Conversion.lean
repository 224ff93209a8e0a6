/-
Module: Handoff.Proofs.Conversion
Purpose: A run from a selection to code. Marking vector subtrees and writing the tool's answers
  into the tree change no id, link or name, so the tree the pass builds still passes the checks
  emission makes before it writes anything: emission never refuses it.
Main exports: applyAnnotations_sameSkeleton, emit_ok,
  normalizeRoots_sound.
-/
import Handoff.Conversion
import Handoff.Proofs.Normalize.Shape
import Handoff.Proofs.Normalize.Vectors

namespace Handoff

open AltTree

/-! ### Passes that keep the skeleton -/

/-- Writing one subtree's answers in changes no id, link or name: bindings go into paints and
markup into its own field, one node at a time. -/
theorem applyAnnotations_sameSkeleton (tree : AltTree) (root : Nat) (a : Annotations) :
    SameSkeleton tree (applyAnnotations tree root a).1 := by
  unfold applyAnnotations
  dsimp only
  refine SameSkeleton.trans ?bound
    (SameSkeleton.foldl _ (fun t x => .modify t _ fun _ => by rfl) _ _)
  split
  · exact .refl tree
  · exact SameSkeleton.foldl _ (fun t id => .modify t id fun _ => by rfl) _ tree

/-- Emission writes code for every tree that is well formed and fully named. -/
theorem emit_ok (target : Target) (scene : Scene) (wf : scene.tree.WellFormed)
    (named : ∀ i n, scene.tree.get? i = some n → n.uniqueName ≠ "") :
    emit target scene = .ok (emitTree target scene) := by
  have allNamed : scene.tree.nodes.any (·.uniqueName.isEmpty) = false := by
    rw [Array.any_eq_false]
    intro i lt
    have := named i scene.tree.nodes[i] (Array.getElem?_eq_getElem lt)
    simpa [String.isEmpty_iff] using this
  simp [emit, validate_ok wf, allNamed]

/-! ### The tree the pass builds -/

/-- A pass over a selection that is not cancelled succeeds. Its tree passes the structural
check; the walks down from its roots list every id once and in order; every child has a larger
id than its parent; every node has a name; and every issue names a node of the tree. So however
its vector subtrees are marked and whatever answers are written into it, emission never refuses
it. -/
theorem normalizeRoots_sound (roots : List DesignNode) :
    ∃ tree diagnostics, normalizeRoots roots false = .ok (tree, diagnostics) ∧
      tree.validate = .ok () ∧
      tree.roots.flatMap tree.preorder = List.range tree.nodes.size ∧
      (∀ i n, tree.get? i = some n → ∀ c ∈ n.children, i < c) ∧
      (∀ i n, tree.get? i = some n → n.uniqueName ≠ "") ∧
      (∀ d ∈ diagnostics, ∃ i, d.node = some i ∧ i < tree.nodes.size) ∧
      ∀ (target : Target) (config : RunConfig) (palette : Palette) (iconSize : Float)
        (answers : List (Nat × Annotations)),
        ∃ out, emit target
          ⟨answers.foldl (fun t answer => (applyAnnotations t answer.1 answer.2).1)
            (classifyVectors tree iconSize), config, palette⟩ = .ok out := by
  obtain ⟨s, run, visited⟩ := normalizeRoots_spec roots
  have wf := visited.wellFormed
  refine ⟨s.tree, s.diagnostics.toList, run, validate_ok wf, visited.preorder,
    fun i n found c mem => (wf.childLink i n found c mem).1, visited.uniqueName_ne_empty,
    fun d mem => (visited.issues d mem).2, fun target config palette iconSize answers => ?_⟩
  -- marking and answering keep the skeleton, which is all emission checks
  have same : SameSkeleton s.tree
      (answers.foldl (fun t answer => (applyAnnotations t answer.1 answer.2).1)
        (classifyVectors s.tree iconSize)) :=
    (classifyVectors_sameSkeleton _ _).trans
      (SameSkeleton.foldl _ (fun t answer => applyAnnotations_sameSkeleton t _ _) answers _)
  exact ⟨_, emit_ok _ _ (wf.of_sameSkeleton same) (same.named visited.uniqueName_ne_empty)⟩

end Handoff
