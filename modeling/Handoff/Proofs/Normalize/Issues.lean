/-
Module: Handoff.Proofs.Normalize.Issues
Purpose: Every issue the normalisation pass reports while describing a node is a warning about
  that node: paints and effects that do not convert, text segments that do not add up, layout
  modes it does not know, stretching it cannot honour, a missing box, a rotation it cannot
  solve, an unknown type.
Main exports: AboutNode, convertPaints_about, convertEffects_about, buildText_about,
  classifyLayout_about, classifyChild_about, describeNode_about.
-/
import Handoff.Normalize.Pass
import Mathlib

namespace Handoff

/-- Every issue of a list is a warning about node `id`. -/
def AboutNode (id : Nat) (ds : List Diagnostic) : Prop :=
  ∀ d ∈ ds, d.severity = .warning ∧ d.node = some id

namespace AboutNode

variable {id : Nat}

@[simp] theorem nil : AboutNode id [] := by simp [AboutNode]

@[simp] theorem singleton (m : String) : AboutNode id [Diagnostic.warning id m] := by
  simp [AboutNode, Diagnostic.warning]

@[simp] theorem append {ds ds' : List Diagnostic} :
    AboutNode id (ds ++ ds') ↔ AboutNode id ds ∧ AboutNode id ds' := by
  simp only [AboutNode, List.mem_append]
  constructor
  · intro both
    exact ⟨fun d mem => both d (.inl mem), fun d mem => both d (.inr mem)⟩
  · rintro ⟨early, late⟩ d (mem | mem)
    · exact early d mem
    · exact late d mem

end AboutNode

/-! ### Paints and effects -/

theorem convertPaint_about (raw : RawPaint) (node : Nat) :
    AboutNode node (convertPaint raw node).2 := by
  intro d mem
  unfold convertPaint at mem
  (repeat' split at mem) <;> simp_all [Diagnostic.warning]

theorem convertPaints_about (node : Nat) :
    ∀ ps : List RawPaint, AboutNode node (convertPaints node ps).2
  | [] => AboutNode.nil
  | p :: rest => by
      simp only [convertPaints, AboutNode.append]
      exact ⟨convertPaint_about p node, convertPaints_about node rest⟩

theorem convertEffect_about (raw : RawEffect) (node : Nat) :
    AboutNode node (convertEffect raw node).2 := by
  intro d mem
  unfold convertEffect at mem
  (repeat' split at mem) <;> simp_all [Diagnostic.warning]

theorem convertEffects_about (node : Nat) :
    ∀ es : List RawEffect, AboutNode node (convertEffects node es).2
  | [] => AboutNode.nil
  | e :: rest => by
      simp only [convertEffects, AboutNode.append]
      exact ⟨convertEffect_about e node, convertEffects_about node rest⟩

/-! ### Text -/

theorem firstPaint_about (node : Nat) :
    ∀ ps : List RawPaint, AboutNode node (firstPaint node ps).2
  | [] => AboutNode.nil
  | p :: rest => by
      have head := convertPaint_about p node
      unfold firstPaint
      split
      · rename_i e ds converted
        rw [converted] at head
        exact head
      · rename_i ds converted
        rw [converted] at head
        simp only [AboutNode.append]
        exact ⟨head, firstPaint_about node rest⟩

theorem segmentRuns_about (raw : NodeAttrs) (id : Nat) :
    ∀ (segments : List RawTextSegment) (fills : List PaintEntry),
      AboutNode id (segmentRuns raw id segments fills).2.2
  | [], _ => AboutNode.nil
  | s :: rest, fills => by
      simp only [segmentRuns, AboutNode.append]
      exact ⟨firstPaint_about id s.fills, segmentRuns_about raw id rest _⟩

theorem buildText_about (raw : NodeAttrs) (fills : List PaintEntry) (id : Nat) :
    AboutNode id (buildText raw fills id).2.2 := by
  have segments := segmentRuns_about raw id raw.segments fills
  intro d mem
  -- without segments there is no issue; with them, those of the segments and the fallback's
  simp only [buildText] at mem
  split at mem
  · simp at mem
  · split at mem
    · exact segments d mem
    · rcases List.mem_append.1 mem with inner | fallback
      · exact segments d inner
      · simp only [List.mem_singleton] at fallback
        simp [fallback, Diagnostic.warning]

/-! ### Layout and placement -/

theorem classifyLayout_about (raw : NodeAttrs) (id : Nat) :
    AboutNode id (classifyLayout raw id).2 := by
  intro d mem
  unfold classifyLayout at mem
  -- the layout mode decides the direction; a flow then reports only on its counter alignment
  split at mem <;> simp only at mem <;> (try split at mem) <;> simp_all [Diagnostic.warning]

theorem settleFill_about (id : Nat) (axis : String) (flows : Bool) (mode : SizingMode) :
    AboutNode id (settleFill id axis flows mode).2 := by
  unfold settleFill
  split <;> simp

theorem classifyChild_about (raw : NodeAttrs) (ownLayout parentLayout : Option LayoutDescriptor)
    (id : Nat) : AboutNode id (classifyChild raw ownLayout parentLayout id).2 := by
  simp only [classifyChild, AboutNode.append]
  exact ⟨settleFill_about _ _ _ _, settleFill_about _ _ _ _⟩

/-! ### A whole node -/

/-- Describing a node reports only warnings about that node. -/
theorem describeNode_about (a : NodeAttrs) (parent : Option ParentContext) (absorbed : Float)
    (id : Nat) (u : String) : AboutNode id (describeNode a parent absorbed id u).2.2 := by
  simp only [describeNode, AboutNode.append]
  refine ⟨⟨⟨⟨⟨⟨⟨⟨?kind, ?bounds⟩, ?singular⟩, convertPaints_about _ _⟩, convertPaints_about _ _⟩,
    convertEffects_about _ _⟩, ?text⟩, ?layout⟩, classifyChild_about _ _ _ _⟩
  case kind => split <;> simp
  case bounds =>
    split
    · split <;> simp
    · simp
  case singular => split_ifs <;> simp
  case text =>
    split_ifs
    · exact buildText_about _ _ _
    · exact AboutNode.nil
  case layout =>
    split_ifs
    · exact classifyLayout_about _ _
    · exact AboutNode.nil

end Handoff
