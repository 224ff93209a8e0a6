/-
Module: Handoff.Proofs.Outcomes
Purpose: What a whole run over a document gives. A run that is not cancelled succeeds exactly
  when the selection shows a node once hidden nodes are dropped and groups dissolved, and is
  refused as an empty selection otherwise: on the tree the pass builds, marking, annotation and
  emission never fail. A run cancelled before it starts fails as cancelled when a top-level node
  is visible, and as an empty selection otherwise. Every issue a successful run reports is a
  warning about a node of the tree: normalisation, annotation and every target only ever warn
  about the nodes they work on.
Main exports: DescribesAll.length_eq, mem_sortByNode, annotateSubtree_warnings,
  convertDocument_cancelled, convertDocument_outcomes.
-/
import Mathlib
import Handoff.Proofs.Conversion
import Handoff.Proofs.Normalize.Flat
import Handoff.Proofs.Annotate.Roots
import Handoff.Proofs.Emit.Contract
import Handoff.Proofs.Emit.Dispatch

namespace Handoff

open AltTree

/-- A list of ids that describes a list of tool nodes has one id for each of them. -/
theorem DescribesAll.length_eq {t : AltTree} {ids : List Nat} {ns : List DesignNode}
    (describes : DescribesAll t ids ns) : ids.length = ns.length := by
  induction ids generalizing ns with
  | nil => cases describes; rfl
  | cons i ids ih =>
      cases describes with
      | cons _ tail => simp [ih tail]

/-- Sorting by node keeps every issue. -/
theorem mem_sortByNode {d : Diagnostic} {ds : List Diagnostic} : d ∈ sortByNode ds ↔ d ∈ ds :=
  (List.mergeSort_perm ds _).mem_iff

/-- Every issue of a subtree's annotation is a warning. -/
theorem annotateSubtree_warnings (t : AltTree) (r : Nat) (host : DesignHost Id)
    (config : RunConfig) :
    ∀ d ∈ (annotateSubtree t r host config).run.diagnostics, d.severity = .warning := by
  intro d mem
  rw [diagnostics_annotateSubtree, List.mem_append, List.mem_map, List.mem_map] at mem
  rcases mem with ⟨_, -, rfl⟩ | ⟨_, -, rfl⟩ <;> rfl

/-- A run cancelled before it starts fails: as cancelled when a top-level node of the document
is visible, since the pass stops at the first node it would show or dissolve, and as an empty
selection otherwise. -/
theorem convertDocument_cancelled (doc : RawDocument) (config : RunConfig) :
    convertDocument doc config true =
      .error (if doc.nodes.any (·.attrs.isVisible) then .cancelled else .emptySelection) := by
  simp only [convertDocument, convert, normalizeRoots_cancelled]
  split <;> rfl

/-- What a run over a document gives. Not cancelled, it is refused as an empty selection exactly
when the selection shows no node once hidden nodes are dropped and groups dissolved, and
succeeds otherwise; every issue of a successful run is a warning about a node of the tree the
pass builds. Cancelled before it starts, it fails as cancelled when a top-level node is visible
and as an empty selection otherwise. -/
theorem convertDocument_outcomes (doc : RawDocument) (config : RunConfig) :
    (convertDocument doc config false = .error .emptySelection ↔ flat doc.nodes = []) ∧
    (flat doc.nodes ≠ [] → ∃ out, convertDocument doc config false = .ok out) ∧
    (∀ out, convertDocument doc config false = .ok out →
      ∃ tree ds, normalizeRoots doc.nodes false = .ok (tree, ds) ∧
        ∀ d ∈ out.diagnostics, d.severity = .warning ∧
          ∃ i n, d.node = some i ∧ tree.get? i = some n) ∧
    convertDocument doc config true =
      .error (if doc.nodes.any (·.attrs.isVisible) then .cancelled else .emptySelection) := by
  obtain ⟨s, run, visited⟩ := normalizeRoots_spec doc.nodes
  obtain ⟨tree, ds, run', describes, -⟩ := normalizeRoots_follows_flat doc.nodes
  rw [run, Except.ok.injEq, Prod.mk.injEq] at run'
  obtain ⟨rfl, -⟩ := run'
  -- the selection shows a node exactly when the pass gives a root
  have rootless : s.tree.roots = [] ↔ flat doc.nodes = [] := by
    rw [← List.length_eq_zero_iff, describes.length_eq, List.length_eq_zero_iff]
  -- past normalisation: the roots are annotated on the marked tree and their answers written in
  let t := classifyVectors s.tree config.iconSizeThreshold
  let answers := t.roots.map fun root =>
    (root, Id.run (annotateSubtree t root (staticHost doc) config))
  let scene : Scene :=
    ⟨annotatedTree s.tree config.iconSizeThreshold answers, config, Palette.tailwind⟩
  have same : SameSkeleton s.tree scene.tree :=
    annotatedTree_sameSkeleton s.tree config.iconSizeThreshold answers
  obtain ⟨wf, covered⟩ := visited.annotatedTree_covered config.iconSizeThreshold answers
  have emitted : emit config.backend.target scene = .ok (emitTree config.backend.target scene) :=
    emit_ok _ _ wf (same.named visited.uniqueName_ne_empty)
  have succeeds : s.tree.roots ≠ [] →
      convertDocument doc config false = .ok ⟨(emitTree config.backend.target scene).1,
        sortByNode (s.diagnostics.toList ++ answers.flatMap (fun x => x.2.diagnostics) ++
          (emitTree config.backend.target scene).2), paletteSummary scene.tree⟩ := by
    intro rooted
    have emitted' := emitted
    simp only [scene, annotatedTree, answers, t] at emitted'
    simp only [convertDocument, convert, run, bind, Except.bind, List.isEmpty_iff, rooted,
      if_false, Bool.false_eq_true, writeAnswers_eq, Except.mapError, emitted']
    rfl
  refine ⟨⟨fun refused => ?_, fun empty => ?_⟩,
    fun shown => ⟨_, succeeds (mt rootless.1 shown)⟩, fun out ok => ?_,
    convertDocument_cancelled doc config⟩
  · by_contra shown
    rw [succeeds (mt rootless.1 shown)] at refused
    exact absurd refused (by simp)
  · simp [convertDocument, convert, run, bind, Except.bind, rootless.2 empty]; rfl
  · -- the issues of a successful run: normalisation's, each root's annotation's, emission's
    have rooted : s.tree.roots ≠ [] := by
      intro empty
      rw [show convertDocument doc config false = .error .emptySelection by
        simp [convertDocument, convert, run, bind, Except.bind, empty]; rfl] at ok
      exact absurd ok (by simp)
    rw [succeeds rooted, Except.ok.injEq] at ok
    subst ok
    refine ⟨s.tree, s.diagnostics.toList, run, fun d mem => ?_⟩
    -- an id below the size names a node of the tree
    have names : ∀ i, d.node = some i → i < s.tree.nodes.size →
        ∃ i n, d.node = some i ∧ s.tree.get? i = some n := fun i named lt =>
      ⟨i, (Option.isSome_iff_exists.1 ((isSome_get?_iff s.tree i).2 lt)).imp
        fun _ found => ⟨named, found⟩⟩
    simp only [mem_sortByNode, List.mem_append, List.mem_flatMap] at mem
    rcases mem with (normalizing | ⟨x, answered, annotating⟩) | emitting
    · obtain ⟨warning, i, named, lt⟩ := visited.issues d normalizing
      exact ⟨warning, names i named lt⟩
    · obtain ⟨r, root, rfl⟩ := List.mem_map.1 answered
      have normal : t.Normal :=
        (show s.tree.Normal from ⟨visited.wellFormed, visited.preorder⟩).of_sameSkeleton
          (classifyVectors_sameSkeleton _ _)
      obtain ⟨i, named, under⟩ := node_diagnostics_annotateSubtree normal _ _ root d annotating
      have lt : i < t.nodes.size := by
        have listed : i ∈ t.roots.flatMap t.preorder := List.mem_flatMap.2 ⟨r, root, under⟩
        rw [normal.preorder] at listed
        exact List.mem_range.1 listed
      rw [(classifyVectors_sameSkeleton _ _).size_eq] at lt
      exact ⟨annotateSubtree_warnings t r _ config d annotating, names i named lt⟩
    · obtain ⟨warning, i, named, n, found, -⟩ :=
        emitTree_warnings_dispatched (BackendKind.target_warnsAbout config.backend) scene wf covered
          d emitting
      have lt := lt_size_of_get? found
      rw [same.size_eq] at lt
      exact ⟨warning, names i named lt⟩

end Handoff
