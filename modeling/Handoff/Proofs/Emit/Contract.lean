/-
Module: Handoff.Proofs.Emit.Contract
Purpose: What emission does with the tree of a selection, under every run configuration and for
  every target. The tree a pass builds, however its vector subtrees are marked and whatever
  answers are written into it, is well formed and has every node under a root, so the results
  on dispatch hold of it: a target's method is called for a node exactly when each of its proper
  ancestors is a container not drawn as one vector and the node is not such a vector without
  markup; such a vector is drawn from its markup, or emits nothing and warns about nothing when
  it has none; every warning is about a node that got a call; and every container places the
  children it is handed where its target's renderer prints them.
Main exports: emitNode_flattened_markup, emitNode_flattened_none, BackendKind.container_places,
  annotatedTree, Visited.annotatedTree_covered, selection_emission_contract.
-/
import Handoff.Proofs.Emit.Containers
import Handoff.Proofs.Conversion

namespace Handoff

open AltTree

/-! ### A node drawn as one vector -/

/-- Emission reads the scene it runs in. -/
theorem Emit.read_bind {α : Type} (f : Scene → Emit α) (scene : Scene) :
    (read >>= f) scene = f scene scene :=
  rfl

section Flattened

variable (target : Target) (fuel : Nat) {scene : Scene} {i : Nat} {n : AltNode}
  (found : scene.tree.get? i = some n) (flat : n.canFlattenToVector = true)
  (embed : scene.config.embedVectors = true)
include found flat embed

/-- A node that can be drawn as one vector, when vectors are embedded, is drawn from its
exported markup by the target, and named after its layer when layer names are shown; nothing
under it is visited. -/
theorem emitNode_flattened_markup {markup : String} (exported : n.embeddedVectorMarkup = some markup) :
    emitNode target (fuel + 1) i scene =
      (target.vector n markup >>= fun f =>
        pure (if scene.config.showLayerNames && !f.isEmpty then target.withLayerName n f else f))
        scene := by
  have flattened : (n.canFlattenToVector && scene.config.embedVectors) = true := by
    simp [flat, embed]
  rw [emitNode, Emit.read_bind]
  simp only [found, if_pos flattened, exported]
  -- naming the layer is the same step written as a branch of two returns
  refine congrArg (fun named => (target.vector n markup >>= named) scene) (funext fun f => ?_)
  split <;> rfl

/-- Such a node without markup emits nothing and warns about nothing. -/
theorem emitNode_flattened_none (missing : n.embeddedVectorMarkup = none) (ds : Array Diagnostic) :
    (emitNode target (fuel + 1) i scene).run ds = (Fragment.empty, ds) := by
  have flattened : (n.canFlattenToVector && scene.config.embedVectors) = true := by
    simp [flat, embed]
  rw [emitNode, Emit.read_bind]
  simp only [found, if_pos flattened, missing]
  -- the empty fragment is not named after its layer
  have empty : Fragment.empty.isEmpty = true := rfl
  simp only [pure_bind, empty, Bool.not_true, Bool.and_false, Bool.false_eq_true, if_false]
  rfl

end Flattened

/-! ### Every target's containers -/

/-- Every target's container places the children it is handed as `BackendKind.Places` says. -/
theorem BackendKind.container_places (b : BackendKind) (scene : Scene) (node : AltNode)
    (children : List (AltNode × Fragment)) :
    Yields scene (b.Places node.layout (keptChildren children) (keptAt .flow children)
      (keptAt .absolute children)) (b.target.container node children) := by
  cases b with
  | html => exact Html.container_places scene node children
  | tailwind => exact Tailwind.container_places scene node children
  | flutter => exact Flutter.container_places scene node children
  | swiftUi => exact SwiftUi.container_places scene node children
  | compose => exact Compose.container_places scene node children

/-! ### The tree of a selection -/

/-- The tree of a selection with its vector subtrees marked and the answers of the design tool
written into it, subtree by subtree. -/
def annotatedTree (tree : AltTree) (iconSize : Float) (answers : List (Nat × Annotations)) :
    AltTree :=
  answers.foldl (fun t answer => (applyAnnotations t answer.1 answer.2).1)
    (classifyVectors tree iconSize)

theorem annotatedTree_sameSkeleton (tree : AltTree) (iconSize : Float)
    (answers : List (Nat × Annotations)) :
    SameSkeleton tree (annotatedTree tree iconSize answers) :=
  (classifyVectors_sameSkeleton _ _).trans
    (SameSkeleton.foldl _ (fun t _ => applyAnnotations_sameSkeleton t _ _) answers _)

section Views

variable {β : Type} (view : AltNode → β)

variable (flagged : ∀ n b, view { n with canFlattenToVector := b } = view n)
  (bound : ∀ table n, view (n.bindPaints table) = view n)
  (marked : ∀ n markup, view { n with embeddedVectorMarkup := some markup } = view n)

include bound marked in
/-- Writing answers in binds paints and stores markup, so every view of a node that those two
keep is kept. -/
theorem applyAnnotations_view (t : AltTree) (root : Nat) (a : Annotations) (i : Nat) :
    (((applyAnnotations t root a).1).get? i).map view = (t.get? i).map view := by
  unfold applyAnnotations
  dsimp only
  refine (get?_foldl_view view _ (fun t x i => get?_modify_view view t x.1 (marked · _) i) _ _
    i).trans ?_
  split
  · rfl
  · exact get?_foldl_view view _ (fun t id i => get?_modify_view view t id (bound _) i) _ t i

include flagged bound marked in
/-- The tree of a selection, marked and answered, shows every view of a node that marking,
binding paints and storing markup keep as normalisation left it. -/
theorem annotatedTree_view (tree : AltTree) (iconSize : Float)
    (answers : List (Nat × Annotations)) (i : Nat) :
    ((annotatedTree tree iconSize answers).get? i).map view = (tree.get? i).map view := by
  refine (get?_foldl_view view _ (fun t x i => applyAnnotations_view view bound marked t x.1 x.2 i)
    answers _ i).trans ?_
  exact classifyVectors_view view flagged tree iconSize i

end Views

/-- The tree a whole pass builds, however it is marked and answered, is well formed and has
every node under a root. -/
theorem Visited.annotatedTree_covered {roots : List DesignNode} {s : NormState}
    (visited : Visited none 0.0 roots NormState.start s) (iconSize : Float)
    (answers : List (Nat × Annotations)) :
    (annotatedTree s.tree iconSize answers).WellFormed ∧
      ∀ i n, (annotatedTree s.tree iconSize answers).get? i = some n →
        ∃ r ∈ (annotatedTree s.tree iconSize answers).roots,
          (annotatedTree s.tree iconSize answers).Reaches r i := by
  have same := annotatedTree_sameSkeleton s.tree iconSize answers
  exact ⟨visited.wellFormed.of_sameSkeleton same,
    same.covered (covered_of_preorder visited.preorder)⟩

/-! ### The contract -/

/-- Emission over the tree of any selection, with its vector subtrees marked and any answers
written in, under any run configuration and for any target: a target's method is called for a
node exactly when it is dispatched (each proper ancestor a container not drawn as one vector,
and the node not such a vector without markup); a node drawn as one vector is drawn from its
markup, or emits nothing and warns about nothing when it has none; every warning is about a
dispatched node; and every container holds the non-empty children it is handed where the
target's renderer prints them, in paint order for markup, and as the flow children in paint
order followed by the absolute ones in paint order for the other targets. -/
theorem selection_emission_contract (roots : List DesignNode) (config : RunConfig)
    (palette : Palette) (iconSize : Float) (answers : List (Nat × Annotations))
    (b : BackendKind) :
    ∃ tree diagnostics, normalizeRoots roots false = .ok (tree, diagnostics) ∧
      let scene : Scene := ⟨annotatedTree tree iconSize answers, config, palette⟩
      (∀ i, i ∈ recordedCalls ((emitRoots b.target.recorded scene).run #[]).2.toList ↔
        Dispatched scene.tree config i) ∧
      (∀ fuel i n, scene.tree.get? i = some n → n.canFlattenToVector = true →
        config.embedVectors = true →
        (∀ markup, n.embeddedVectorMarkup = some markup →
          emitNode b.target (fuel + 1) i scene =
            (b.target.vector n markup >>= fun f =>
              pure (if config.showLayerNames && !f.isEmpty then b.target.withLayerName n f
                else f)) scene) ∧
        (n.embeddedVectorMarkup = none →
          ∀ ds, (emitNode b.target (fuel + 1) i scene).run ds = (Fragment.empty, ds))) ∧
      (∀ d ∈ (emitTree b.target scene).2, d.severity = .warning ∧
        ∃ i, d.node = some i ∧ Dispatched scene.tree config i) ∧
      ∀ node children, Yields scene (b.Places node.layout (keptChildren children)
        (keptAt .flow children) (keptAt .absolute children)) (b.target.container node children) := by
  obtain ⟨s, run, visited⟩ := normalizeRoots_spec roots
  obtain ⟨wf, covered⟩ := visited.annotatedTree_covered iconSize answers
  have warns := BackendKind.target_warnsAbout b
  refine ⟨s.tree, s.diagnostics.toList, run, mem_recordedCalls_iff warns _ wf covered,
    fun fuel i n found flat embed => ⟨fun markup exported => ?_, fun missing ds => ?_⟩,
    emitTree_warnings_dispatched warns _ wf covered,
    fun node children => b.container_places _ node children⟩
  · exact emitNode_flattened_markup b.target fuel found flat embed exported
  · exact emitNode_flattened_none b.target fuel found flat embed missing ds

end Handoff
