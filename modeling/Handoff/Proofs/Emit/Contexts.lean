/-
Module: Handoff.Proofs.Emit.Contexts
Purpose: Every emitted child sits in the context its placement needs. Over the tree of any
  selection, under any run configuration and for every target, the output of a child placed at
  its own coordinates is written out directly inside an overlay element of its parent's output,
  with the target's placement mark, and the output of a child that fills along its parent's
  flow directly inside the element of that flow, with the target's stretch mark. For Flutter
  that element is the layout's flex widget, which is a wrap when the layout wraps: the
  expanded child then sits in a wrap.
Main exports: AltNode.placement, annotatedTree_placement, Yields.bind_result, emitNode_container,
  AltNode.FillsFlow, BackendKind.PlacedMark, BackendKind.StretchMark, emitted_layout_contexts.
-/
import Handoff.Proofs.Emit.Layouts
import Handoff.Proofs.Emit.Steady
import Handoff.Proofs.Emit.Contract
import Handoff.Proofs.Normalize.Flow

namespace Handoff

open AltTree

/-! ### Answers keep where a node is placed -/

/-- What placing a node in its parent decides: how it is placed, how it is sized and its own
layout. -/
def AltNode.placement (n : AltNode) : Positioning × ChildSizing × Option LayoutDescriptor :=
  (n.positioning, n.sizing, n.layout)

/-- The tree of a selection, marked and answered, places every node as normalisation did. -/
theorem annotatedTree_placement (tree : AltTree) (iconSize : Float)
    (answers : List (Nat × Annotations)) (i : Nat) :
    ((annotatedTree tree iconSize answers).get? i).map AltNode.placement =
      (tree.get? i).map AltNode.placement :=
  annotatedTree_view AltNode.placement (fun _ _ => rfl) (fun _ _ => rfl) (fun _ _ => rfl) tree
    iconSize answers i

/-! ### The output of a container -/

/-- A step whose result is fixed, followed by a step that yields `P` on that result. -/
theorem Yields.bind_result {α β : Type} {scene : Scene} {P : β → Prop} {m : Emit α} {a : α}
    {f : α → Emit β} (result : ∀ ds, ((m scene).run ds).1 = a) (rest : Yields scene P (f a)) :
    Yields scene P (m >>= f) :=
  ⟨fun ds => by
    show P ((f ((m scene).run ds).1 scene).run ((m scene).run ds).2).1
    rw [result ds]
    exact rest.gives _⟩

/-- Emission below a container it descends into hands the target's container method each child
that is a node, with that child's own output; naming the layer comes after. -/
theorem emitNode_container {target : Target} (steady : target.Steady) {scene : Scene}
    {fuel p : Nat} {m : AltNode} (found : scene.tree.get? p = some m)
    (into : scene.config.descendsInto m = true) {P : Fragment → Prop}
    (named : ∀ r, P r → P (target.withLayerName m r))
    (contained : Yields scene P (target.container m (m.children.filterMap fun c =>
      (scene.tree.get? c).map (·, ((emitNode target fuel c scene).run #[]).1)))) :
    Yields scene P (emitNode target (fuel + 1) p) := by
  obtain ⟨container, drawn⟩ := (RunConfig.descendsInto_iff _ _).1 into
  have flat : (m.canFlattenToVector && scene.config.embedVectors) = false := by
    cases embed : scene.config.embedVectors
    · simp
    · simp [drawn embed]
  rw [emitNode]
  refine Yields.reads_bind ?_
  simp only [found, flat, Bool.false_eq_true, if_false, container]
  -- each child's emission gives its output, whatever the warnings before it
  refine Yields.bind_result (Steady.filterMapM_result (fun c =>
    Steady.bind (emitNode_steady steady scene fuel c) fun _ => Steady.pure _))
    (Yields.bind contained fun f has => ?_)
  -- naming the layer keeps what the container gives
  split
  · exact Yields.pure (named f has)
  · exact Yields.pure has

/-! ### The contexts of the children -/

/-- A node fills along the main axis of the flow `l`: horizontally in a row, vertically in a
column. -/
def AltNode.FillsFlow (n : AltNode) (l : LayoutDescriptor) : Prop :=
  match l.direction with
  | .row => n.sizing.horizontal = .fill
  | .column => n.sizing.vertical = .fill

/-- The mark a target puts on a child placed at its own coordinates: Flutter wraps it in a
positioned widget, outermost; SwiftUI and Compose give it an offset. -/
def BackendKind.PlacedMark : BackendKind → Fragment → Prop
  | .flutter, c => c.outermost = some "Positioned"
  | .swiftUi, c | .compose, c => "offset" ∈ c.modifiers.map Prod.fst
  | .html, _ | .tailwind, _ => True

/-- The mark a target puts on a child that stretches along its parent's flow: Flutter wraps it
in an expanded widget, outermost; Compose gives it a weight. -/
def BackendKind.StretchMark : BackendKind → Fragment → Prop
  | .flutter, c => c.outermost = some "Expanded"
  | .compose, c => "weight" ∈ c.modifiers.map Prod.fst
  | .html, _ | .tailwind, _ | .swiftUi, _ => True

theorem BackendKind.Marks.placed {b : BackendKind} {scene : Scene} {n : AltNode} {c : Fragment}
    (marks : b.Marks scene n c) (absolute : scene.isAbsolute n = true) : b.PlacedMark c := by
  cases b with
  | html | tailwind => trivial
  | flutter => exact marks.1 absolute
  | swiftUi => exact marks absolute
  | compose => exact marks.1 absolute

theorem BackendKind.Marks.stretched {b : BackendKind} {scene : Scene} {n : AltNode} {c : Fragment}
    (marks : b.Marks scene n c) (inFlow : scene.isAbsolute n = false)
    (stretched : scene.stretches n = true) : b.StretchMark c := by
  cases b with
  | html | tailwind | swiftUi => trivial
  | flutter => exact marks.2 inFlow stretched
  | compose => exact marks.2 stretched

/-- A child that fills along the flow of its parent's layout stretches along it. -/
theorem Scene.stretches_of_fillsFlow {scene : Scene} {n : AltNode} {l : LayoutDescriptor}
    (parent : scene.parentLayout n = some l) (fills : n.FillsFlow l) :
    scene.stretches n = true := by
  unfold AltNode.FillsFlow at fills
  unfold Scene.stretches fillsMainAxis dims
  rw [parent]
  cases direction : l.direction <;> simp_all [Dim.isFill]

/-- Emission over the tree of any selection, with its vector subtrees marked and any answers
written in, under any run configuration and for any target. A node's output at a depth does not
depend on the warnings raised before it. For every child `c`, holding the node `n`, of a
container `m` that emission descends into, whose output is not empty: when `n` is placed at its
own coordinates, its output is written out directly inside an overlay element within the
container's output (`BackendKind.OverlayBox`) and carries the target's placement mark; when `n`
fills along the main axis of `m`'s layout `l`, its output is written out directly inside the
element of `l` within the container's output (`BackendKind.FlowBox`) and carries the target's
stretch mark. For Flutter the element of a wrapping layout is a wrap. -/
theorem emitted_layout_contexts (roots : List DesignNode) (config : RunConfig) (palette : Palette)
    (iconSize : Float) (answers : List (Nat × Annotations)) (b : BackendKind) :
    ∃ tree diagnostics, normalizeRoots roots false = .ok (tree, diagnostics) ∧
      let scene : Scene := ⟨annotatedTree tree iconSize answers, config, palette⟩
      let output := fun fuel i => ((emitNode b.target fuel i scene).run #[]).1
      (∀ fuel i ds, ((emitNode b.target fuel i scene).run ds).1 = output fuel i) ∧
      ∀ fuel p m c n, scene.tree.get? p = some m → config.descendsInto m = true →
        c ∈ m.children → scene.tree.get? c = some n → (output fuel c).isEmpty = false →
        (n.positioning = .absolute → ∃ g, b.Shows (output (fuel + 1) p) g ∧
          output fuel c ∈ b.printedChildren g ∧ b.OverlayBox g ∧ b.PlacedMark (output fuel c)) ∧
        ∀ l, m.layout = some l → n.FillsFlow l → ∃ g, b.Shows (output (fuel + 1) p) g ∧
          output fuel c ∈ b.printedChildren g ∧ b.FlowBox l g ∧ b.StretchMark (output fuel c) := by
  obtain ⟨s, run, visited⟩ := normalizeRoots_spec roots
  obtain ⟨wf, -⟩ := visited.annotatedTree_covered iconSize answers
  obtain ⟨tree, diagnostics, run', fills⟩ := normalizeRoots_fill_in_flow roots
  obtain ⟨rfl, -⟩ : tree = s.tree ∧ diagnostics = s.diagnostics.toList := by
    simpa using run'.symm.trans run
  refine ⟨s.tree, _, run', ?_⟩
  intro scene output
  have steady := emitNode_steady (BackendKind.target_steady b) scene
  refine ⟨fun fuel i ds => (steady fuel i).result ds, ?_⟩
  intro fuel p m c n atP into child atC shown
  -- the children handed to the container: every child that is a node, with its output
  let kids := m.children.filterMap fun c => (scene.tree.get? c).map (·, output fuel c)
  have inner : ∀ x ∈ kids, x.1.isRoot = false := by
    intro x mem
    obtain ⟨c', child', found⟩ := List.mem_filterMap.1 mem
    obtain ⟨n', atC', rfl⟩ := Option.map_eq_some_iff.1 found
    obtain ⟨-, n'', atC'', up⟩ := wf.childLink p m atP c' child'
    obtain rfl : n'' = n' := Option.some.inj (atC''.symm.trans atC')
    simp [AltNode.isRoot, up]
  have arranged : b.Arranges m.layout (keptAt .flow kids) (keptAt .absolute kids)
      (output (fuel + 1) p) :=
    (emitNode_container (BackendKind.target_steady b) atP into
      (fun _ arranged => arranged.withLayerName m)
      (b.container_arranges scene m kids inner)).gives #[]
  have kept : output fuel c ∈ keptAt n.positioning kids :=
    mem_keptAt.2 ⟨⟨n, List.mem_filterMap.2 ⟨c, child, by simp [atC]⟩, rfl⟩, shown⟩
  have marks := (emitNode_marks b scene fuel c n atC).gives #[] shown
  -- the child is no root: its parent is `p`
  obtain ⟨-, n', atC', up⟩ := wf.childLink p m atP c child
  obtain rfl : n = n' := Option.some.inj (atC.symm.trans atC')
  refine ⟨fun absolute => ?_, fun l layout fillsFlow => ?_⟩
  · obtain ⟨g, shows, printed, box⟩ := arranged.1 _ (absolute ▸ kept)
    exact ⟨g, shows, printed, box, marks.placed (by simp [Scene.isAbsolute, AltNode.isRoot, up,
      absolute])⟩
  · -- normalisation placed a filling node in the flow, and answers keep that
    have inFlow : n.positioning = .flow := by
      have placed := annotatedTree_placement s.tree iconSize answers c
      rw [show (annotatedTree s.tree iconSize answers).get? c = some n from atC,
        Option.map_some] at placed
      obtain ⟨n₀, atC₀, same⟩ := Option.map_eq_some_iff.1 placed.symm
      simp only [AltNode.placement, Prod.mk.injEq] at same
      have fill : n₀.sizing.horizontal = .fill ∨ n₀.sizing.vertical = .fill := by
        unfold AltNode.FillsFlow at fillsFlow
        rw [same.2.1]
        split at fillsFlow
        · exact .inl fillsFlow
        · exact .inr fillsFlow
      rw [← same.1]
      exact fills c n₀ atC₀ fill
    have parent : scene.parentLayout n = some l := by
      simp [Scene.parentLayout, AltTree.parentOf, wf.slot c n atC, atC, up, atP, layout]
    obtain ⟨g, shows, printed, box⟩ := arranged.2 l layout _ (inFlow ▸ kept)
    exact ⟨g, shows, printed, box, marks.stretched (by simp [Scene.isAbsolute, inFlow])
      (Scene.stretches_of_fillsFlow parent fillsFlow)⟩

end Handoff
