/-
Module: Handoff.Proofs.Emit.GapWarnings
Purpose: Emission reports every gap of its target. The targets meet a gap only where they draw
  it, and they rely on the shape normalisation gives every node: only a container is laid out,
  and a node has text content exactly when it is a text (`AltNode.Formed`); marking vector
  subtrees and writing answers in keep that shape. On such a node, the call a target makes
  raises a warning about the node for each gap the target has there, and the toolkits that
  stand a placeholder in for vector markup say so. Emission comes to every node it dispatches,
  so the warnings of a whole run hold all of these. Markup that spreads the children of a
  layout never uses its gap, and it reports nothing about a negative one there.
Main exports: AltNode.Formed, normalizeRoots_formed, annotatedTree_formed,
  WarnsOnly.keeps_warnings, Html.withLayout_spread_silent, Tailwind.withLayout_spread_silent,
  BackendKind.gap_callRaises, BackendKind.placeholder_callRaises, capability_gaps_warned.
-/
import Handoff.Proofs.Emit.NativeGaps
import Handoff.Proofs.Normalize.Placement

namespace Handoff

/-! ### The shape of a normalised node -/

/-- The shape normalisation gives a node: only a container is laid out, and a node has text
content exactly when it is a text. -/
structure AltNode.Formed (n : AltNode) : Prop where
  laidOut : n.layout.isSome → n.kind = .container
  written : n.text.isSome ↔ n.kind = .text

/-- Describing a node classifies its layout only for a container and builds its text only for
a text. -/
theorem describeNode_formed (a : NodeAttrs) (parent : Option ParentContext) (absorbed : Float)
    (k : Nat) (u : String) : (describeNode a parent absorbed k u).1.Formed := by
  constructor
  · intro laid
    simp only [describeNode] at laid ⊢
    split at laid <;> split at laid <;> simp_all
  · simp only [describeNode]
    split <;> split <;> simp_all

theorem placedNode_formed (t : AltTree) (parent : Option ParentContext) (absorbed : Float)
    (k : Nat) (a : NodeAttrs) (children : List Nat) (u : String) :
    (placedNode t parent absorbed k a children u).Formed := by
  have described := describeNode_formed a parent absorbed k u
  refine ⟨fun laid => described.laidOut ?_, described.written⟩
  simpa [placedNode_layout, describeNode_layout] using laid

/-- Every node of the tree a pass builds has the shape of a normalised node. -/
theorem normalizeRoots_formed {roots : List DesignNode} {tree : AltTree}
    {diagnostics : List Diagnostic} (run : normalizeRoots roots false = .ok (tree, diagnostics)) :
    ∀ i n, tree.get? i = some n → n.Formed := by
  obtain ⟨tree', diagnostics', run', ids, placed, -⟩ := normalizeRoots_placed roots
  obtain ⟨rfl, -⟩ : tree' = tree ∧ diagnostics' = diagnostics := by
    simpa [run] using run'.symm
  intro i n found
  -- the node at `i` is the one the `i`-th placement describes
  obtain ⟨p, atI, -⟩ := placement_of_get? ids found
  obtain ⟨mem, rfl⟩ := placement_of_getElem? ids atI
  obtain ⟨children, u, atP⟩ := placed p mem
  obtain rfl := Option.some.inj (found.symm.trans atP)
  exact placedNode_formed _ _ _ _ _ _ _

/-- Marking vectors and writing answers in keep the kind, the layout and the text of a node, so
the tree of a selection keeps the shape of its nodes. -/
theorem annotatedTree_formed {tree : AltTree} (formed : ∀ i n, tree.get? i = some n → n.Formed)
    (iconSize : Float) (answers : List (Nat × Annotations)) :
    ∀ i n, (annotatedTree tree iconSize answers).get? i = some n → n.Formed := by
  intro i n found
  have same := annotatedTree_view (fun n : AltNode => (n.kind, n.text.isSome, n.layout.isSome))
    (fun _ _ => rfl) (fun _ _ => rfl) (fun _ _ => rfl) tree iconSize answers i
  rw [found, Option.map_some] at same
  obtain ⟨m, original, viewed⟩ := Option.map_eq_some_iff.1 same.symm
  have was := formed i m original
  simp only [Prod.mk.injEq] at viewed
  obtain ⟨kind, text, layout⟩ := viewed
  exact ⟨fun laid => kind ▸ was.laidOut (layout ▸ laid), text ▸ kind ▸ was.written⟩

namespace AltNode.Formed

variable {n : AltNode} (formed : n.Formed)
include formed

theorem text_eq_some (isText : n.kind = .text) : ∃ content, n.text = some content :=
  Option.isSome_iff_exists.1 (formed.written.2 isText)

/-- A normalised node that is not text paints an image only as its top fill. -/
theorem imageOnTop (notText : n.kind ≠ .text) (paints : n.PaintsImage) : n.ImageOnTop := by
  rcases paints with ⟨-, top⟩ | ⟨content, written, -⟩
  · exact top
  · exact absurd (formed.written.1 (by simp [written])) notText

/-- A normalised text paints an image only in its runs. -/
theorem imageInRun {content : TextContent} (written : n.text = some content)
    (paints : n.PaintsImage) : n.ImageInRun content := by
  rcases paints with ⟨notText, -⟩ | ⟨content', written', inRun⟩
  · exact absurd (formed.written.1 (by simp [written])) notText
  · obtain rfl : content' = content := Option.some.inj (written'.symm.trans written)
    exact inRun

end AltNode.Formed

/-! ### A spread layout says nothing of its gap -/

/-- A step that warns about no node leaves the warnings as they were. -/
theorem WarnsOnly.keeps_warnings {α : Type} {scene : Scene} {m : Emit α}
    (silent : WarnsOnly scene (fun _ => False) m) (ds : Array Diagnostic) :
    ((m scene).run ds).2 = ds := by
  obtain ⟨new, grown, about⟩ := silent.appends ds
  have empty : new = [] :=
    List.eq_nil_iff_forall_not_mem.2 fun d mem => (about d mem).2.elim fun _ named => named.2
  apply Array.toList_inj.1
  rw [grown, empty, List.append_nil]

/-- Markup's flex declarations for a layout that spreads its children append no warning: a
negative gap there goes unreported. -/
theorem Html.withLayout_spread_silent (scene : Scene) (f : Fragment) (node : AltNode)
    (layout : LayoutDescriptor) (spread : layout.primaryAlign = .spaceBetween)
    (ds : Array Diagnostic) : ((Html.withLayout f node layout scene).run ds).2 = ds := by
  refine WarnsOnly.keeps_warnings ?_ ds
  simp -zeta -zetaHave only [Html.withLayout]
  lift_lets
  intro flex padded aligned wrapped column
  have spreads : (layout.primaryAlign != PrimaryAlign.spaceBetween) = false := by simp [spread]
  -- every branch skips the gap and reaches the padding, which only returns
  have alignedSilent : ∀ u g, WarnsOnly scene (fun _ => False) (aligned u g) := by
    intro u g
    simp only [aligned, padded, spreads, Bool.false_eq_true, if_false]
    split <;> exact WarnsOnly.pure _
  have wrappedSilent : ∀ u g, WarnsOnly scene (fun _ => False) (wrapped u g) := by
    intro u g
    simp only [wrapped]
    split <;> exact alignedSilent () _
  split <;> exact wrappedSilent () _

/-- The flex classes of a layout that spreads its children append no warning either. -/
theorem Tailwind.withLayout_spread_silent (scene : Scene) (f : Fragment) (node : AltNode)
    (layout : LayoutDescriptor) (spread : layout.primaryAlign = .spaceBetween)
    (ds : Array Diagnostic) : ((Tailwind.withLayout f node layout scene).run ds).2 = ds := by
  refine WarnsOnly.keeps_warnings ?_ ds
  simp -zeta -zetaHave only [Tailwind.withLayout]
  refine WarnsOnly.config.bind fun config => ?_
  lift_lets
  intro scales flex p padding aligned wrapped column
  have spreads : (layout.primaryAlign != PrimaryAlign.spaceBetween) = false := by simp [spread]
  have alignedSilent : ∀ u g, WarnsOnly scene (fun _ => False) (aligned u g) := by
    intro u g
    simp only [aligned, padding, spreads, Bool.false_eq_true, if_false]
    split
    · exact WarnsOnly.pure _
    · split
      · exact WarnsOnly.pure _
      · split <;> exact WarnsOnly.pure _
  have wrappedSilent : ∀ u g, WarnsOnly scene (fun _ => False) (wrapped u g) := by
    intro u g
    simp only [wrapped]
    split <;> exact alignedSilent () _
  split <;> exact wrappedSilent () _

/-! ### Every call raises what its target cannot say -/

/-- On a node with the shape of a normalised node that is not drawn as one vector, the call a
target makes raises a warning about the node for every gap the target has there. -/
theorem BackendKind.gap_callRaises (b : BackendKind) (scene : Scene) {n : AltNode}
    (formed : n.Formed) (drawn : (n.canFlattenToVector && scene.config.embedVectors) = false)
    (gap : b.Gap n) : b.target.CallRaises scene (Diagnostic.WarnsAbout n.id) n := by
  -- such a node gets no vector call
  have vector : (n.canFlattenToVector && scene.config.embedVectors) = true →
      ∀ markup, n.embeddedVectorMarkup = some markup →
        Raises scene (Diagnostic.WarnsAbout n.id) (b.target.vector n markup) := by
    intro flat
    rw [drawn] at flat
    cases flat
  cases b with
  | html =>
      obtain ⟨layout, laid, negative, spread⟩ := gap
      have container := formed.laidOut (by simp [laid])
      exact ⟨vector, fun _ isText => absurd (isText.symm.trans container) (by decide),
        fun _ _ children => Html.container_raises scene n children layout laid negative spread,
        fun _ _ notContainer => absurd container notContainer⟩
  | tailwind =>
      obtain ⟨layout, laid, negative, spread⟩ := gap
      have container := formed.laidOut (by simp [laid])
      exact ⟨vector, fun _ isText => absurd (isText.symm.trans container) (by decide),
        fun _ _ children => Tailwind.container_raises scene n children layout laid negative spread,
        fun _ _ notContainer => absurd container notContainer⟩
  | flutter =>
      exact ⟨vector, fun _ _ => Flutter.text_raises scene n gap,
        fun _ _ children => Flutter.container_raises scene n children gap,
        fun _ _ _ => Flutter.shape_raises scene n gap⟩
  | swiftUi =>
      refine ⟨vector, fun _ isText => ?_, fun _ isContainer children => ?_,
        fun _ notText notContainer => ?_⟩
      · obtain ⟨content, written⟩ := formed.text_eq_some isText
        refine SwiftUi.text_raises scene n content written ?_
        rcases gap with inner | ⟨layout, laid, -⟩ | paints
        · exact .inl inner
        · exact absurd ((formed.laidOut (by simp [laid])).symm.trans isText) (by decide)
        · exact .inr (formed.imageInRun written paints)
      · have notText : n.kind ≠ .text := by simp [isContainer]
        refine SwiftUi.container_raises scene n children ?_
        rcases gap with inner | wraps | paints
        · exact .inr (.inl inner)
        · exact .inl wraps
        · exact .inr (.inr ⟨notText, formed.imageOnTop notText paints⟩)
      · refine SwiftUi.shape_raises scene n ?_
        rcases gap with inner | ⟨layout, laid, -⟩ | paints
        · exact .inl inner
        · exact absurd (formed.laidOut (by simp [laid])) notContainer
        · exact .inr ⟨notText, formed.imageOnTop notText paints⟩
  | compose =>
      refine ⟨vector, fun _ isText => ?_, fun _ isContainer children => ?_,
        fun _ notText _ => ?_⟩
      · obtain ⟨content, written⟩ := formed.text_eq_some isText
        refine Compose.text_raises scene n content written ?_
        rcases gap with inner | many | paints
        · exact .inl (.inl inner)
        · exact .inl (.inr many)
        · exact .inr (formed.imageInRun written paints)
      · have notText : n.kind ≠ .text := by simp [isContainer]
        exact Compose.container_raises scene n children notText
          (Or.imp_right (Or.imp_right (formed.imageOnTop notText)) gap)
      · exact Compose.shape_raises scene n notText
          (Or.imp_right (Or.imp_right (formed.imageOnTop notText)) gap)

/-- On a node drawn as one vector, the toolkits that stand a placeholder in for its markup warn
that they do. -/
theorem BackendKind.placeholder_callRaises (b : BackendKind) (scene : Scene) (n : AltNode)
    (flat : (n.canFlattenToVector && scene.config.embedVectors) = true) {message : String}
    (placeholder : b.vectorPlaceholder = some message) :
    b.target.CallRaises scene (· = Diagnostic.warning n.id message) n := by
  -- such a node gets only a vector call
  have other : ∀ {p : Prop}, (n.canFlattenToVector && scene.config.embedVectors) = false → p := by
    intro p drawn
    rw [flat] at drawn
    cases drawn
  cases b with
  | swiftUi =>
      cases placeholder
      exact ⟨fun _ markup _ => SwiftUi.vector_raises scene n markup, fun drawn => other drawn,
        fun drawn => other drawn, fun drawn => other drawn⟩
  | compose =>
      cases placeholder
      exact ⟨fun _ markup _ => Compose.vector_raises scene n markup, fun drawn => other drawn,
        fun drawn => other drawn, fun drawn => other drawn⟩
  | html | tailwind | flutter => cases placeholder

/-! ### A whole run -/

/-- Emission over the tree of any selection, with its vector subtrees marked and any answers
written in, under any run configuration and for any target: for every node it dispatches that
is not drawn as one vector, it warns about the node for each gap the target has there (a
negative gap placing the children of a layout, for markup; an inner shadow, a wrapping layout, a
second drop shadow or an image paint, for the toolkits without them); and for every node it
draws as one vector, SwiftUI and Compose give the warning of the placeholder they stand in for
its markup. -/
theorem capability_gaps_warned (roots : List DesignNode) (config : RunConfig) (palette : Palette)
    (iconSize : Float) (answers : List (Nat × Annotations)) (b : BackendKind) :
    ∃ tree diagnostics, normalizeRoots roots false = .ok (tree, diagnostics) ∧
      let scene : Scene := ⟨annotatedTree tree iconSize answers, config, palette⟩
      ∀ i n, scene.tree.get? i = some n → Dispatched scene.tree config i →
        ((n.canFlattenToVector && config.embedVectors) = false → b.Gap n →
          ∃ d ∈ (emitTree b.target scene).2, d.WarnsAbout i) ∧
        ((n.canFlattenToVector && config.embedVectors) = true → ∀ message,
          b.vectorPlaceholder = some message →
          Diagnostic.warning i message ∈ (emitTree b.target scene).2) := by
  obtain ⟨s, run, visited⟩ := normalizeRoots_spec roots
  obtain ⟨wf, covered⟩ := visited.annotatedTree_covered iconSize answers
  have formed := annotatedTree_formed (normalizeRoots_formed run) iconSize answers
  have warns := BackendKind.target_warnsAbout b
  refine ⟨s.tree, s.diagnostics.toList, run, fun i n found dispatched => ?_⟩
  -- the node sits at its own id
  obtain rfl : n.id = i := wf.slot i n found
  refine ⟨fun drawn gap => ?_, fun flat message placeholder => ?_⟩
  · exact emitTree_raises warns _ wf covered found dispatched
      (b.gap_callRaises _ (formed _ n found) drawn gap)
  · obtain ⟨d, mem, rfl⟩ := emitTree_raises warns _ wf covered found dispatched
      (b.placeholder_callRaises _ n flat placeholder)
    exact mem

end Handoff
