/-
Module: Handoff.Proofs.Emit.Gaps
Purpose: What each target cannot say, and the warning it gives for it. The design tool can ask
  for what a target lacks: a negative gap between the children of a layout (markup), an inner
  shadow (Flutter, SwiftUI, Compose), a wrapping layout (SwiftUI), a second drop shadow
  (Compose), an image paint (SwiftUI, Compose). `BackendKind.Gap` lists them as a node uses
  them. Each is met in its own helper, and the helper warns about the node there: markup's flex
  declarations, which leave the gap out only where they place the children by it and not
  where the children are spread; Flutter's box decoration and its text. This module holds the
  vocabulary, the loop lemmas it needs, and the markup and Flutter targets.
Main exports: Effect.dropShadow?, AltNode.dropShadows, AltNode.HasInnerShadow,
  AltNode.ImageOnTop, AltNode.ImageInRun, AltNode.PaintsImage, BackendKind.Gap,
  BackendKind.vectorPlaceholder, Yields.forIn_view, nativeTextColor_raises,
  Html.container_raises, Tailwind.container_raises, Flutter.text_raises,
  Flutter.shape_raises, Flutter.container_raises.
-/
import Handoff.Proofs.Emit.Raises

namespace Handoff

/-! ### What a target cannot say -/

/-- The shadow a drop-shadow effect casts. -/
def Effect.dropShadow? : Effect → Option Shadow
  | .dropShadow s => some s
  | _ => none

@[simp] theorem Effect.dropShadow?_dropShadow (s : Shadow) :
    (Effect.dropShadow s).dropShadow? = some s := rfl

@[simp] theorem Effect.dropShadow?_innerShadow (s : Shadow) :
    (Effect.innerShadow s).dropShadow? = none := rfl

@[simp] theorem Effect.dropShadow?_layerBlur (radius : Float) :
    (Effect.layerBlur radius).dropShadow? = none := rfl

@[simp] theorem Effect.dropShadow?_backgroundBlur (radius : Float) :
    (Effect.backgroundBlur radius).dropShadow? = none := rfl

/-- The drop shadows of a node, in order. -/
def AltNode.dropShadows (n : AltNode) : List Shadow := n.effects.filterMap Effect.dropShadow?

/-- Counting the drop shadows of a list of effects one by one, from `k`. -/
theorem Effect.foldl_count_dropShadows (effects : List Effect) (k : Nat) :
    effects.foldl (fun k e => if e.dropShadow?.isSome then k + 1 else k) k =
      k + (effects.filterMap Effect.dropShadow?).length := by
  induction effects generalizing k with
  | nil => rfl
  | cons e rest ih =>
      cases e
      case dropShadow s =>
        simp only [List.foldl_cons, List.filterMap_cons, Effect.dropShadow?_dropShadow, ih,
          Option.isSome_some, if_true, List.length_cons]
        rw [Nat.add_assoc, Nat.add_comm 1]
      all_goals simp [List.filterMap_cons, ih]

/-- The node has an inner shadow. -/
def AltNode.HasInnerShadow (n : AltNode) : Prop := ∃ s, Effect.innerShadow s ∈ n.effects

/-- The top fill of the node is an image. -/
def AltNode.ImageOnTop (n : AltNode) : Prop :=
  ∃ fill image, topPaint n.paint.fills = some fill ∧ fill.kind = .image image

/-- One of the runs of `content`, as the node paints them, is filled with an image. -/
def AltNode.ImageInRun (n : AltNode) (content : TextContent) : Prop :=
  ∃ run ∈ content.runs, ∃ fill image, runFill n run = some fill ∧ fill.kind = .image image

/-- The node paints an image: as the top fill of a node that is not text, or as the fill of one
of its text runs. -/
def AltNode.PaintsImage (n : AltNode) : Prop :=
  (n.kind ≠ .text ∧ n.ImageOnTop) ∨ ∃ content, n.text = some content ∧ n.ImageInRun content

/-- What a target cannot say of a node: markup a negative gap of a layout that places its
children by the gap (one that spreads them never uses it); Flutter an inner shadow; SwiftUI an
inner shadow, a wrapping layout or an image paint; Compose an inner shadow, more than one drop
shadow or an image paint. -/
def BackendKind.Gap : BackendKind → AltNode → Prop
  | .html, n | .tailwind, n =>
      ∃ layout, n.layout = some layout ∧ layout.gap < 0.0 ∧ layout.primaryAlign ≠ .spaceBetween
  | .flutter, n => n.HasInnerShadow
  | .swiftUi, n =>
      n.HasInnerShadow ∨ (∃ layout, n.layout = some layout ∧ layout.wrap = true) ∨ n.PaintsImage
  | .compose, n => n.HasInnerShadow ∨ 1 < n.dropShadows.length ∨ n.PaintsImage

/-- The warning a target gives where it stands a placeholder in for vector markup. -/
def BackendKind.vectorPlaceholder : BackendKind → Option String
  | .swiftUi => some "inline SVG is not supported by SwiftUI; emitted an asset image placeholder"
  | .compose =>
      some "inline SVG is not supported by Compose; emitted a drawable resource placeholder"
  | _ => none

/-! ### Raising on the way -/

theorem Raises.warnAbout {scene : Scene} (node : AltNode) (message : String) :
    Raises scene (Diagnostic.WarnsAbout node.id) (Emit.warn node message) :=
  (Raises.warn node message).mono fun _ named => named ▸ Diagnostic.warnsAbout_warning _ _

/-- A loop whose every step goes on, to a state whose view the member and the view of the state
before fix, gives the fold of those views. -/
theorem Yields.forIn_view {β γ δ : Type} {scene : Scene} {xs : List γ} {init : β}
    {body : γ → β → Emit (ForInStep β)} (view : β → δ) (step : δ → γ → δ)
    (each : ∀ x b, Yields scene (fun r => ∃ b', r = .yield b' ∧ view b' = step (view b) x)
      (body x b)) :
    Yields scene (fun r => view r = xs.foldl step (view init)) (ForIn.forIn xs init body) := by
  induction xs generalizing init with
  | nil => exact Yields.pure rfl
  | cons x rest ih =>
      rw [List.forIn_cons]
      refine Yields.bind (each x init) ?_
      rintro _ ⟨b, rfl, stepped⟩
      simpa [stepped] using @ih b

/-- A toolkit without image text reports a run filled with an image. -/
theorem nativeTextColor_raises (scene : Scene) (node : AltNode) (run : TextRun) (toolkit : String)
    {fill : PaintEntry} {image : ImageFill} (filled : runFill node run = some fill)
    (isImage : fill.kind = .image image) :
    Raises scene (Diagnostic.WarnsAbout node.id) (nativeTextColor node run toolkit) := by
  simp only [nativeTextColor, filled, isImage]
  exact Raises.bind_left (Raises.warnAbout node _) fun _ => WarnsOnly.pure _

/-! ### Markup -/

/-- Markup's flex declarations report a negative gap where the children are placed by it. -/
theorem Html.withLayout_raises (scene : Scene) (f : Fragment) (node : AltNode)
    (layout : LayoutDescriptor) (negative : layout.gap < 0.0)
    (spread : layout.primaryAlign ≠ .spaceBetween) :
    Raises scene (Diagnostic.WarnsAbout node.id) (Html.withLayout f node layout) := by
  simp -zeta -zetaHave only [Html.withLayout]
  lift_lets
  intro flex padded aligned wrapped column
  -- the gap is checked only off space-between, and the padding after it only returns
  have alignedRaises : ∀ u g, Raises scene (Diagnostic.WarnsAbout node.id) (aligned u g) := by
    intro u g
    have spreads : (layout.primaryAlign != PrimaryAlign.spaceBetween) = true := by simpa using spread
    simp only [aligned, spreads, negative, if_true]
    refine Raises.bind_left (Raises.warnAbout node _) fun _ => ?_
    simp only [padded]
    split <;> exact WarnsOnly.pure _
  have wrappedRaises : ∀ u g, Raises scene (Diagnostic.WarnsAbout node.id) (wrapped u g) := by
    intro u g
    simp only [wrapped]
    split <;> exact alignedRaises () _
  split <;> exact wrappedRaises () _

theorem Html.container_raises (scene : Scene) (node : AltNode)
    (children : List (AltNode × Fragment)) (layout : LayoutDescriptor)
    (laid : node.layout = some layout) (negative : layout.gap < 0.0)
    (spread : layout.primaryAlign ≠ .spaceBetween) :
    Raises scene (Diagnostic.WarnsAbout node.id) (Html.container node children) := by
  obtain ⟨⟨shaped, placed⟩, -⟩ :=
    helpers_closed (WarnsOnly.closed scene fun _ => True) node trivial
  simp -zeta -zetaHave only [Html.container]
  refine Raises.reads_bind ?_
  lift_lets
  intro f styled
  -- the styles after the layout only append
  have styledKeeps : ∀ u g, WarnsOnly scene (fun _ => True) (styled u g) :=
    fun u g => (shaped _).bind fun _ => placed _
  simp only [laid]
  exact Raises.bind_left (Html.withLayout_raises scene f node layout negative spread)
    fun g => by split <;> exact styledKeeps () _

/-- The flex classes report a negative gap where the children are placed by it. -/
theorem Tailwind.withLayout_raises (scene : Scene) (f : Fragment) (node : AltNode)
    (layout : LayoutDescriptor) (negative : layout.gap < 0.0)
    (spread : layout.primaryAlign ≠ .spaceBetween) :
    Raises scene (Diagnostic.WarnsAbout node.id) (Tailwind.withLayout f node layout) := by
  simp -zeta -zetaHave only [Tailwind.withLayout]
  refine Raises.bind_right fun config => ?_
  lift_lets
  intro scales flex p padding aligned wrapped column
  -- as for markup: the gap is checked only off space-between, and the padding only returns
  have alignedRaises : ∀ u g, Raises scene (Diagnostic.WarnsAbout node.id) (aligned u g) := by
    intro u g
    have spreads : (layout.primaryAlign != PrimaryAlign.spaceBetween) = true := by simpa using spread
    simp only [aligned, spreads, negative, if_true]
    refine Raises.bind_left (Raises.warnAbout node _) fun _ => ?_
    simp only [padding]
    split
    · exact WarnsOnly.pure _
    · split
      · exact WarnsOnly.pure _
      · split <;> exact WarnsOnly.pure _
  have wrappedRaises : ∀ u g, Raises scene (Diagnostic.WarnsAbout node.id) (wrapped u g) := by
    intro u g
    simp only [wrapped]
    split <;> exact alignedRaises () _
  split <;> exact wrappedRaises () _

theorem Tailwind.container_raises (scene : Scene) (node : AltNode)
    (children : List (AltNode × Fragment)) (layout : LayoutDescriptor)
    (laid : node.layout = some layout) (negative : layout.gap < 0.0)
    (spread : layout.primaryAlign ≠ .spaceBetween) :
    Raises scene (Diagnostic.WarnsAbout node.id) (Tailwind.container node children) := by
  obtain ⟨-, ⟨shaped, placed⟩, -⟩ :=
    helpers_closed (WarnsOnly.closed scene fun _ => True) node trivial
  simp -zeta -zetaHave only [Tailwind.container]
  refine Raises.reads_bind ?_
  lift_lets
  intro f styled
  have styledKeeps : ∀ u g, WarnsOnly scene (fun _ => True) (styled u g) :=
    fun u g => (shaped _).bind fun _ => placed _
  simp only [laid]
  exact Raises.bind_left (Tailwind.withLayout_raises scene f node layout negative spread)
    fun g => by split <;> exact styledKeeps () _

/-! ### Flutter -/

/-- A box decoration reports an inner shadow in its loop over the effects. -/
theorem Flutter.decoration_raises (scene : Scene) (node : AltNode) (inner : node.HasInnerShadow) :
    Raises scene (Diagnostic.WarnsAbout node.id) (Flutter.decoration node) := by
  simp -zeta -zetaHave only [Flutter.decoration]
  lift_lets
  intro d shadows result looped cornered stroked
  obtain ⟨s, mem⟩ := inner
  -- the loop over the effects warns at the inner shadow, and only returns after it
  have loopedRaises : ∀ u g, Raises scene (Diagnostic.WarnsAbout node.id) (looped u g) := by
    intro u g
    simp only [looped]
    refine Raises.bind_left (Raises.forIn_of_mem mem
      (fun b => Raises.bind_left (Raises.warnAbout node _) fun _ => WarnsOnly.pure _)
      (fun effect b => ?_) fun effect b => ?_) fun found => ?_
    · split
      all_goals first
        | exact WarnsOnly.pure _
        | exact (WarnsOnly.warn trivial _).bind fun _ => WarnsOnly.pure _
    · split
      all_goals first
        | exact Yields.pure ⟨_, rfl⟩
        | exact Yields.bind_any fun _ => Yields.pure ⟨_, rfl⟩
    · simp only [result]
      split <;> exact WarnsOnly.pure _
  -- the corners and the stroke before it go on to it
  have corneredRaises : ∀ u g, Raises scene (Diagnostic.WarnsAbout node.id) (cornered u g) := by
    intro u g
    simp only [cornered]
    split
    · exact loopedRaises () _
    · split <;> exact loopedRaises () _
  have strokedRaises : ∀ u g, Raises scene (Diagnostic.WarnsAbout node.id) (stroked u g) := by
    intro u g
    simp only [stroked]
    split
    · split
      · exact corneredRaises () _
      · exact Raises.bind_right fun u => corneredRaises u _
    · exact corneredRaises () _
  split <;> exact strokedRaises () _

/-- A box is decorated, and its decoration reports an inner shadow. -/
theorem Flutter.shapeStyles_raises (scene : Scene) (node : AltNode) (f : Fragment)
    (boxed : f.element = "Container") (inner : node.HasInnerShadow) :
    Raises scene (Diagnostic.WarnsAbout node.id) (Flutter.shapeStyles node f) := by
  simp -zeta -zetaHave only [Flutter.shapeStyles]
  lift_lets
  intro g blurred clipped
  -- the blurs after the decoration only append
  have blurKeeps : ∀ u h, WarnsOnly scene (fun _ => True) (blurred u h) := fun u h =>
    (WarnsOnly.forIn fun effect b => by
      split
      all_goals first
        | exact WarnsOnly.pure _
        | exact (WarnsOnly.warn trivial _).bind fun _ => WarnsOnly.pure _).bind
      fun _ => WarnsOnly.pure _
  have boxes : (g.element == "Container") = true := by simp [g, boxed]
  simp only [boxes, if_true]
  refine Raises.bind_left (Flutter.decoration_raises scene node inner) fun found => ?_
  split <;> split <;> exact blurKeeps () _

theorem Flutter.shape_raises (scene : Scene) (node : AltNode) (inner : node.HasInnerShadow) :
    Raises scene (Diagnostic.WarnsAbout node.id) (Flutter.shape node) := by
  obtain ⟨-, -, ⟨-, placed, -⟩, -⟩ :=
    helpers_closed (WarnsOnly.closed scene fun _ => True) node trivial
  have boxed : (Flutter.sized (Fragment.new "Container") node scene).element = "Container" :=
    congrArg Prod.fst (Flutter.shape_sized _ node scene)
  simp -zeta -zetaHave only [Flutter.shape]
  exact Raises.reads_bind (Raises.bind_left (Flutter.shapeStyles_raises scene node _ boxed inner)
    fun g => placed g)

theorem Flutter.container_raises (scene : Scene) (node : AltNode)
    (children : List (AltNode × Fragment)) (inner : node.HasInnerShadow) :
    Raises scene (Diagnostic.WarnsAbout node.id) (Flutter.container node children) := by
  obtain ⟨-, -, ⟨-, placed, -⟩, -⟩ :=
    helpers_closed (WarnsOnly.closed scene fun _ => True) node trivial
  have boxed : (Flutter.sized (Fragment.new "Container") node scene).element = "Container" :=
    congrArg Prod.fst (Flutter.shape_sized _ node scene)
  simp -zeta -zetaHave only [Flutter.container]
  lift_lets
  intro boxing
  -- whatever body the layout gives, the box around it is decorated
  have boxRaises : ∀ body, Raises scene (Diagnostic.WarnsAbout node.id) (boxing body) :=
    fun body => Raises.reads_bind (Raises.bind_left
      (Flutter.shapeStyles_raises scene node _ boxed inner) fun g => placed _)
  split
  · exact Raises.bind_right fun f => by split <;> exact Raises.bind_right fun body => boxRaises body
  · split <;> exact Raises.bind_right fun body => boxRaises body

/-- Text reports an inner shadow in its own loop over the effects, before its runs; a text node
without content is drawn as a box, which reports it too. -/
theorem Flutter.text_raises (scene : Scene) (node : AltNode) (inner : node.HasInnerShadow) :
    Raises scene (Diagnostic.WarnsAbout node.id) (Flutter.text node) := by
  obtain ⟨-, -, ⟨styled, placed, shaped⟩, -⟩ :=
    helpers_closed (WarnsOnly.closed scene fun _ => True) node trivial
  simp -zeta -zetaHave only [Flutter.text]
  split
  · exact Flutter.shape_raises scene node inner
  lift_lets
  intro shadows aligned
  obtain ⟨s, mem⟩ := inner
  have alignedKeeps : ∀ f, WarnsOnly scene (fun _ => True) (aligned f) :=
    fun f => (shaped _).bind fun _ => placed _
  -- the loop over the effects warns at the inner shadow; the runs and the styles only append
  refine Raises.bind_left (Raises.forIn_of_mem mem
    (fun b => Raises.bind_left (Raises.warnAbout node _) fun _ => WarnsOnly.pure _)
    (fun effect b => ?_) fun effect b => ?_) fun found => ?_
  · split
    all_goals first
      | exact WarnsOnly.pure _
      | exact (WarnsOnly.warn trivial _).bind fun _ => WarnsOnly.pure _
  · split
    all_goals first
      | exact Yields.pure ⟨_, rfl⟩
      | exact Yields.bind_any fun _ => Yields.pure ⟨_, rfl⟩
  · split
    · exact (WarnsOnly.pure _).bind fun f => alignedKeeps f
    · exact (styled _ _).bind fun _ => (WarnsOnly.pure _).bind fun f => alignedKeeps f
    · exact (WarnsOnly.forIn fun run spans => (styled _ _).bind fun _ => WarnsOnly.pure _).bind
        fun _ => (WarnsOnly.pure _).bind fun f => alignedKeeps f

end Handoff
