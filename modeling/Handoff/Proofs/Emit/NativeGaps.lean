/-
Module: Handoff.Proofs.Emit.NativeGaps
Purpose: Where SwiftUI and Compose report what they cannot draw. Neither toolkit has an inner
  shadow or an image paint, SwiftUI has no wrapping stack and Compose one shadow per element.
  SwiftUI meets the first two in its shape styles and its runs, and the wrap in its stack;
  Compose meets the shadows and the top fill in its shape styles, and for text in its own loop
  over the effects, its text shadow and its runs. Each method of the two targets, for a node
  that has one of these gaps where the method draws it, raises a warning about the node, and
  both stand a placeholder in for vector markup with a warning that says so.
Main exports: SwiftUi.shapeStyles_raises, SwiftUi.text_raises, SwiftUi.shape_raises,
  SwiftUi.container_raises, SwiftUi.vector_raises, Compose.shapeStyles_raises,
  Compose.text_raises, Compose.shape_raises, Compose.container_raises, Compose.vector_raises.
-/
import Handoff.Proofs.Emit.Gaps

namespace Handoff

/-! ### SwiftUI -/

/-- SwiftUI's shape styles report an inner shadow, in their last loop, and an image as the top
fill of a node that is not text, first. -/
theorem SwiftUi.shapeStyles_raises (scene : Scene) (node : AltNode) (f : Fragment)
    (gap : node.HasInnerShadow ∨ node.kind ≠ .text ∧ node.ImageOnTop) :
    Raises scene (Diagnostic.WarnsAbout node.id) (SwiftUi.shapeStyles node f) := by
  simp -zeta -zetaHave only [SwiftUi.shapeStyles]
  lift_lets
  intro isShape shape f loop stroke clip
  -- what follows the fill: the clip, the stroke and the loop over the effects, each only appending
  have loopKeeps : ∀ u g, WarnsOnly scene (fun _ => True) (loop u g) := fun u g =>
    (WarnsOnly.forIn fun effect b => by
      split
      all_goals first
        | exact WarnsOnly.pure _
        | exact (WarnsOnly.warn trivial _).bind fun _ => WarnsOnly.pure _).bind
      fun _ => WarnsOnly.pure _
  have strokeKeeps : ∀ u g, WarnsOnly scene (fun _ => True) (stroke u g) := fun u g => by
    simp only [stroke]
    split
    · split
      · exact loopKeeps () _
      · exact (WarnsOnly.warn trivial _).bind fun u => loopKeeps u _
    · exact loopKeeps () _
  have clipKeeps : ∀ u g, WarnsOnly scene (fun _ => True) (clip u g) := fun u g => by
    simp only [clip]
    split <;> exact strokeKeeps () _
  rcases gap with ⟨s, mem⟩ | ⟨text, fill, image, top, isImage⟩
  · -- the loop warns at the inner shadow, and every branch before it reaches the loop
    have looped : ∀ u g, Raises scene (Diagnostic.WarnsAbout node.id) (loop u g) := fun u g =>
      Raises.bind_left (Raises.forIn_of_mem mem
        (fun b => Raises.bind_left (Raises.warnAbout node _) fun _ => WarnsOnly.pure _)
        (fun effect b => by
          split
          all_goals first
            | exact WarnsOnly.pure _
            | exact (WarnsOnly.warn trivial _).bind fun _ => WarnsOnly.pure _)
        fun effect b => by
          split
          all_goals first
            | exact Yields.pure ⟨_, rfl⟩
            | exact Yields.bind_any fun _ => Yields.pure ⟨_, rfl⟩) fun _ => WarnsOnly.pure _
    have stroked : ∀ u g, Raises scene (Diagnostic.WarnsAbout node.id) (stroke u g) := fun u g => by
      simp only [stroke]
      split
      · split
        · exact looped () _
        · exact Raises.bind_right fun u => looped u _
      · exact looped () _
    have clipped : ∀ u g, Raises scene (Diagnostic.WarnsAbout node.id) (clip u g) := fun u g => by
      simp only [clip]
      split <;> exact stroked () _
    split
    · split
      · exact Raises.bind_right fun style => by split <;> exact clipped () _
      · exact clipped () _
    · exact clipped () _
  · -- the image fill warns first, and the rest only appends
    have notText : (node.kind != NodeKind.text) = true := by simpa using text
    simp only [notText, top, if_true]
    refine Raises.bind_left ?_ fun style => by split <;> exact clipKeeps () _
    simp only [SwiftUi.fillStyle, isImage]
    exact Raises.bind_left (Raises.warnAbout node _) fun _ => WarnsOnly.pure _

/-- A run reports an image fill where it takes its colour, after its font modifiers. -/
theorem SwiftUi.runText_raises (scene : Scene) (node : AltNode) (run : TextRun)
    {fill : PaintEntry} {image : ImageFill} (filled : runFill node run = some fill)
    (isImage : fill.kind = .image image) :
    Raises scene (Diagnostic.WarnsAbout node.id) (SwiftUi.runText node run) := by
  simp -zeta -zetaHave only [SwiftUi.runText]
  lift_lets
  intro characters f result colored decorated italicized weighted
  -- the colour of the run warns about the image; the modifiers before it go on to it
  have coloredRaises : ∀ u g, Raises scene (Diagnostic.WarnsAbout node.id) (colored u g) :=
    fun u g => Raises.bind_left (nativeTextColor_raises scene node run _ filled isImage)
      fun found => by split <;> exact WarnsOnly.pure _
  have decoratedRaises : ∀ u g, Raises scene (Diagnostic.WarnsAbout node.id) (decorated u g) := by
    intro u g
    simp only [decorated]
    split <;> exact coloredRaises () _
  have italicizedRaises : ∀ u g, Raises scene (Diagnostic.WarnsAbout node.id) (italicized u g) := by
    intro u g
    simp only [italicized]
    split <;> exact decoratedRaises () _
  split <;> exact italicizedRaises () _

/-- A stack reports a wrapping layout before anything else. -/
theorem SwiftUi.stack_raises (scene : Scene) (node : AltNode) (layout : LayoutDescriptor)
    (flow : List Fragment) (wraps : layout.wrap = true) :
    Raises scene (Diagnostic.WarnsAbout node.id) (SwiftUi.stack node layout flow) := by
  simp -zeta -zetaHave only [SwiftUi.stack]
  lift_lets
  intro f spaced gapped
  simp only [wraps, if_true]
  -- the gap after the wrap may only add a warning
  refine Raises.bind_left (Raises.warnAbout node _) fun _ => ?_
  simp only [gapped]
  split
  · exact (WarnsOnly.warn trivial _).bind fun _ => (WarnsOnly.pure _).bind fun _ => WarnsOnly.pure _
  · exact (WarnsOnly.pure _).bind fun _ => WarnsOnly.pure _

/-- A text view reports an inner shadow in its shape styles, after its runs, and a run filled
with an image where it draws that run. -/
theorem SwiftUi.text_raises (scene : Scene) (node : AltNode) (content : TextContent)
    (written : node.text = some content) (gap : node.HasInnerShadow ∨ node.ImageInRun content) :
    Raises scene (Diagnostic.WarnsAbout node.id) (SwiftUi.text node) := by
  obtain ⟨-, -, -, ⟨ran, placed, shaped⟩, -⟩ :=
    helpers_closed (WarnsOnly.closed scene fun _ => True) node trivial
  simp -zeta -zetaHave only [SwiftUi.text, written]
  lift_lets
  intro styled aligned spaced parts text
  rcases gap with inner | ⟨run, mem, fill, image, filled, isImage⟩
  · -- the styles at the end warn about the inner shadow, whatever the runs give
    have styledRaises : ∀ u g, Raises scene (Diagnostic.WarnsAbout node.id) (styled u g) :=
      fun u g => Raises.bind_left (SwiftUi.shapeStyles_raises scene node _ (.inl inner))
        fun _ => placed _
    have alignedRaises : ∀ u g, Raises scene (Diagnostic.WarnsAbout node.id) (aligned u g) := by
      intro u g
      simp only [aligned]
      split
      case h_4 => exact Raises.bind_right fun u => styledRaises u _
      all_goals exact styledRaises () _
    have spacedRaises : ∀ g, Raises scene (Diagnostic.WarnsAbout node.id) (spaced g) := by
      intro g
      simp only [spaced]
      split <;> exact alignedRaises () _
    split
    · exact Raises.bind_right fun f => spacedRaises f
    · exact Raises.bind_right fun f => spacedRaises f
    · exact Raises.bind_right fun _ => Raises.bind_right fun f => spacedRaises f
  · -- the run painted with the image warns; the styles after the runs only append
    have styledKeeps : ∀ u g, WarnsOnly scene (fun _ => True) (styled u g) :=
      fun u g => (shaped _).bind fun _ => placed _
    have alignedKeeps : ∀ u g, WarnsOnly scene (fun _ => True) (aligned u g) := by
      intro u g
      simp only [aligned]
      split
      case h_4 => exact (WarnsOnly.warn trivial _).bind fun u => styledKeeps u _
      all_goals exact styledKeeps () _
    have spacedKeeps : ∀ g, WarnsOnly scene (fun _ => True) (spaced g) := by
      intro g
      simp only [spaced]
      split <;> exact alignedKeeps () _
    have runRaises := SwiftUi.runText_raises scene node run filled isImage
    split
    next _ empty => exact absurd (empty ▸ mem) List.not_mem_nil
    next _ only single =>
      rw [single, List.mem_singleton] at mem
      exact mem ▸ Raises.bind_left runRaises fun f => spacedKeeps f
    next =>
      refine Raises.bind_left (Raises.forIn_of_mem mem
        (fun b => Raises.bind_left runRaises fun _ => WarnsOnly.pure _)
        (fun r b => (ran r).bind fun _ => WarnsOnly.pure _)
        fun r b => Yields.bind_any fun _ => Yields.pure ⟨_, rfl⟩) fun found => ?_
      exact (WarnsOnly.pure _).bind fun f => spacedKeeps f

theorem SwiftUi.shape_raises (scene : Scene) (node : AltNode)
    (gap : node.HasInnerShadow ∨ node.kind ≠ .text ∧ node.ImageOnTop) :
    Raises scene (Diagnostic.WarnsAbout node.id) (SwiftUi.shape node) := by
  obtain ⟨-, -, -, ⟨-, placed, -⟩, -⟩ :=
    helpers_closed (WarnsOnly.closed scene fun _ => True) node trivial
  exact Raises.bind_left (SwiftUi.shapeStyles_raises scene node _ gap) fun _ => placed _

/-- A container reports a wrapping layout in its stack, and the gaps of its shape styles after
whatever its stack gives. -/
theorem SwiftUi.container_raises (scene : Scene) (node : AltNode)
    (children : List (AltNode × Fragment))
    (gap : (∃ layout, node.layout = some layout ∧ layout.wrap = true) ∨
      node.HasInnerShadow ∨ node.kind ≠ .text ∧ node.ImageOnTop) :
    Raises scene (Diagnostic.WarnsAbout node.id) (SwiftUi.container node children) := by
  obtain ⟨-, -, -, ⟨-, placed, shaped⟩, -⟩ :=
    helpers_closed (WarnsOnly.closed scene fun _ => True) node trivial
  simp -zeta -zetaHave only [SwiftUi.container]
  lift_lets
  intro styled
  rcases gap with ⟨layout, laid, wraps⟩ | styles
  · -- the stack warns about the wrap, and the styles after it only append
    have styledKeeps : ∀ x, WarnsOnly scene (fun _ => True) (styled x) :=
      fun x => (shaped _).bind fun _ => placed _
    simp only [laid]
    refine Raises.bind_left (SwiftUi.stack_raises scene node layout _ wraps) fun s => ?_
    split <;> exact (WarnsOnly.pure _).bind fun x => styledKeeps x
  · -- the styles at the end warn, whatever the stack gives
    have styledRaises : ∀ x, Raises scene (Diagnostic.WarnsAbout node.id) (styled x) :=
      fun x => Raises.bind_left (SwiftUi.shapeStyles_raises scene node _ styles) fun _ => placed _
    split
    · exact Raises.bind_right fun s => by split <;> exact Raises.bind_right fun x => styledRaises x
    · exact Raises.bind_right fun x => styledRaises x

/-- Vector markup gets an asset image in its place, with a warning that says so. -/
theorem SwiftUi.vector_raises (scene : Scene) (node : AltNode) (markup : String) :
    Raises scene (· = Diagnostic.warning node.id
      "inline SVG is not supported by SwiftUI; emitted an asset image placeholder")
      (SwiftUi.vector node markup) := by
  obtain ⟨-, -, -, ⟨-, placed, -⟩, -⟩ :=
    helpers_closed (WarnsOnly.closed scene fun _ => True) node trivial
  exact Raises.bind_left (Raises.warn node _) fun _ => placed _

/-! ### Compose -/

/-- Compose's shape styles, for a node that is not text, report an inner shadow in their loop
over the effects, a second drop shadow once that loop has counted them, and an image as the top
fill after the clip. -/
theorem Compose.shapeStyles_raises (scene : Scene) (node : AltNode) (f : Fragment)
    (notText : node.kind ≠ .text)
    (gap : node.HasInnerShadow ∨ 1 < node.dropShadows.length ∨ node.ImageOnTop) :
    Raises scene (Diagnostic.WarnsAbout node.id) (Compose.shapeStyles node f) := by
  simp -zeta -zetaHave only [Compose.shapeStyles]
  lift_lets
  intro shape withShape isText g blurred stroked filled clipped shadows
  have shaped : (!isText) = true := by simpa [isText] using notText
  simp only [shaped, if_true]
  -- the blurs, the stroke, the fill and the clip each only append
  have blurKeeps : ∀ u h, WarnsOnly scene (fun _ => True) (blurred u h) := fun u h =>
    (WarnsOnly.forIn fun effect b => by
      split
      all_goals first
        | exact WarnsOnly.pure _
        | exact (WarnsOnly.warn trivial _).bind fun _ => WarnsOnly.pure _).bind
      fun _ => WarnsOnly.pure _
  have strokeKeeps : ∀ u h, WarnsOnly scene (fun _ => True) (stroked u h) := by
    intro u h
    simp only [stroked]
    split
    · split
      · exact blurKeeps () _
      · exact (WarnsOnly.warn trivial _).bind fun u => blurKeeps u _
    · exact blurKeeps () _
  have fillKeeps : ∀ u h, WarnsOnly scene (fun _ => True) (filled u h) := by
    intro u h
    simp only [filled, shaped, if_true]
    split
    · split
      · split <;> exact strokeKeeps () _
      · exact strokeKeeps () _
      · exact (WarnsOnly.warn trivial _).bind fun u => strokeKeeps u _
    · exact strokeKeeps () _
  have clipKeeps : ∀ u h, WarnsOnly scene (fun _ => True) (clipped u h) := by
    intro u h
    simp only [clipped]
    split <;> exact fillKeeps () _
  have countKeeps : ∀ r : Fragment × Nat, WarnsOnly scene (fun _ => True)
      (if r.2 > 1 then Emit.warn node "Compose supports one shadow per element; extra shadows skipped" >>=
        fun u => clipped u r.1 else clipped () r.1) := by
    intro r
    split
    · exact (WarnsOnly.warn trivial _).bind fun u => clipKeeps u _
    · exact clipKeeps () _
  rcases gap with ⟨s, mem⟩ | many | ⟨fill, image, top, isImage⟩
  · -- the loop warns at the inner shadow
    refine Raises.bind_left (Raises.forIn_of_mem mem
      (fun b => Raises.bind_left (Raises.warnAbout node _) fun _ => WarnsOnly.pure _)
      (fun effect b => ?_) fun effect b => ?_) fun r => countKeeps r
    · split
      all_goals first
        | (split <;> exact WarnsOnly.pure _)
        | exact WarnsOnly.pure _
        | exact (WarnsOnly.warn trivial _).bind fun _ => WarnsOnly.pure _
    · split
      all_goals first
        | (split <;> exact Yields.pure ⟨_, rfl⟩)
        | exact Yields.pure ⟨_, rfl⟩
        | exact Yields.bind_any fun _ => Yields.pure ⟨_, rfl⟩
  · -- the loop counts every drop shadow, and more than one is reported after it
    refine Raises.bind_of (Yields.forIn_view Prod.snd
      (fun k e => if e.dropShadow?.isSome then k + 1 else k) fun effect b => ?_) fun r counted => ?_
    · cases effect <;> dsimp only
      case dropShadow s =>
        simp only [Effect.dropShadow?_dropShadow, Option.isSome_some, if_true]
        split <;> exact Yields.pure ⟨_, rfl, rfl⟩
      case innerShadow s => exact Yields.bind_any fun _ => Yields.pure ⟨_, rfl, rfl⟩
      all_goals exact Yields.pure ⟨_, rfl, rfl⟩
    have more : r.2 > 1 := by
      rw [counted, Effect.foldl_count_dropShadows]
      simpa [shadows, AltNode.dropShadows] using many
    rw [if_pos more]
    exact Raises.bind_left (Raises.warnAbout node _) fun u => clipKeeps u _
  · -- the top fill is an image, reported after the shadows and the clip
    have fillRaises : ∀ u h, Raises scene (Diagnostic.WarnsAbout node.id) (filled u h) := by
      intro u h
      simp only [filled, shaped, if_true, top, isImage]
      exact Raises.bind_left (Raises.warnAbout node _) fun u => strokeKeeps u _
    have clipRaises : ∀ u h, Raises scene (Diagnostic.WarnsAbout node.id) (clipped u h) := by
      intro u h
      simp only [clipped]
      split <;> exact fillRaises () _
    refine Raises.bind_right fun r => ?_
    split
    · exact Raises.bind_right fun u => clipRaises u _
    · exact clipRaises () _

/-- The shadow of a text reports the drop shadows after the first. -/
theorem Compose.textShadow_raises (scene : Scene) (node : AltNode)
    (many : 1 < node.dropShadows.length) :
    Raises scene (Diagnostic.WarnsAbout node.id) (Compose.textShadow node) := by
  simp -zeta -zetaHave only [Compose.textShadow]
  lift_lets
  intro shadows
  obtain ⟨first, second, rest, listed⟩ : ∃ a b rest, node.dropShadows = a :: b :: rest := by
    rcases shown : node.dropShadows with _ | ⟨a, _ | ⟨b, rest⟩⟩
    · simp [shown] at many
    · simp [shown] at many
    · exact ⟨a, b, rest, rfl⟩
  -- the text's own list of shadows is the node's, so more than the first remain
  have cast : shadows = first :: second :: rest := (rfl : shadows = node.dropShadows).trans listed
  rw [cast]
  simp only [List.isEmpty_cons, Bool.not_false, if_true]
  exact Raises.bind_left (Raises.warnAbout node _) fun _ => WarnsOnly.pure _

theorem Compose.spanArgs_raises (scene : Scene) (node : AltNode) (run : TextRun)
    {fill : PaintEntry} {image : ImageFill} (filled : runFill node run = some fill)
    (isImage : fill.kind = .image image) :
    Raises scene (Diagnostic.WarnsAbout node.id) (Compose.spanArgs node run) :=
  Raises.bind_left (nativeTextColor_raises scene node run _ filled isImage) fun _ => WarnsOnly.pure _

theorem Compose.span_raises (scene : Scene) (node : AltNode) (run : TextRun)
    {fill : PaintEntry} {image : ImageFill} (filled : runFill node run = some fill)
    (isImage : fill.kind = .image image) :
    Raises scene (Diagnostic.WarnsAbout node.id) (Compose.span node run) :=
  Raises.bind_left (Compose.spanArgs_raises scene node run filled isImage) fun _ => WarnsOnly.pure _

/-- A text composable reports an inner shadow or a second drop shadow after its runs, whatever
they give, and a run filled with an image where it styles that run. -/
theorem Compose.text_raises (scene : Scene) (node : AltNode) (content : TextContent)
    (written : node.text = some content)
    (gap : (node.HasInnerShadow ∨ 1 < node.dropShadows.length) ∨ node.ImageInRun content) :
    Raises scene (Diagnostic.WarnsAbout node.id) (Compose.text node) := by
  obtain ⟨-, -, -, -, ⟨spanned, shadowed, -, -⟩⟩ :=
    helpers_closed (WarnsOnly.closed scene fun _ => True) node trivial
  simp -zeta -zetaHave only [Compose.text, written]
  lift_lets
  intro aligned heighted spans
  rcases gap with late | ⟨run, mem, fill, image, filled, isImage⟩
  · -- the effects and the shadow come after the runs
    have alignedRaises : ∀ u g, Raises scene (Diagnostic.WarnsAbout node.id) (aligned u g) := by
      intro u g
      rcases late with ⟨s, mem⟩ | many
      · refine Raises.bind_left (Raises.forIn_of_mem mem
          (fun b => Raises.bind_left (Raises.warnAbout node _) fun _ => WarnsOnly.pure _)
          (fun effect b => ?_) fun effect b => ?_) fun _ => shadowed.bind fun style => ?_
        · split
          · exact (WarnsOnly.warn trivial _).bind fun _ => WarnsOnly.pure _
          · exact WarnsOnly.pure _
        · split
          · exact Yields.bind_any fun _ => Yields.pure ⟨_, rfl⟩
          · exact Yields.pure ⟨_, rfl⟩
        · split <;> exact WarnsOnly.pure _
      · refine Raises.bind_right fun _ =>
          Raises.bind_left (Compose.textShadow_raises scene node many) fun style => ?_
        split <;> exact WarnsOnly.pure _
    have heightedRaises : ∀ u g, Raises scene (Diagnostic.WarnsAbout node.id) (heighted u g) := by
      intro u g
      simp only [heighted]
      split
      · split <;> exact alignedRaises () _
      · exact alignedRaises () _
    refine Raises.bind_right fun _ => Raises.bind_right fun f => ?_
    split
    · exact heightedRaises () _
    · exact Raises.bind_right fun _ => Raises.bind_right fun _ => heightedRaises () _
    · exact Raises.bind_right fun _ => heightedRaises () _
  · -- the run painted with the image warns; the effects and the shadow after the runs append
    have alignedKeeps : ∀ u g, WarnsOnly scene (fun _ => True) (aligned u g) := by
      intro u g
      refine (WarnsOnly.forIn fun effect b => ?_).bind fun _ => shadowed.bind fun style => ?_
      · split
        · exact (WarnsOnly.warn trivial _).bind fun _ => WarnsOnly.pure _
        · exact WarnsOnly.pure _
      · split <;> exact WarnsOnly.pure _
    have heightedKeeps : ∀ u g, WarnsOnly scene (fun _ => True) (heighted u g) := by
      intro u g
      simp only [heighted]
      split
      · split <;> exact alignedKeeps () _
      · exact alignedKeeps () _
    refine Raises.bind_right fun _ => Raises.bind_right fun f => ?_
    split
    next _ empty => exact absurd (empty ▸ mem) List.not_mem_nil
    next _ only single =>
      rw [single, List.mem_singleton] at mem
      subst mem
      exact Raises.bind_left (Compose.spanArgs_raises scene node run filled isImage) fun _ =>
        (WarnsOnly.forIn fun _ _ => WarnsOnly.pure _).bind fun _ => heightedKeeps () _
    next =>
      exact Raises.bind_left (Raises.forIn_of_mem mem
        (fun b => Raises.bind_left (Compose.span_raises scene node run filled isImage)
          fun _ => WarnsOnly.pure _)
        (fun r b => (spanned r).bind fun _ => WarnsOnly.pure _)
        fun r b => Yields.bind_any fun _ => Yields.pure ⟨_, rfl⟩) fun _ => heightedKeeps () _

theorem Compose.shape_raises (scene : Scene) (node : AltNode) (notText : node.kind ≠ .text)
    (gap : node.HasInnerShadow ∨ 1 < node.dropShadows.length ∨ node.ImageOnTop) :
    Raises scene (Diagnostic.WarnsAbout node.id) (Compose.shape node) :=
  Raises.bind_right fun f => Compose.shapeStyles_raises scene node f notText gap

/-- Every branch of a container styles its outer composable, and only returns after it. -/
theorem Compose.container_raises (scene : Scene) (node : AltNode)
    (children : List (AltNode × Fragment)) (notText : node.kind ≠ .text)
    (gap : node.HasInnerShadow ∨ 1 < node.dropShadows.length ∨ node.ImageOnTop) :
    Raises scene (Diagnostic.WarnsAbout node.id) (Compose.container node children) := by
  simp -zeta -zetaHave only [Compose.container]
  lift_lets
  intro outer
  have outerRaises : ∀ element, Raises scene (Diagnostic.WarnsAbout node.id) (outer element) :=
    fun element => Raises.bind_right fun f => Compose.shapeStyles_raises scene node f notText gap
  split
  · split
    · exact Raises.bind_right fun _ => Raises.bind_left (outerRaises _) fun _ => WarnsOnly.pure _
    · exact Raises.bind_right fun _ => Raises.bind_left (outerRaises _) fun _ => WarnsOnly.pure _
  · exact Raises.bind_left (outerRaises _) fun _ => WarnsOnly.pure _

/-- Vector markup gets a drawable resource in its place, with a warning that says so. -/
theorem Compose.vector_raises (scene : Scene) (node : AltNode) (markup : String) :
    Raises scene (· = Diagnostic.warning node.id
      "inline SVG is not supported by Compose; emitted a drawable resource placeholder")
      (Compose.vector node markup) := by
  obtain ⟨-, -, -, -, ⟨-, -, placed, -⟩⟩ :=
    helpers_closed (WarnsOnly.closed scene fun _ => True) node trivial
  exact Raises.bind_left (Raises.warn node _) fun _ => (placed _).bind fun _ => WarnsOnly.pure _

end Handoff
