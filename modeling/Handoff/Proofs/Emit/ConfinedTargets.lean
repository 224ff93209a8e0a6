/-
Module: Handoff.Proofs.Emit.ConfinedTargets
Purpose: The inline-style target keeps its fragments confined. Each styling step sets only
  declarations whose values are numbers, lengths, colours, gradients, shadows, CSS strings or
  escaped names, and keeps the children; the only strings written bare are image references.
  Text content is escaped, layer names are escaped into their attribute, and vector markup stays
  in its own fragment.
Main exports: Html.styling_confined, Html.withLayerName_confinedBelow, Html.target_confines.
-/
import Handoff.Proofs.Emit.Confinement

namespace Handoff

open Text

theorem spaced_cssSolid (entry : PaintEntry) (useVariables : Bool) :
    ∀ s, cssSolid entry useVariables = some s → Spaced s := by
  intro s made
  unfold cssSolid at made
  split at made
  · exact absurd made (by simp)
  · split at made
    · split at made <;> obtain rfl := Option.some.inj made
      · simp only [spaced_append, spaced_cssColor, (token_tokenIdent _).spaced, and_true]
        decide
      · exact spaced_cssColor _
    · obtain rfl := Option.some.inj made
      exact spaced_cssColor _

theorem spaced_findSome_cssSolid (entries : List PaintEntry) (v : Bool) :
    ∀ s, entries.findSome? (cssSolid · v) = some s → Spaced s := by
  intro s found
  obtain ⟨e, -, made⟩ := List.exists_of_findSome?_eq_some found
  exact spaced_cssSolid e v s made

theorem mem_of_topPaint {entries : List PaintEntry} {e : PaintEntry}
    (top : topPaint entries = some e) : e ∈ entries :=
  List.mem_of_getLast? top

namespace Html

theorem spaced_cssPadding (p : Padding) : ∀ s, cssPadding p = some s → Spaced s := by
  intro s made
  unfold cssPadding at made
  split at made
  · exact absurd made (by simp)
  split at made
  · obtain rfl := Option.some.inj made
    simp
  split at made <;> obtain rfl := Option.some.inj made <;>
    simp only [spaced_append, spaced_px, and_true] <;> decide

theorem spaced_cssShadow (e : Effect) : ∀ s, cssShadow e = some s → Spaced s := by
  intro s made
  unfold cssShadow at made
  split at made <;> cases made
  all_goals simp only [spaced_append, spaced_px, spaced_cssColor, and_true]; decide

theorem spaced_textShadow (e : Effect) : ∀ s, textShadow e = some s → Spaced s := by
  intro s made
  unfold textShadow at made
  split at made <;> cases made
  simp only [spaced_append, spaced_px, spaced_cssColor, and_true]
  decide

/-- Shadows written one after another, each a spaced value, are a spaced value. -/
theorem spaced_shadows {shadow : Effect → Option String}
    (each : ∀ e s, shadow e = some s → Spaced s) (effects : List Effect) :
    Spaced (", ".intercalate (effects.filterMap shadow)) := by
  refine spaced_intercalate (by decide) fun x m => ?_
  obtain ⟨e, -, made⟩ := List.mem_filterMap.1 m
  exact each e x made

variable {scene : Scene} {node : AltNode}

@[simp] theorem children_withSize (f : Fragment) (p : String) (d : Dim) (m : Bool) :
    (Html.withSize f p d m).children = f.children :=
  Fragment.children_eq_of_shape (Html.shape_withSize f p d m)

@[simp] theorem children_withBackground (f : Fragment) (fill : PaintEntry) (v : Bool) :
    (Html.withBackground f fill v).children = f.children :=
  Fragment.children_eq_of_shape (Html.shape_withBackground f fill v)

theorem confined_withSize {f : Fragment} (hf : Confined scene .inline f) {p : String}
    (hp : Quoteless p) (d : Dim) (m : Bool) : Confined scene .inline (Html.withSize f p d m) := by
  unfold Html.withSize
  split
  · exact hf.withStyle (StyleAttr.fits_inline.2 ⟨hp, by simp⟩)
  · exact hf
  · split
    · exact hf.withStyle (by decide)
    · exact hf.withStyle (by decide)

/-- A background declares a colour, a gradient, or an image by its reference. -/
theorem confined_withBackground {f : Fragment} (hf : Confined scene .inline f) {fill : PaintEntry}
    (images : ∀ image, fill.kind = .image image → Quoteless image.imageRef) (v : Bool) :
    Confined scene .inline (Html.withBackground f fill v) := by
  unfold Html.withBackground
  split
  · split
    · rename_i color solid
      exact hf.withStyle
        (StyleAttr.fits_inline.2 ⟨by decide, (spaced_cssSolid fill _ color solid).quoteless⟩)
    · exact hf
  · exact hf.withStyle (StyleAttr.fits_inline.2 ⟨by decide, (spaced_cssGradient _).quoteless⟩)
  · rename_i image kind
    have url : Confined scene .inline
        (f.withStyle "background-image" ("url('" ++ image.imageRef ++ "')")) :=
      hf.withStyle (StyleAttr.fits_inline.2 ⟨by decide, by simp [images image kind]; decide⟩)
    split
    · exact url.withStyle (by decide)
    · exact url.withStyle (by decide)
    · exact (url.withStyle (by decide)).withStyle (by decide)
    · exact url.withStyle (by decide)

theorem textFill_confined {f : Fragment} {c : List Fragment}
    (hf : Confined scene .inline f ∧ f.children = c) (fill : PaintEntry) :
    Yields scene (fun r => Confined scene .inline r ∧ r.children = c)
      (Html.textFill f node fill) := by
  unfold Html.textFill
  split
  · refine Yields.bind_any fun useVariables => ?_
    split
    · rename_i color solid
      refine Yields.pure ⟨hf.1.withStyle (StyleAttr.fits_inline.2
        ⟨by decide, (spaced_cssSolid fill _ color solid).quoteless⟩), by simp [hf.2]⟩
    · exact Yields.pure hf
  · refine Yields.pure ⟨?_, by simp [hf.2]⟩
    exact ((hf.1.withStyle (StyleAttr.fits_inline.2
      ⟨by decide, (spaced_cssGradient _).quoteless⟩)).withStyle (by decide)).withStyle (by decide)
  · exact Yields.bind_any fun _ => Yields.pure hf

/-- Every styling step of the inline-style target adds only declarations with no double quote
and keeps the children of what it styles; the shape styles need the image references of the node
to hold none. -/
theorem styling_confined {f : Fragment} (hf : Confined scene .inline f) :
    (∀ run, Yields scene (fun r => Confined scene .inline r ∧ r.children = f.children)
      (Html.runStyles f node run)) ∧
    Yields scene (fun r => Confined scene .inline r ∧ r.children = f.children)
      (Html.positionStyles node f) ∧
    (StyleAttr.inline.Bare node →
      Yields scene (fun r => Confined scene .inline r ∧ r.children = f.children)
        (Html.shapeStyles node f)) ∧
    ∀ layout, Yields scene (fun r => Confined scene .inline r ∧ r.children = f.children)
      (Html.withLayout f node layout) := by
  refine ⟨fun run => ?_, ?_, fun bare => ?_, fun layout => ?_⟩ <;>
    simp -zeta -zetaHave only [Html.runStyles, Html.positionStyles, Html.shapeStyles,
      Html.withLayout] <;>
    lift_lets <;>
  repeat' first
    -- a join point: its fact, that it keeps the fragment confined with the same children,
    -- becomes a goal of its own, proved from its body
    | (intro x; refine (fun (hx : ∀ (u : Unit) (h : Fragment),
          Confined scene .inline h ∧ h.children = f.children →
          Yields scene (fun r => Confined scene .inline r ∧ r.children = f.children) (x u h)) =>
            ?_) ?_; clear_value x)
    | (intro x; simp -zeta -zetaHave only [x])
    | intro _
    | lift_lets
    | ((with_reducible refine textFill_confined ⟨?_, by simp [*]⟩ _);
        (repeat' first | refine Confined.withStyle ?_ ?_ | refine confined_withSize ?_ (by decide) _ _) <;>
        first | exact ‹Confined _ _ _ ∧ _›.1 | assumption |
          (rw [StyleAttr.fits_inline]; (try simp only [quoteless_append]); and_intros <;> first
            | decide
            | simp))
    -- a value, put in place: each declaration added on top of a confined fragment fits
    | ((with_reducible refine Yields.pure ?_); (repeat' split) <;> refine ⟨?_, by simp [*]⟩ <;>
        (repeat' first | refine Confined.withStyle ?_ ?_ | refine confined_withSize ?_ (by decide) _ _) <;>
        first | exact ‹Confined _ _ _ ∧ _›.1 | assumption |
          exact confined_withBackground (by assumption)
            (fun image => bare _ (mem_of_topPaint (by assumption)) image) _ |
          (rw [StyleAttr.fits_inline]; (try simp only [quoteless_append]); and_intros <;> first
            | decide
            | simp
            | with_reducible exact (spaced_cssPadding _ _ (by assumption)).quoteless))
    | ((with_reducible refine Yields.call ?_ _ _ ?_); (with_reducible assumption);
        (repeat' split) <;> refine ⟨?_, by simp [*]⟩ <;>
        (repeat' first | refine Confined.withStyle ?_ ?_ | refine confined_withSize ?_ (by decide) _ _) <;>
        first | exact ‹Confined _ _ _ ∧ _›.1 | assumption |
          exact confined_withBackground (by assumption)
            (fun image => bare _ (mem_of_topPaint (by assumption)) image) _ |
          (rw [StyleAttr.fits_inline]; (try simp only [quoteless_append]); and_intros <;> first
            | decide
            | simp
            | with_reducible exact (spaced_cssPadding _ _ (by assumption)).quoteless
            | with_reducible exact (spaced_findSome_cssSolid _ _ _ (by assumption)).quoteless
            | with_reducible exact (spaced_shadows spaced_cssShadow _).quoteless
            | with_reducible exact (spaced_shadows spaced_textShadow _).quoteless))
    -- the body of the join point whose fact is being proved
    | (simp -zeta -zetaHave only [x])
    | (with_reducible refine Yields.forIn_keeping ?_ (fun _ _ _ => ?_) fun _ _ => ?_)
    | with_reducible refine Yields.bind_any fun _ => ?_
    | split
    | assumption

/-- Styling a confined fragment whose children are confined below, then positioning it, gives a
fragment confined below. -/
theorem styled_below (bare : StyleAttr.inline.Bare node) {g : Fragment}
    (hg : Confined scene .inline g) (below : ∀ c ∈ g.children, ConfinedBelow scene .inline .html c) :
    Yields scene (ConfinedBelow scene .inline .html)
      (Html.shapeStyles node g >>= Html.positionStyles node) :=
  Yields.bind ((styling_confined hg).2.2.1 bare) fun r hr =>
    (styling_confined hr.1).2.1.mono fun r' hr' =>
      ConfinedBelow.of_children (fun _ => rfl) hr'.1 (by rw [hr'.2, hr.2]; exact below)

/-- A paragraph holds each run's characters escaped, as its content or as the content of a span
of its own. -/
theorem text_confined (bare : StyleAttr.inline.Bare node) :
    Yields scene (ConfinedBelow scene .inline .html) (Html.text node) := by
  simp -zeta -zetaHave only [Html.text]
  lift_lets
  intro f jp
  have styled : ∀ u g, Confined scene .inline g →
      (∀ c ∈ g.children, ConfinedBelow scene .inline .html c) →
      Yields scene (ConfinedBelow scene .inline .html) (jp u g) :=
    fun u g hg below => styled_below bare hg below
  have hf : Confined scene .inline f ∧ f.children = [] := ⟨(Confined.new "p").withStyle (by decide), rfl⟩
  clear_value jp f
  refine Yields.config_bind ?_
  lift_lets
  intro mode
  split
  · lift_lets
    intro aligned
    have hAligned : Confined scene .inline aligned ∧ aligned.children = [] := by
      simp only [aligned]
      split <;> first | exact hf | exact ⟨hf.1.withStyle (by decide), by simp [hf.2]⟩
    clear_value aligned
    split
    · exact styled _ _ hAligned.1 (by simp [hAligned.2])
    · -- one run: its characters are the paragraph's content
      rename_i run _
      refine Yields.bind ((styling_confined hAligned.1).1 run) fun r hr => ?_
      lift_lets
      intro g
      refine styled _ _ (hr.1.withContent (.inl (Markup.escaped_escapeText _ _))) fun c m => ?_
      rw [Fragment.children_withContent, hr.2, hAligned.2] at m
      exact absurd m List.not_mem_nil
    · -- several runs: each is a span with its characters as content, and no children
      refine Yields.bind (Yields.forIn (fun g => Confined scene .inline g ∧
        ∀ c ∈ g.children, ConfinedBelow scene .inline .html c) ⟨hAligned.1, by simp [hAligned.2]⟩
        fun run g hg => ?_) fun r hr => ?_
      · dsimp only
        have hSpan : Confined scene .inline
            ((Fragment.new "span").withContent (Markup.escapeText run.characters mode)) :=
          (Confined.new "span").withContent (.inl (Markup.escaped_escapeText _ _))
        refine Yields.bind ((styling_confined hSpan).1 run) fun s hs => ?_
        exact Yields.pure ⟨hg.1.withChild s,
          ConfinedBelow.children_withChild (fun _ => rfl) hg.2 hs.1 hs.2⟩
      · exact styled _ _ hr.1 hr.2
  · exact styled _ _ hf.1 (by simp [hf.2])

/-- A box with children confined below, styled and positioned, is confined below. -/
theorem container_confined (bare : StyleAttr.inline.Bare node)
    {children : List (AltNode × Fragment)}
    (held : ∀ c ∈ children, ConfinedBelow scene .inline .html c.2) :
    Yields scene (ConfinedBelow scene .inline .html) (Html.container node children) := by
  simp -zeta -zetaHave only [Html.container]
  lift_lets
  intro f jp
  -- the join point adds the children to a confined box with none, then styles it
  have styled : ∀ u g, Confined scene .inline g → g.children = [] →
      Yields scene (ConfinedBelow scene .inline .html) (jp u g) := by
    intro u g hg empty
    simp only [jp]
    exact styled_below bare (hg.withChildren _) (ConfinedBelow.children_withChildren empty held)
  clear_value jp
  refine Yields.reads_bind ?_
  lift_lets
  intro relative
  have positioned : ∀ u g, Confined scene .inline g → g.children = [] →
      Yields scene (ConfinedBelow scene .inline .html) (relative u g) := by
    intro u g hg empty
    simp only [relative]
    split
    · exact styled _ _ (hg.withStyle (by decide)) (by simp [empty])
    · exact styled _ _ hg empty
  clear_value relative
  split
  · rename_i layout _
    exact Yields.bind ((styling_confined (Confined.new "div")).2.2.2 layout) fun g hg =>
      positioned _ _ hg.1 hg.2
  · exact positioned _ _ (Confined.new "div") rfl

/-- Naming a layer adds an escaped attribute, so on a backend that prints every child a
fragment confined below stays so. -/
theorem withLayerName_confinedBelow {scene : Scene} {attr : StyleAttr} {b : BackendKind}
    (markup : ∀ e, b.printsAll e = true) (n : AltNode) {f : Fragment}
    (below : ConfinedBelow scene attr b f) : ConfinedBelow scene attr b (withLayerName n f) := by
  refine ConfinedBelow.of_children markup
    (below.confined.withArg (quoteless_escapeHtml _)) fun c m => ?_
  exact below.child markup m

theorem target_confines (scene : Scene) :
    Html.target.Confines scene .inline .html where
  text n bare := text_confined bare
  vector n markup _ exported := by
    simp only [Html.target, Html.vector]
    refine Yields.config_bind ?_
    obtain ⟨confined, empty⟩ :
        Confined scene .inline (Markup.vectorFragment markup scene.config.markupMode) ∧ _ :=
      Markup.vectorFragment_confined exported
    exact (styling_confined confined).2.1.mono fun r hr =>
      ConfinedBelow.of_children (fun _ => rfl) hr.1 (by simp [hr.2, empty])
  shape n bare := styled_below bare (Confined.new "div") (by simp)
  container n children bare held := container_confined bare held
  named n _ below := withLayerName_confinedBelow (fun _ => rfl) n below

end Html

end Handoff
