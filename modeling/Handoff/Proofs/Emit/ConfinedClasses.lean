/-
Module: Handoff.Proofs.Emit.ConfinedClasses
Purpose: The utility-class target keeps design strings where they belong, and what that means
  for the text the markup targets write. Every styling step adds only classes that are words,
  built from numbers, lengths, colours, gradients, shadows, escaped font families, image
  references, the tokens of the configured scales and the names of the palette, and keeps the
  children; so every fragment it writes out is confined, as long as the image references hold no
  white space but spaces and no quote, the font families no tab, form feed or carriage return,
  and the scale tokens no white space or quote. A class attribute of words reads back, cut at
  white space, as the fragment's classes. Together with the inline-style target, every fragment
  a markup target writes out for any node is confined in both markup modes.
Main exports: Yields.forIn_mem, Tailwind.Kept, Tailwind.runClasses_kept,
  Tailwind.positionStyles_kept, Tailwind.shapeStyles_kept, Tailwind.withLayout_kept,
  Tailwind.target_confines, Text.classTokens, classTokens_classList,
  markup_design_strings_confined.
-/
import Mathlib
import Handoff.Proofs.Emit.ConfinedTargets

namespace Handoff

open Text

namespace Tailwind

variable {scene : Scene} {node : AltNode}

@[simp] theorem children_withSize (f : Fragment) (p : String) (d : Dim) (m : Bool) (s : Scales) :
    (Tailwind.withSize f p d m s).children = f.children :=
  Fragment.children_eq_of_shape (Tailwind.shape_withSize f p d m s)

@[simp] theorem children_withBackground (f : Fragment) (fill : PaintEntry) (scene : Scene) :
    (Tailwind.withBackground f fill scene).children = f.children :=
  Fragment.children_eq_of_shape (Tailwind.shape_withBackground f fill scene)

/-- A loop whose every step, on a member of the list, keeps an invariant of its state gives a
state with it. -/
theorem Yields.forIn_mem {β γ : Type} {xs : List γ} {init : β}
    {body : γ → β → Emit (ForInStep β)} (inv : β → Prop) (start : inv init)
    (each : ∀ x ∈ xs, ∀ b, inv b → Yields scene (fun r => inv r.value) (body x b)) :
    Yields scene inv (ForIn.forIn xs init body) := by
  induction xs generalizing init with
  | nil => exact Yields.pure start
  | cons x xs ih =>
      rw [List.forIn_cons]
      refine Yields.bind (each x List.mem_cons_self init start) fun r kept => ?_
      cases r with
      | done b => exact Yields.pure kept
      | yield b => exact ih kept fun y m => each y (List.mem_cons_of_mem x m)

/-- A fragment confined by classes with the children `c`: what each styling step of the
utility-class target keeps. -/
def Kept (scene : Scene) (c : List Fragment) (g : Fragment) : Prop :=
  Confined scene .classes g ∧ g.children = c

variable {c : List Fragment} {g : Fragment}

theorem Kept.withClass (h : Kept scene c g) {k : String} (word : ClassWord k) :
    Kept scene c (g.withClass k) :=
  ⟨h.1.withClass word, h.2⟩

theorem Kept.foldl_withClass {γ : Type} (name : γ → String) (xs : List γ)
    (words : ∀ x ∈ xs, ClassWord (name x)) (h : Kept scene c g) :
    Kept scene c (xs.foldl (fun f x => f.withClass (name x)) g) := by
  induction xs generalizing g with
  | nil => exact h
  | cons x rest ih =>
      exact ih (fun y m => words y (List.mem_cons_of_mem x m))
        (h.withClass (words x List.mem_cons_self))

theorem Kept.withSize (h : Kept scene c g) {s : Scales} (tokens : s.Tokens) {p : String}
    (hp : ClassWord p) (d : Dim) (m : Bool) : Kept scene c (Tailwind.withSize g p d m s) := by
  unfold Tailwind.withSize
  split
  · exact h.withClass (s.classWord_spacingClass tokens hp _)
  · exact h
  · split
    · exact h.withClass (by decide)
    · exact h.withClass (by decide)

/-- A background is a colour class, an arbitrary gradient, or an image by its reference with its
sizing classes. -/
theorem Kept.withBackground (h : Kept scene c g) {fill : PaintEntry}
    (images : ∀ image, fill.kind = .image image → Spaced image.imageRef)
    (palette : scene.palette.Named) : Kept scene c (Tailwind.withBackground g fill scene) := by
  unfold Tailwind.withBackground
  split
  · split
    · rename_i cls made
      exact h.withClass (classWord_colorClass (by decide) fill palette cls made)
    · exact h
  · exact h.withClass (classWord_arbitrary (by decide) (spaced_tightCommas (spaced_cssGradient _)))
  · rename_i image kind
    have url : Kept scene c (g.withClass (arbitrary "bg" ("url('" ++ image.imageRef ++ "')"))) :=
      h.withClass (classWord_arbitrary (by decide) (by simp [images image kind]; decide))
    split
    · exact url.withClass (by decide)
    · exact url.withClass (by decide)
    · exact (url.withClass (by decide)).withClass (by decide)
    · exact url.withClass (by decide)

/-- The classes of a node's place: absolute offsets, size, turn and opacity. -/
theorem positionStyles_kept (tokens : (Scales.ofConfig scene.config).Tokens) {f : Fragment}
    (hf : Kept scene c f) : Yields scene (Kept scene c) (Tailwind.positionStyles node f) := by
  simp -zeta -zetaHave only [Tailwind.positionStyles]
  lift_lets
  intro f₀ done pct faded degrees turn
  have hDone : ∀ u g, Kept scene c g → Yields scene (Kept scene c) (done u g) :=
    fun _ _ hg => Yields.pure hg
  have hFaded : ∀ u g, Kept scene c g → Yields scene (Kept scene c) (faded u g) := by
    intro u g hg
    simp only [faded]
    split
    · refine hDone () _ ?_
      split
      · exact hg.withClass ((show ClassWord "opacity-" by decide).append (token_repr _))
      · exact hg.withClass (classWord_arbitrary (by decide) (spaced_num _))
    · exact hDone () _ hg
  have hTurn : ClassWord (if degrees < 0.0 then "-" ++ turn else turn) := by
    have word : ClassWord turn := by
      simp only [turn]
      split
      · exact (show ClassWord "rotate-" by decide).append (token_num _)
      · exact classWord_arbitrary (by decide) (spaced_append.2 ⟨spaced_num _, by decide⟩)
    split
    · exact ClassWord.prepend (by decide) word
    · exact word
  clear_value done faded turn
  refine Yields.reads_bind ?_
  lift_lets
  intro scales sized placed
  have tokens : scales.Tokens := tokens
  have hSized : ∀ u g, Kept scene c g → Yields scene (Kept scene c) (sized u g) := by
    intro u g hg
    simp only [sized]
    have hSize : Kept scene c (Tailwind.withSize
        (Tailwind.withSize g "w" (dims node).1 (fillsMainAxis scene node true) scales)
        "h" (dims node).2 (fillsMainAxis scene node false) scales) :=
      (hg.withSize tokens (by decide) _ _).withSize tokens (by decide) _ _
    split
    · exact hFaded () _ (hSize.withClass hTurn)
    · exact hFaded () _ hSize
  have hPlaced : Kept scene c placed :=
    ((hf.withClass (show ClassWord "absolute" by decide)).withClass
      (Scales.classWord_spacingClass tokens (show ClassWord "left" by decide) _)).withClass
        (Scales.classWord_spacingClass tokens (show ClassWord "top" by decide) _)
  split
  · exact hSized () _ hPlaced
  · exact hSized () _ hf

/-- The flex classes of a layout: direction, wrapping, alignment, gap and padding. -/
theorem withLayout_kept (tokens : (Scales.ofConfig scene.config).Tokens) {f : Fragment}
    (hf : Kept scene c f) (layout : LayoutDescriptor) :
    Yields scene (Kept scene c) (Tailwind.withLayout f node layout) := by
  simp -zeta -zetaHave only [Tailwind.withLayout]
  lift_lets
  intro flex p column
  refine Yields.config_bind ?_
  lift_lets
  intro scales padded aligned wrapped
  have spacing : ∀ pfx, ClassWord pfx → ∀ v, ClassWord (scales.spacingClass pfx v) :=
    fun _ hp v => Scales.classWord_spacingClass tokens hp v
  clear_value scales
  have hPadded : ∀ u g, Kept scene c g → Yields scene (Kept scene c) (padded u g) := by
    intro u g hg
    simp only [padded]
    split
    · exact Yields.pure hg
    split
    · exact Yields.pure (hg.withClass (spacing _ (by decide) _))
    split
    · exact Yields.pure
        ((hg.withClass (spacing _ (by decide) _)).withClass (spacing _ (by decide) _))
    · refine Yields.pure (hg.foldl_withClass _ _ fun x m => ?_)
      simp only [List.mem_filter, List.mem_cons, List.not_mem_nil, or_false] at m
      obtain ⟨rfl | rfl | rfl | rfl, -⟩ := m <;> dsimp only <;> exact spacing _ (by decide) _
  clear_value padded
  have hAligned : ∀ u g, Kept scene c g → Yields scene (Kept scene c) (aligned u g) := by
    intro u g hg
    simp -zeta -zetaHave only [aligned]
    lift_lets
    intro justified counter gapped
    have hJustified : Kept scene c justified := by
      simp only [justified]
      split <;> first | exact hg | exact hg.withClass (by decide)
    have hCounter : Kept scene c counter := by
      simp only [counter]
      exact hJustified.withClass (by split <;> decide)
    split
    · split
      · exact Yields.bind_any fun u => hPadded u _ hCounter
      · split
        · exact hPadded () _ (hCounter.withClass (spacing _ (by decide) _))
        · exact hPadded () _ hCounter
    · exact hPadded () _ hCounter
  clear_value aligned
  have hWrapped : ∀ u g, Kept scene c g → Yields scene (Kept scene c) (wrapped u g) := by
    intro u g hg
    simp only [wrapped]
    split
    · exact hAligned () _ (hg.withClass (by decide))
    · exact hAligned () _ hg
  split
  · exact hWrapped () _ ((hf.withClass (by decide)).withClass (by decide))
  · exact hWrapped () _ (hf.withClass (by decide))

/-- The classes of a node's paint and effects: background, stroke, corners, shadows, blurs and
clipping. -/
theorem shapeStyles_kept (tokens : (Scales.ofConfig scene.config).Tokens)
    (palette : scene.palette.Named) (bare : StyleAttr.classes.Bare node) {f : Fragment}
    (hf : Kept scene c f) : Yields scene (Kept scene c) (Tailwind.shapeStyles node f) := by
  simp -zeta -zetaHave only [Tailwind.shapeStyles]
  lift_lets
  intro f₀ shadows done blurred value shadowed weight
  have hDone : ∀ u g, Kept scene c g → Yields scene (Kept scene c) (done u g) :=
    fun _ _ hg => Yields.pure hg
  clear_value done
  -- each blur is an arbitrary length, added one effect at a time
  have hBlurred : ∀ u g, Kept scene c g → Yields scene (Kept scene c) (blurred u g) := by
    intro u g hg
    simp -zeta -zetaHave only [blurred]
    refine Yields.bind (Yields.forIn (Kept scene c) hg fun effect g hg => ?_) fun r hr => ?_
    · dsimp only
      split
      · exact Yields.pure (hg.withClass (classWord_arbitrary (by decide) (spaced_px _)))
      · exact Yields.pure (hg.withClass (classWord_arbitrary (by decide) (spaced_px _)))
      · exact Yields.pure hg
    · dsimp only
      split
      · exact hDone () _ (hr.withClass (by decide))
      · exact hDone () _ hr
  clear_value blurred
  have hValue : Spaced value := by
    refine spaced_tightCommas (spaced_intercalate (by decide) fun x m => ?_)
    obtain ⟨e, -, made⟩ := List.mem_filterMap.1 m
    exact Html.spaced_cssShadow e x made
  have hShadowed : ∀ u g, Kept scene c g → Yields scene (Kept scene c) (shadowed u g) := by
    intro u g hg
    simp -zeta -zetaHave only [shadowed]
    lift_lets
    intro cast
    have hCast : Kept scene c cast := by
      simp only [cast]
      split
      · exact hg.withClass (((show ClassWord "[text-shadow:" by decide).append
          (token_replaceChar_space hValue)).append (by decide))
      · exact hg.withClass (classWord_arbitrary (by decide) hValue)
    split
    · exact hBlurred () _ hCast
    · exact hBlurred () _ hg
  clear_value shadowed value
  refine Yields.reads_bind ?_
  lift_lets
  intro scales rounded stroked
  have tokens : scales.Tokens := tokens
  have radius :
      ∀ pfx, ClassWord pfx → ∀ r, ClassWord (scaled pfx r scales.radius scales.threshold) :=
    fun _ hp r => Scales.classWord_radius tokens hp r
  clear_value scales
  have hRounded : ∀ u g, Kept scene c g → Yields scene (Kept scene c) (rounded u g) := by
    intro u g hg
    simp -zeta -zetaHave only [rounded]
    lift_lets
    intro full corners
    have hCorners : Kept scene c corners := by
      simp only [corners]
      split
      · exact hg.withClass (radius _ (by decide) _)
      · refine hg.foldl_withClass _ _ fun x m => ?_
        simp only [List.mem_filter, List.mem_cons, List.not_mem_nil, or_false] at m
        obtain ⟨rfl | rfl | rfl | rfl, -⟩ := m <;> dsimp only <;> exact radius _ (by decide) _
    split
    · exact hShadowed () _ (hg.withClass (by decide))
    · split
      · exact hShadowed () _ hCorners
      · exact hShadowed () _ hg
  clear_value rounded
  have hStroked : ∀ u g, Kept scene c g → Yields scene (Kept scene c) (stroked u g) := by
    intro u g hg
    simp -zeta -zetaHave only [stroked]
    split
    · split
      · rename_i color found
        have word := classWord_findSome_colorClass (by decide) _ palette color found
        refine hRounded () _ ?_
        split
        · exact ((hg.withClass (by decide)).withClass
            (classWord_arbitrary (by decide) (spaced_px _))).withClass
              (classWord_replaceFirst word _ (by decide))
        · exact (hg.withClass (classWord_borderWidth _)).withClass word
      · exact Yields.bind_any fun u => hRounded u _ hg
    · exact hRounded () _ hg
  split
  · split
    · rename_i fill top
      exact hStroked () _ (hf.withBackground
        (fun image kind => bare.1 fill (mem_of_topPaint top) image kind) palette)
    · exact hStroked () _ hf
  · exact hStroked () _ hf

/-- The classes of a run: font family and size, weight, style, decoration, case, tracking,
leading and colour. The family is written inside an arbitrary value, so it must have no tab,
form feed or carriage return. -/
theorem runClasses_kept (tokens : (Scales.ofConfig scene.config).Tokens)
    (palette : scene.palette.Named) {run : TextRun}
    (family : ∀ ch ∈ run.fontFamily.toList, ch ≠ '\t' ∧ ch ≠ '\x0c' ∧ ch ≠ '\r')
    {f : Fragment}
    (hf : Kept scene c f) : Yields scene (Kept scene c) (Tailwind.runClasses f node run) := by
  simp -zeta -zetaHave only [Tailwind.runClasses]
  refine Yields.reads_bind ?_
  lift_lets
  intro scales font filled spaced slanted
  have tokens : scales.Tokens := tokens
  have hFont : Kept scene c font :=
    (hf.withClass (classWord_arbitrary (by decide) (spaced_cssString family))).withClass
      (Scales.classWord_fontSize tokens (by decide) _)
  clear_value font scales
  have hFilled : ∀ u g, Kept scene c g → Yields scene (Kept scene c) (filled u g) := by
    intro u g hg
    simp -zeta -zetaHave only [filled]
    lift_lets
    intro led
    have hLed : Kept scene c led := by
      simp only [led]
      split
      · exact hg
      · exact hg.withClass (classWord_arbitrary (by decide) (spaced_px _))
      · exact hg.withClass
          (classWord_arbitrary (by decide) (spaced_append.2 ⟨spaced_num _, by decide⟩))
    split
    · exact Yields.pure hLed
    · split
      · split
        · rename_i cls made
          exact Yields.pure (hLed.withClass (classWord_colorClass (by decide) _ palette cls made))
        · exact Yields.pure hLed
      · -- a gradient is painted behind the text, which lets it through
        exact Yields.pure (((hLed.withClass
          (classWord_arbitrary (by decide) (spaced_tightCommas (spaced_cssGradient _)))).withClass
            (by decide)).withClass (by decide))
      · exact Yields.bind_any fun _ => Yields.pure hLed
  clear_value filled
  have hSpaced : ∀ u g, Kept scene c g → Yields scene (Kept scene c) (spaced u g) := by
    intro u g hg
    simp -zeta -zetaHave only [spaced]
    lift_lets
    intro decorated cased tracked
    have hDecorated : Kept scene c decorated := by
      simp only [decorated]
      split <;> first | exact hg | exact hg.withClass (by decide)
    have hCased : Kept scene c cased := by
      simp only [cased]
      split <;> first | exact hDecorated | exact hDecorated.withClass (by decide)
    split
    · exact hFilled () _ (hCased.withClass (classWord_arbitrary (by decide) (spaced_px _)))
    · exact hFilled () _ hCased
  clear_value spaced
  have hSlanted : ∀ u g, Kept scene c g → Yields scene (Kept scene c) (slanted u g) := by
    intro u g hg
    simp -zeta -zetaHave only [slanted]
    split
    · exact hSpaced () _ (hg.withClass (by decide))
    · exact hSpaced () _ hg
  split
  · rename_i cls weight
    exact hSlanted () _ (hFont.withClass (classWord_weightClass _ cls weight))
  · exact hSlanted () _ hFont

/-- Styling a confined fragment whose children are confined below, then placing it, gives a
fragment confined below. -/
theorem styled_below (tokens : (Scales.ofConfig scene.config).Tokens)
    (palette : scene.palette.Named) (bare : StyleAttr.classes.Bare node) {g : Fragment}
    (hg : Confined scene .classes g)
    (below : ∀ c ∈ g.children, ConfinedBelow scene .classes .tailwind c) :
    Yields scene (ConfinedBelow scene .classes .tailwind)
      (Tailwind.shapeStyles node g >>= Tailwind.positionStyles node) :=
  Yields.bind (shapeStyles_kept tokens palette bare ⟨hg, rfl⟩) fun _ hr =>
    (positionStyles_kept tokens hr).mono fun _ hr' =>
      ConfinedBelow.of_children (fun _ => rfl) hr'.1 (by rw [hr'.2]; exact below)

/-- A paragraph holds each run's characters escaped, as its content or as the content of a span
of its own. -/
theorem text_confined (tokens : (Scales.ofConfig scene.config).Tokens)
    (palette : scene.palette.Named) (bare : StyleAttr.classes.Bare node) :
    Yields scene (ConfinedBelow scene .classes .tailwind) (Tailwind.text node) := by
  simp -zeta -zetaHave only [Tailwind.text]
  lift_lets
  intro f jp
  have styled : ∀ u g, Confined scene .classes g →
      (∀ c ∈ g.children, ConfinedBelow scene .classes .tailwind c) →
      Yields scene (ConfinedBelow scene .classes .tailwind) (jp u g) :=
    fun u g hg below => styled_below tokens palette bare hg below
  have hf : Kept scene [] f := ⟨Confined.new "p", rfl⟩
  clear_value jp f
  refine Yields.config_bind ?_
  lift_lets
  intro mode
  split
  · rename_i content holds
    lift_lets
    intro aligned
    have hAligned : Kept scene [] aligned := by
      simp only [aligned]
      split <;> first | exact hf | exact hf.withClass (by decide)
    clear_value aligned
    have family := bare.2 content holds
    split
    · exact styled _ _ hAligned.1 (by simp [hAligned.2])
    · -- one run: its characters are the paragraph's content
      rename_i run one
      refine Yields.bind (runClasses_kept tokens palette (family run (by simp [one])) hAligned)
        fun r hr => ?_
      refine styled _ _ (hr.1.withContent (.inl (Markup.escaped_escapeText _ _))) fun c m => ?_
      rw [Fragment.children_withContent, hr.2] at m
      exact absurd m List.not_mem_nil
    · -- several runs: each is a span with its characters as content, and no children
      refine Yields.bind (Yields.forIn_mem (fun g => Confined scene .classes g ∧
        ∀ c ∈ g.children, ConfinedBelow scene .classes .tailwind c)
        ⟨hAligned.1, by simp [hAligned.2]⟩
        fun run held g hg => ?_) fun r hr => ?_
      · dsimp only
        have hSpan : Kept scene []
            ((Fragment.new "span").withContent (Markup.escapeText run.characters mode)) :=
          ⟨(Confined.new "span").withContent (.inl (Markup.escaped_escapeText _ _)), rfl⟩
        refine Yields.bind (runClasses_kept tokens palette (family run held) hSpan) fun s hs => ?_
        exact Yields.pure ⟨hg.1.withChild s,
          ConfinedBelow.children_withChild (fun _ => rfl) hg.2 hs.1 hs.2⟩
      · exact styled _ _ hr.1 hr.2
  · exact styled _ _ hf.1 (by simp [hf.2])

/-- A box with children confined below, laid out, styled and placed, is confined below. -/
theorem container_confined (tokens : (Scales.ofConfig scene.config).Tokens)
    (palette : scene.palette.Named) (bare : StyleAttr.classes.Bare node)
    {children : List (AltNode × Fragment)}
    (held : ∀ c ∈ children, ConfinedBelow scene .classes .tailwind c.2) :
    Yields scene (ConfinedBelow scene .classes .tailwind) (Tailwind.container node children) := by
  simp -zeta -zetaHave only [Tailwind.container]
  lift_lets
  intro f jp
  -- the join point adds the children to a confined box with none, then styles it
  have styled : ∀ u g, Kept scene [] g →
      Yields scene (ConfinedBelow scene .classes .tailwind) (jp u g) := by
    intro u g hg
    simp only [jp]
    exact styled_below tokens palette bare (hg.1.withChildren _)
      (ConfinedBelow.children_withChildren hg.2 held)
  clear_value jp
  refine Yields.reads_bind ?_
  lift_lets
  intro relative
  have positioned : ∀ u g, Kept scene [] g →
      Yields scene (ConfinedBelow scene .classes .tailwind) (relative u g) := by
    intro u g hg
    simp only [relative]
    split
    · exact styled () _ (hg.withClass (by decide))
    · exact styled () _ hg
  clear_value relative
  split
  · rename_i layout _
    exact Yields.bind (withLayout_kept tokens ⟨Confined.new "div", rfl⟩ layout) fun g hg =>
      positioned () _ hg
  · exact positioned () _ ⟨Confined.new "div", rfl⟩

/-- The utility-class target keeps its fragments confined, when the tokens of its scales and the
names of its palette stand in classes. -/
theorem target_confines (scene : Scene) (tokens : (Scales.ofConfig scene.config).Tokens)
    (palette : scene.palette.Named) : Tailwind.target.Confines scene .classes .tailwind where
  text n bare := text_confined tokens palette bare
  vector n markup _ exported := by
    simp only [Tailwind.target, Tailwind.vector]
    refine Yields.config_bind ?_
    exact (positionStyles_kept tokens (Markup.vectorFragment_confined exported)).mono fun r hr =>
      ConfinedBelow.of_children (fun _ => rfl) hr.1 (by simp [hr.2])
  shape n bare := styled_below tokens palette bare (Confined.new "div") (by simp)
  container n children bare held := container_confined tokens palette bare held
  named n _ below := Html.withLayerName_confinedBelow (fun _ => rfl) n below

end Tailwind

/-! ### The class attribute -/

namespace Text

/-- The classes a class attribute holds, as a browser reads it: its text cut at ASCII white
space, with the empty pieces dropped. -/
def classTokens (s : String) : List String :=
  ((s.toList.splitOnP isAsciiWhite).filter (· ≠ [])).map String.ofList

/-- Words joined by single spaces cut back into the same words. -/
theorem splitOnP_intercalate_space (words : List (List Char))
    (each : ∀ w ∈ words, w ≠ [] ∧ ∀ c ∈ w, isAsciiWhite c = false) :
    (([' '].intercalate words).splitOnP isAsciiWhite).filter (· ≠ []) = words := by
  induction words with
  | nil => simp
  | cons w rest ih =>
      obtain ⟨nonempty, plain⟩ := each w List.mem_cons_self
      have restEach := fun v m => each v (List.mem_cons_of_mem w m)
      cases rest with
      | nil => simp [List.splitOnP_eq_singleton plain, nonempty]
      | cons v rest =>
          rw [List.intercalate_cons_cons, List.append_assoc, List.singleton_append,
            List.splitOnP_append_cons_of_forall_mem plain _ (by decide), List.filter_cons_of_pos
              (by simpa using nonempty), ih restEach]

/-- A class list of words reads back as those words. -/
theorem classTokens_intercalate (words : List String) (each : ∀ w ∈ words, ClassWord w) :
    classTokens (" ".intercalate words) = words := by
  have chars := splitOnP_intercalate_space (words.map String.toList) fun w m => by
    obtain ⟨s, held, rfl⟩ := List.mem_map.1 m
    exact ⟨by simpa using (each s held).2, fun c inS => ((each s held).1 c inS).2⟩
  rw [classTokens, String.toList_intercalate, show " ".toList = [' '] from rfl, chars, List.map_map]
  simp

end Text

/-- The class attribute of a fragment whose styles are classes that are words reads back as its
classes, in order. -/
theorem classTokens_classList (f : Fragment) (fits : ∀ e ∈ f.styles, StyleAttr.classes.Fits e) :
    Text.classTokens f.classList = f.styles.map Prod.fst :=
  Text.classTokens_intercalate _ fun w m => by
    obtain ⟨e, held, rfl⟩ := List.mem_map.1 m
    exact (fits e held).1

/-! ### Every fragment of a markup target -/

/-- No design string leaves its place in the markup targets, in either markup mode. Every
fragment written out for any node is confined: for the inline-style target when the image
references hold no double quote; for the utility-class target when the image references hold
no white space but spaces and no quote, the font families no tab, form feed or carriage return,
and the palette's names and the configured scale tokens stand in classes. A class attribute of
words reads back as the fragment's classes. -/
theorem markup_design_strings_confined (scene : Scene) :
    ((∀ i n, scene.tree.get? i = some n → StyleAttr.inline.Bare n) →
      ∀ fuel i ds g, BackendKind.html.Shows ((emitNode Html.target fuel i scene).run ds).1 g →
        Confined scene .inline g) ∧
    ((∀ i n, scene.tree.get? i = some n → StyleAttr.classes.Bare n) → scene.palette.Named →
      (∀ t, scene.config.scaleTable .tailwind = some t → t.Tokens) →
      ∀ fuel i ds g,
        BackendKind.tailwind.Shows ((emitNode Tailwind.target fuel i scene).run ds).1 g →
          Confined scene .classes g) ∧
    ∀ f : Fragment, (∀ e ∈ f.styles, StyleAttr.classes.Fits e) →
      Text.classTokens f.classList = f.styles.map Prod.fst := by
  refine ⟨fun bare fuel i ds g shows => ?_, fun bare palette tokens fuel i ds g shows => ?_,
    classTokens_classList⟩
  · exact (emitNode_confined (Html.target_confines scene) bare fuel i).gives ds g shows
  · have confines :=
      Tailwind.target_confines scene (Tailwind.Scales.tokens_ofConfig tokens) palette
    exact (emitNode_confined confines bare fuel i).gives ds g shows

/-- Two letters in Inter. -/
def interRun : TextRun where
  characters := "hi"
  fontSize := 12.0
  fontWeight := 400
  fontFamily := "Inter"
  italic := false
  decoration := .plain
  caseTransform := .original
  fillRef := none
  letterSpacing := 0.0
  lineHeight := .auto

/-- A label in Inter, the only node of its tree. -/
def interLabel : AltNode where
  id := 0
  sourceId := "1:1"
  sourceKind := "TEXT"
  kind := .text
  name := "Label"
  uniqueName := "Label"
  parent := none
  children := []
  geometry := ⟨0.0, 0.0, 100.0, 20.0, 0.0, 0.0⟩
  paint := ⟨[], []⟩
  stroke := ⟨0.0, .inside⟩
  cornerRadius := .uniform 0.0
  opacity := 1.0
  clipsContent := false
  layout := none
  positioning := .flow
  sizing := ⟨.fixed, .fixed⟩
  effects := []
  text := some ⟨[interRun], .left, .fixedBox⟩
  exportAsVector := false
  canFlattenToVector := false
  embeddedVectorMarkup := none

/-- The label under the default settings and the utility-class palette. -/
def interLabelScene : Scene := ⟨⟨#[interLabel], [0]⟩, RunConfig.default, Palette.tailwind⟩

theorem interLabelScene_classes_confined :
    (∀ i n, interLabelScene.tree.get? i = some n → StyleAttr.classes.Bare n) ∧
      interLabelScene.palette.Named ∧
      (∀ t, interLabelScene.config.scaleTable .tailwind = some t → t.Tokens) ∧
      ∀ fuel i ds g,
        BackendKind.tailwind.Shows
            ((emitNode Tailwind.target fuel i interLabelScene).run ds).1 g →
          Confined interLabelScene .classes g := by
  have bare : ∀ i n, interLabelScene.tree.get? i = some n → StyleAttr.classes.Bare n := by
    intro i n found
    obtain rfl : n = interLabel := by simpa [interLabelScene] using Array.mem_of_getElem? found
    refine ⟨fun e m => by simp [interLabel] at m, fun content holds run m => ?_⟩
    simp only [interLabel, Option.some.injEq] at holds
    subst holds
    obtain rfl := List.mem_singleton.1 m
    simp [interRun]
  have tokens : ∀ t, interLabelScene.config.scaleTable .tailwind = some t → t.Tokens := by
    intro t table
    obtain rfl : t = ScaleTable.tailwind := by
      simpa [interLabelScene, RunConfig.scaleTable, RunConfig.default] using table.symm
    unfold ScaleTable.Tokens
    decide
  exact ⟨bare, Palette.tailwind_named, tokens,
    (markup_design_strings_confined interLabelScene).2.1 bare Palette.tailwind_named tokens⟩

end Handoff
