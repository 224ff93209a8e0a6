/-
Module: Handoff.Proofs.Emit.Layouts
Purpose: Where each target's container puts the children it is handed. A child placed at its
  own coordinates is written out directly inside an element that lays its children over one
  another: a markup box positioned relatively or absolutely, a Flutter stack, a SwiftUI ZStack
  aligned top-leading, a Compose box. When the container has a layout, a child in the flow is
  written out directly inside the element of that layout: a markup flex box in the layout's
  direction, Flutter's flex widget of the layout, SwiftUI's stack of it, Compose's flex
  composable of it. Markup reads these from the declarations or classes of the box, which the
  layout step, the container's own relative positioning and the positioning step set, and which
  the styling steps around them keep.
Main exports: Fragment.flowStyles, Fragment.classes, Yields.and, Yields.imp, BackendKind.Shows,
  BackendKind.OverlayBox, BackendKind.FlowBox, BackendKind.Arranges,
  BackendKind.container_arranges, BackendKind.Arranges.withLayerName.
-/
import Handoff.Proofs.Emit.Marks

namespace Handoff

/-! ### Tables of declarations -/

/-- A key of an insertion-ordered table, after it is set, reads the value set; any other key
reads as before. -/
theorem lookup_setEntry (k v k' : String) :
    ∀ t : List (String × String),
      (setEntry k v t).lookup k' = if k' = k then some v else t.lookup k'
  | [] => by simp [setEntry, List.lookup]
  | (k₀, v₀) :: rest => by
      have ih := lookup_setEntry k v k' rest
      unfold setEntry
      by_cases here : k' = k₀
      · subst here
        by_cases same : k' = k <;> simp [List.lookup, same]
      · have skip : (k' == k₀) = false := by simpa using here
        by_cases same : k₀ = k
        · subst same
          simp [List.lookup, skip, here]
        · simp [List.lookup, skip, same, ih]

/-- Setting a key adds it to the keys of a table and keeps the others. -/
theorem mem_keys_setEntry (k v c : String) :
    ∀ t : List (String × String),
      c ∈ (setEntry k v t).map Prod.fst ↔ c = k ∨ c ∈ t.map Prod.fst
  | [] => by simp [setEntry]
  | (k₀, v₀) :: rest => by
      have ih := mem_keys_setEntry k v c rest
      unfold setEntry
      by_cases same : k₀ = k
      · subst same
        simp
      · simp [same, ih, or_left_comm]

namespace Fragment

/-- The declarations of a markup element that decide how it lays out and places its children:
its display, its flex direction and its positioning. -/
def flowStyles (f : Fragment) : Option String × Option String × Option String :=
  (f.styles.lookup "display", f.styles.lookup "flex-direction", f.styles.lookup "position")

/-- The classes of an element styled by utility classes: the keys of its style table. -/
def classes (f : Fragment) : List String := f.styles.map Prod.fst

@[simp] theorem styles_withChild (f c : Fragment) : (f.withChild c).styles = f.styles := by
  unfold withChild
  split <;> rfl

@[simp] theorem styles_withChildren (f : Fragment) (cs : List Fragment) :
    (f.withChildren cs).styles = f.styles := by
  induction cs generalizing f with
  | nil => rfl
  | cons c cs ih => exact (ih (f.withChild c)).trans (styles_withChild f c)

@[simp] theorem flowStyles_withStyle (f : Fragment) (k v : String) :
    (f.withStyle k v).flowStyles =
      (if "display" = k then some v else f.flowStyles.1,
        if "flex-direction" = k then some v else f.flowStyles.2.1,
        if "position" = k then some v else f.flowStyles.2.2) := by
  simp [flowStyles, withStyle, lookup_setEntry]

@[simp] theorem flowStyles_withArg (f : Fragment) (k v : String) :
    (f.withArg k v).flowStyles = f.flowStyles := rfl

@[simp] theorem flowStyles_withChildren (f : Fragment) (cs : List Fragment) :
    (f.withChildren cs).flowStyles = f.flowStyles := by
  simp [flowStyles]

@[simp] theorem mem_classes_withStyle (f : Fragment) (k v c : String) :
    c ∈ (f.withStyle k v).classes ↔ c = k ∨ c ∈ f.classes :=
  mem_keys_setEntry k v c f.styles

@[simp] theorem mem_classes_withClass (f : Fragment) (k c : String) :
    c ∈ (f.withClass k).classes ↔ c = k ∨ c ∈ f.classes :=
  mem_classes_withStyle f k "" c

@[simp] theorem classes_withArg (f : Fragment) (k v : String) :
    (f.withArg k v).classes = f.classes := rfl

@[simp] theorem classes_withChildren (f : Fragment) (cs : List Fragment) :
    (f.withChildren cs).classes = f.classes := by
  simp [classes]

/-- Classes added one after another keep the classes there were. -/
@[simp] theorem mem_classes_foldl_withClass {α : Type} (k : α → String) (c : String) :
    ∀ (xs : List α) (f : Fragment),
      c ∈ (xs.foldl (fun g x => g.withClass (k x)) f).classes ↔ c ∈ f.classes ∨ c ∈ xs.map k
  | [], f => by simp
  | x :: xs, f => by
      rw [List.foldl_cons, mem_classes_foldl_withClass k c xs, mem_classes_withClass]
      simp only [List.map_cons, List.mem_cons]
      tauto

@[simp] theorem args_withModifier (f : Fragment) (n a : String) :
    (f.withModifier n a).args = f.args := rfl

@[simp] theorem args_withChild (f c : Fragment) : (f.withChild c).args = f.args := by
  unfold withChild
  split <;> rfl

@[simp] theorem args_withChildren (f : Fragment) (cs : List Fragment) :
    (f.withChildren cs).args = f.args := by
  induction cs generalizing f with
  | nil => rfl
  | cons c cs ih => exact (ih (f.withChild c)).trans (args_withChild f c)

end Fragment

/-! ### Combining what steps yield -/

namespace Yields

variable {α : Type} {scene : Scene} {m : Emit α}

theorem and {P Q : α → Prop} (first : Yields scene P m) (second : Yields scene Q m) :
    Yields scene (fun a => P a ∧ Q a) m :=
  ⟨fun ds => ⟨first.gives ds, second.gives ds⟩⟩

/-- What a step yields under a condition on the scene or the input, not on its result. -/
theorem imp {A : Prop} {P : α → Prop} (given : A → Yields scene P m) :
    Yields scene (fun a => A → P a) m :=
  ⟨fun ds holds => (given holds).gives ds⟩

theorem «forall» {ι : Type} {P : ι → α → Prop} (each : ∀ i, Yields scene (P i) m) :
    Yields scene (fun a => ∀ i, P i a) m :=
  ⟨fun ds i => (each i).gives ds⟩

end Yields

/-! ### Markup: the flow declarations -/

namespace Html

@[simp] theorem flowStyles_withBackground (f : Fragment) (fill : PaintEntry) (v : Bool) :
    (Html.withBackground f fill v).flowStyles = f.flowStyles := by
  unfold Html.withBackground
  split <;> (try split) <;> simp

theorem flowStyles_withSize (f : Fragment) {p : String}
    (other : p ∉ ["display", "flex-direction", "position"]) (d : Dim) (m : Bool) :
    (Html.withSize f p d m).flowStyles = f.flowStyles := by
  unfold Html.withSize
  simp only [List.mem_cons, List.not_mem_nil, or_false, not_or] at other
  split <;> (try split) <;> simp [Ne.symm other.1, Ne.symm other.2.1, Ne.symm other.2.2]

/-- The shape styles set no display, flex direction or positioning. -/
theorem shapeStyles_flowStyles (scene : Scene) (node : AltNode) (g : Fragment) :
    Yields scene (·.flowStyles = g.flowStyles) (Html.shapeStyles node g) := by
  simp -zeta -zetaHave only [Html.shapeStyles]
  lift_lets
  repeat' first
    | (intro x; refine (fun (hx : ∀ (u : Unit) (h : Fragment), h.flowStyles = g.flowStyles →
          Yields scene (·.flowStyles = g.flowStyles) (x u h)) => ?_) ?_; clear_value x)
    | (intro x; simp -zeta -zetaHave only [x])
    | intro _
    | lift_lets
    | ((with_reducible refine Yields.pure ?_); simp [*])
    | ((with_reducible refine Yields.call ?_ _ _ ?_); (with_reducible assumption);
        (repeat' split) <;> simp [*])
    | (simp -zeta -zetaHave only [x])
    | (with_reducible refine Yields.forIn_keeping ?_ (fun _ _ _ => ?_) fun _ _ => ?_)
    | with_reducible refine Yields.bind_any fun _ => ?_
    | split
    | assumption

/-- Positioning sets no display or flex direction, and positions absolutely or not at all. -/
theorem positionStyles_flowStyles (scene : Scene) (node : AltNode) (g : Fragment) :
    Yields scene (fun r => r.flowStyles = g.flowStyles ∨
      r.flowStyles = (g.flowStyles.1, g.flowStyles.2.1, some "absolute"))
      (Html.positionStyles node g) := by
  unfold Html.positionStyles
  refine Yields.reads_bind ?_
  repeat' first
    | with_reducible refine Yields.ite (fun _ => ?_) (fun _ => ?_)
    | exact Yields.pure (by simp [flowStyles_withSize])

/-- Styling keeps the display and flex direction of what it styles, and its positioning unless
it positions it absolutely. -/
theorem styled_flowStyles (scene : Scene) (node : AltNode) (g : Fragment) :
    Yields scene (fun r => r.flowStyles.1 = g.flowStyles.1 ∧
      r.flowStyles.2.1 = g.flowStyles.2.1 ∧
      (r.flowStyles.2.2 = g.flowStyles.2.2 ∨ r.flowStyles.2.2 = some "absolute"))
      (Html.shapeStyles node g >>= Html.positionStyles node) :=
  Yields.bind (shapeStyles_flowStyles scene node g) fun h same =>
    (positionStyles_flowStyles scene node h).mono fun r placed => by
      rcases placed with kept | absolute
      · simp [kept, same]
      · simp [absolute, same]

/-- A flex layout declares a flex display, a column direction exactly for a column, and no
positioning, on a fragment that declared none of them. -/
theorem withLayout_flowStyles (scene : Scene) (node : AltNode) (l : LayoutDescriptor)
    {f : Fragment} (bare : f.flowStyles = (none, none, none)) :
    Yields scene (·.flowStyles =
      (some "flex", if l.direction = .column then some "column" else none, none))
      (Html.withLayout f node l) := by
  generalize direction : (if l.direction = .column then some "column" else none) = dir
  simp -zeta -zetaHave only [Html.withLayout]
  lift_lets
  repeat' first
    | (intro x; refine (fun (hx : ∀ (u : Unit) (h : Fragment),
          h.flowStyles = (some "flex", dir, none) →
          Yields scene (·.flowStyles = (some "flex", dir, none)) (x u h)) => ?_) ?_; clear_value x)
    | (intro x; simp -zeta -zetaHave only [x])
    | intro _
    | lift_lets
    | with_reducible refine Yields.ite (fun _ => ?_) (fun _ => ?_)
    | ((with_reducible refine Yields.pure ?_); simp_all)
    | ((with_reducible refine Yields.call ?_ _ _ ?_); (with_reducible assumption);
        (repeat' split) <;> simp_all)
    | (simp -zeta -zetaHave only [x])
    | with_reducible refine Yields.bind_any fun _ => ?_
    | split

/-- A markup container is a flex box in the direction of its layout, if it has one, and is
positioned, relatively or absolutely, when one of its children is placed absolutely. -/
theorem container_flowStyles (scene : Scene) (node : AltNode)
    (children : List (AltNode × Fragment)) :
    Yields scene (fun r =>
      (children.any (fun c => scene.isAbsolute c.1) = true →
        r.flowStyles.2.2 = some "relative" ∨ r.flowStyles.2.2 = some "absolute") ∧
      ∀ l, node.layout = some l → r.flowStyles.1 = some "flex" ∧
        r.flowStyles.2.1 = if l.direction = .column then some "column" else none)
      (Html.container node children) := by
  -- what the box declares before it is styled, styling keeps
  have styled : ∀ g : Fragment,
      (children.any (fun c => scene.isAbsolute c.1) = true →
        g.flowStyles.2.2 = some "relative") →
      (∀ l, node.layout = some l → g.flowStyles.1 = some "flex" ∧
        g.flowStyles.2.1 = if l.direction = .column then some "column" else none) →
      Yields scene (fun r =>
        (children.any (fun c => scene.isAbsolute c.1) = true →
          r.flowStyles.2.2 = some "relative" ∨ r.flowStyles.2.2 = some "absolute") ∧
        ∀ l, node.layout = some l → r.flowStyles.1 = some "flex" ∧
          r.flowStyles.2.1 = if l.direction = .column then some "column" else none)
        (Html.shapeStyles node (g.withChildren (children.map Prod.snd)) >>=
          Html.positionStyles node) := by
    intro g relative laid
    refine (styled_flowStyles scene node _).mono fun r kept => ?_
    obtain ⟨display, direction, placed⟩ := kept
    simp only [Fragment.flowStyles_withChildren] at display direction placed
    refine ⟨fun overlaid => ?_, fun l layout => ?_⟩
    · rw [← relative overlaid]
      exact placed
    · rw [display, direction]
      exact laid l layout
  simp only [Html.container]
  refine Yields.reads_bind ?_
  split
  · rename_i l layout
    refine Yields.bind (withLayout_flowStyles scene node l rfl) fun g laid => ?_
    split
    · refine styled _ (fun _ => by simp) fun l' same => ?_
      obtain rfl : l = l' := Option.some.inj (layout.symm.trans same)
      simp [laid]
    · refine styled _ (fun overlaid => absurd overlaid ‹_›) fun l' same => ?_
      obtain rfl : l = l' := Option.some.inj (layout.symm.trans same)
      simp [laid]
  · rename_i none
    split
    · exact styled _ (fun _ => by simp) fun l same => absurd (none l same) (by simp)
    · exact styled _ (fun overlaid => absurd overlaid ‹_›) fun l same => absurd (none l same) (by simp)

end Html

/-! ### Utility classes: the flow classes -/

namespace Tailwind

variable (scene : Scene) (node : AltNode) (c : String)

theorem mem_classes_withSize {f : Fragment} (has : c ∈ f.classes) (p : String) (d : Dim)
    (m : Bool) (s : Tailwind.Scales) : c ∈ (Tailwind.withSize f p d m s).classes := by
  unfold Tailwind.withSize
  split <;> (try split) <;> simp [has]

theorem mem_classes_withBackground {f : Fragment} (has : c ∈ f.classes) (fill : PaintEntry) :
    c ∈ (Tailwind.withBackground f fill scene).classes := by
  unfold Tailwind.withBackground
  split <;> (try split) <;> simp [has]

/-- The shape styles only add classes. -/
theorem shapeStyles_classes {g : Fragment} (has : c ∈ g.classes) :
    Yields scene (c ∈ ·.classes) (Tailwind.shapeStyles node g) := by
  simp -zeta -zetaHave only [Tailwind.shapeStyles]
  lift_lets
  repeat' first
    | (intro x; refine (fun (hx : ∀ (u : Unit) (h : Fragment), c ∈ h.classes →
          Yields scene (c ∈ ·.classes) (x u h)) => ?_) ?_; clear_value x)
    | (intro x; simp -zeta -zetaHave only [x])
    | intro _
    | lift_lets
    | ((with_reducible refine Yields.pure ?_); simp [*])
    | ((with_reducible refine Yields.call ?_ _ _ ?_); (with_reducible assumption);
        (repeat' split) <;> simp [*, mem_classes_withBackground])
    | (simp -zeta -zetaHave only [x])
    | (with_reducible refine Yields.forIn_keeping ?_ (fun _ _ _ => ?_) fun _ _ => ?_)
    | with_reducible refine Yields.bind_any fun _ => ?_
    | split
    | assumption

/-- Positioning only adds classes, among them the absolute class of a node placed at its own
coordinates. -/
theorem positionStyles_classes {g : Fragment}
    (has : c ∈ g.classes ∨ c = "absolute" ∧ scene.isAbsolute node = true) :
    Yields scene (c ∈ ·.classes) (Tailwind.positionStyles node g) := by
  unfold Tailwind.positionStyles
  refine Yields.reads_bind ?_
  rcases has with has | ⟨rfl, absolute⟩ <;>
  repeat' first
    | with_reducible refine Yields.ite (fun _ => ?_) (fun _ => ?_)
    | exact Yields.pure (by (try split_ifs) <;> simp_all [mem_classes_withSize])

/-- Styling keeps the classes of what it styles and places a node at its own coordinates
absolutely. -/
theorem styled_classes {g : Fragment}
    (has : c ∈ g.classes ∨ c = "absolute" ∧ scene.isAbsolute node = true) :
    Yields scene (c ∈ ·.classes) (Tailwind.shapeStyles node g >>= Tailwind.positionStyles node) := by
  rcases has with has | absolute
  · exact Yields.bind (shapeStyles_classes scene node c has) fun h has' =>
      positionStyles_classes scene node c (.inl has')
  · exact Yields.bind_any fun h => positionStyles_classes scene node c (.inr absolute)

/-- A layout's classes make a flex box, a column one for a column. -/
theorem withLayout_classes (l : LayoutDescriptor) (f : Fragment)
    (added : c = "flex" ∨ l.direction = .column ∧ c = "flex-col") :
    Yields scene (c ∈ ·.classes) (Tailwind.withLayout f node l) := by
  simp -zeta -zetaHave only [Tailwind.withLayout]
  refine Yields.bind_any fun _ => ?_
  lift_lets
  rcases added with added | ⟨column, added⟩ <;>
  repeat' first
    | (intro x; refine (fun (hx : ∀ (u : Unit) (h : Fragment), c ∈ h.classes →
          Yields scene (c ∈ ·.classes) (x u h)) => ?_) ?_; clear_value x)
    | (intro x; simp -zeta -zetaHave only [x])
    | intro _
    | lift_lets
    | with_reducible refine Yields.ite (fun _ => ?_) (fun _ => ?_)
    -- a value, put in place: the class is named, so the fragments' facts read directly
    | ((with_reducible refine Yields.pure ?_); subst_vars; simp [*])
    | ((with_reducible refine Yields.call ?_ _ _ ?_); (with_reducible assumption); subst_vars;
        (repeat' split) <;> first | (simp [*]; done) | simp_all)
    | (simp -zeta -zetaHave only [x])
    | with_reducible refine Yields.bind_any fun _ => ?_

/-- A utility-class container is a flex box with the classes of its layout's direction, if it
has a layout, and is positioned, relatively or absolutely, when one of its children is placed
absolutely. -/
theorem container_classes (children : List (AltNode × Fragment)) :
    Yields scene (fun r =>
      (children.any (fun c => scene.isAbsolute c.1) = true →
        "relative" ∈ r.classes ∨ "absolute" ∈ r.classes) ∧
      ∀ l, node.layout = some l → "flex" ∈ r.classes ∧
        (l.direction = .column → "flex-col" ∈ r.classes))
      (Tailwind.container node children) := by
  -- a class the box has before it is styled, or the absolute class, survives styling
  have styled : ∀ g : Fragment,
      (children.any (fun c => scene.isAbsolute c.1) = true → scene.isAbsolute node = false →
        "relative" ∈ g.classes) →
      (∀ l, node.layout = some l → "flex" ∈ g.classes ∧
        (l.direction = .column → "flex-col" ∈ g.classes)) →
      Yields scene (fun r =>
        (children.any (fun c => scene.isAbsolute c.1) = true →
          "relative" ∈ r.classes ∨ "absolute" ∈ r.classes) ∧
        ∀ l, node.layout = some l → "flex" ∈ r.classes ∧
          (l.direction = .column → "flex-col" ∈ r.classes))
        (Tailwind.shapeStyles node (g.withChildren (children.map Prod.snd)) >>=
          Tailwind.positionStyles node) := by
    intro g relative laid
    refine Yields.and (Yields.imp fun overlaid => ?_) (Yields.forall fun l => Yields.imp
      fun layout => Yields.and ?_ (Yields.imp fun column => ?_))
    · cases placed : scene.isAbsolute node
      · have has : "relative" ∈ g.classes := relative overlaid placed
        exact (styled_classes scene node "relative" (.inl (by simpa using has))).mono
          fun _ has => .inl has
      · exact (styled_classes scene node "absolute" (.inr ⟨rfl, placed⟩)).mono
          fun _ has => .inr has
    · exact styled_classes scene node "flex" (.inl (by simpa using (laid l layout).1))
    · exact styled_classes scene node "flex-col" (.inl (by simpa using (laid l layout).2 column))
  simp only [Tailwind.container]
  refine Yields.reads_bind ?_
  split
  · rename_i l layout
    refine Yields.bind (Yields.and (withLayout_classes scene node "flex" l _ (.inl rfl))
      (Yields.imp fun column => withLayout_classes scene node "flex-col" l _ (.inr ⟨column, rfl⟩)))
      fun g laid => ?_
    obtain ⟨flex, flexCol⟩ := laid
    split
    · refine styled _ (fun _ _ => by simp) fun l' same => ?_
      obtain rfl : l = l' := Option.some.inj (layout.symm.trans same)
      exact ⟨by simp [flex], fun column => by simp [flexCol column]⟩
    · next bare =>
      refine styled _ (fun overlaid inFlow => absurd (by simp [overlaid, inFlow]) bare)
        fun l' same => ?_
      obtain rfl : l = l' := Option.some.inj (layout.symm.trans same)
      exact ⟨flex, flexCol⟩
  · rename_i none
    split
    · exact styled _ (fun _ _ => by simp) fun l same => absurd (none l same) (by simp)
    · next bare =>
      exact styled _ (fun overlaid inFlow => absurd (by simp [overlaid, inFlow]) bare)
        fun l same => absurd (none l same) (by simp)

end Tailwind

/-! ### SwiftUI keeps the arguments of what it styles -/

namespace SwiftUi

@[simp] theorem args_framed (f : Fragment) (node : AltNode) (a : Option String) :
    (SwiftUi.framed f node a).args = f.args := by
  unfold SwiftUi.framed
  dsimp only
  split <;> (try split) <;> (try split) <;> rfl

/-- SwiftUI styles a view with modifiers only. -/
theorem shapeStyles_args (scene : Scene) (node : AltNode) (g : Fragment) :
    Yields scene (·.args = g.args) (SwiftUi.shapeStyles node g) := by
  simp -zeta -zetaHave only [SwiftUi.shapeStyles]
  lift_lets
  repeat' first
    | (intro x; refine (fun (hx : ∀ (u : Unit) (h : Fragment), h.args = g.args →
          Yields scene (·.args = g.args) (x u h)) => ?_) ?_; clear_value x)
    | (intro x; simp -zeta -zetaHave only [x])
    | intro _
    | lift_lets
    | ((with_reducible refine Yields.pure ?_); simp [*])
    | ((with_reducible refine Yields.call ?_ _ _ ?_); (with_reducible assumption);
        (repeat' split) <;> simp [*])
    | (simp -zeta -zetaHave only [x])
    | (with_reducible refine Yields.forIn_keeping ?_ (fun _ _ _ => ?_) fun _ _ => ?_)
    | with_reducible refine Yields.bind_any fun _ => ?_
    | split
    | assumption

theorem positionStyles_args (scene : Scene) (node : AltNode) (g : Fragment) :
    Yields scene (·.args = g.args) (SwiftUi.positionStyles node g) := by
  unfold SwiftUi.positionStyles
  refine Yields.reads_bind ?_
  repeat' first
    | with_reducible refine Yields.ite (fun _ => ?_) (fun _ => ?_)
    | exact Yields.pure (by simp)

/-- Space-between only adds spacers between the flow children. -/
theorem mem_arranged (layout : LayoutDescriptor) {flow : List Fragment} {c : Fragment}
    (mem : c ∈ flow) : c ∈ SwiftUi.arranged layout flow := by
  unfold SwiftUi.arranged
  split
  · induction flow with
    | nil => exact absurd mem List.not_mem_nil
    | cons f rest ih =>
        cases rest with
        | nil => exact mem
        | cons g rest =>
            rw [List.intersperse_cons_cons]
            rcases List.mem_cons.1 mem with rfl | later
            · exact List.mem_cons_self
            · exact .tail _ (.tail _ (ih later))
  · exact mem

end SwiftUi

/-! ### Where a container puts its children -/

/-- The fragment `g` is written out inside `f`: it is `f`, or it is written out inside a child
of `f` that the renderer writes out. -/
def BackendKind.Shows (b : BackendKind) : Fragment → Fragment → Prop :=
  Relation.ReflTransGen fun f g => g ∈ b.printedChildren f

/-- The elements a target lays children over one another in, each at its own coordinates: in
markup a box positioned relatively or absolutely, which contains the boxes placed absolutely
inside it; a stack in Flutter; a ZStack aligned top-leading in SwiftUI; a box in Compose. -/
def BackendKind.OverlayBox : BackendKind → Fragment → Prop
  | .html, g => g.styles.lookup "position" = some "relative" ∨
      g.styles.lookup "position" = some "absolute"
  | .tailwind, g => "relative" ∈ g.classes ∨ "absolute" ∈ g.classes
  | .flutter, g => g.element = "Stack"
  | .swiftUi, g => g.element = "ZStack" ∧ g.args.lookup "alignment" = some ".topLeading"
  | .compose, g => g.element = "Box"

/-- The elements a target lays out the flow `l` in: in markup a flex box, laid out in a column
exactly when `l` is one (with utility classes, carrying the column class for a column);
Flutter's flex widget of the layout; SwiftUI's stack of the layout; Compose's flex composable of
the layout. -/
def BackendKind.FlowBox : BackendKind → LayoutDescriptor → Fragment → Prop
  | .html, l, g => g.styles.lookup "display" = some "flex" ∧
      (g.styles.lookup "flex-direction" = some "column" ↔ l.direction = .column)
  | .tailwind, l, g => "flex" ∈ g.classes ∧ (l.direction = .column → "flex-col" ∈ g.classes)
  | .flutter, l, g => g.element = Flutter.flexElement l
  | .swiftUi, l, g => g.element = SwiftUi.stackElement l
  | .compose, l, g => g.element = Compose.flowElement l

/-- The container fragment `r` of target `b` writes out each fragment of `absolute` as a child
of an overlay element inside it and, when it has a layout, each fragment of `flow` as a child of
the element of that layout inside it. -/
def BackendKind.Arranges (b : BackendKind) (layout : Option LayoutDescriptor)
    (flow absolute : List Fragment) (r : Fragment) : Prop :=
  (∀ c ∈ absolute, ∃ g, b.Shows r g ∧ c ∈ b.printedChildren g ∧ b.OverlayBox g) ∧
    ∀ l, layout = some l → ∀ c ∈ flow, ∃ g, b.Shows r g ∧ c ∈ b.printedChildren g ∧ b.FlowBox l g

theorem mem_keptAt {p : Positioning} {children : List (AltNode × Fragment)} {c : Fragment} :
    c ∈ keptAt p children ↔ (∃ n, (n, c) ∈ children ∧ n.positioning = p) ∧ c.isEmpty = false := by
  simp [keptAt]

theorem mem_keptChildren_of_mem_keptAt {p : Positioning} {children : List (AltNode × Fragment)}
    {c : Fragment} (mem : c ∈ keptAt p children) : c ∈ keptChildren children := by
  obtain ⟨⟨n, kept, -⟩, shown⟩ := mem_keptAt.1 mem
  simp only [keptChildren, List.mem_filter, List.mem_map, shown, Bool.not_false, and_true]
  exact ⟨(n, c), kept, rfl⟩

/-- A markup box holding the non-empty children, overlaying when a child is placed absolutely
and a flex box of its layout, arranges them. -/
theorem BackendKind.markup_arranges {b : BackendKind} {scene : Scene}
    {layout : Option LayoutDescriptor} {children : List (AltNode × Fragment)} {r : Fragment}
    (inner : ∀ c ∈ children, c.1.isRoot = false) (held : b.Holds r (keptChildren children))
    (overlay : children.any (fun c => scene.isAbsolute c.1) = true → b.OverlayBox r)
    (laid : ∀ l, layout = some l → b.FlowBox l r) :
    b.Arranges layout (keptAt .flow children) (keptAt .absolute children) r := by
  refine ⟨fun c mem => ⟨r, .refl, held.2 ▸ mem_keptChildren_of_mem_keptAt mem, overlay ?_⟩,
    fun l layout c mem => ⟨r, .refl, held.2 ▸ mem_keptChildren_of_mem_keptAt mem, laid l layout⟩⟩
  obtain ⟨⟨n, kept, placed⟩, -⟩ := mem_keptAt.1 mem
  simp only [List.any_eq_true]
  exact ⟨(n, c), kept, by simp [Scene.isAbsolute, inner _ kept, placed]⟩

theorem Html.container_arranges (scene : Scene) (node : AltNode)
    (children : List (AltNode × Fragment)) (inner : ∀ c ∈ children, c.1.isRoot = false) :
    Yields scene (BackendKind.html.Arranges node.layout (keptAt .flow children)
      (keptAt .absolute children)) (Html.container node children) :=
  (Yields.and (Html.container_places scene node children)
    (Html.container_flowStyles scene node children)).mono fun r facts =>
    BackendKind.markup_arranges inner facts.1 facts.2.1 fun l layout => by
      obtain ⟨display, direction⟩ := facts.2.2 l layout
      refine ⟨display, ?_⟩
      show r.flowStyles.2.1 = some "column" ↔ _
      rw [direction]
      split <;> simp_all

theorem Tailwind.container_arranges (scene : Scene) (node : AltNode)
    (children : List (AltNode × Fragment)) (inner : ∀ c ∈ children, c.1.isRoot = false) :
    Yields scene (BackendKind.tailwind.Arranges node.layout (keptAt .flow children)
      (keptAt .absolute children)) (Tailwind.container node children) :=
  (Yields.and (Tailwind.container_places scene node children)
    (Tailwind.container_classes scene node children)).mono fun _ facts =>
    BackendKind.markup_arranges inner facts.1 facts.2.1 facts.2.2

/-- Flutter's container holds the flex widget of its layout, with the flow children, on a stack
with the absolute children when there are any; without a layout, a stack of all children. -/
theorem Flutter.container_arranges (scene : Scene) (node : AltNode)
    (children : List (AltNode × Fragment)) :
    Yields scene (BackendKind.flutter.Arranges node.layout (keptAt .flow children)
      (keptAt .absolute children)) (Flutter.container node children) := by
  have flowPresent := keptAt_filter .flow children
  have absPresent := keptAt_filter .absolute children
  simp only [Flutter.container, partitionChildren_eq, pure_bind]
  generalize keptAt .flow children = flow at flowPresent ⊢
  generalize keptAt .absolute children = absolute at absPresent ⊢
  cases node.layout with
  | some layout =>
      refine Yields.bind (Flutter.flex_shape scene node layout flowPresent) fun f flex => ?_
      have held := BackendKind.holds_of_shape flex (Flutter.flexElement_printsAll layout)
      have shown : f.isEmpty = false :=
        BackendKind.isEmpty_of_printsAll (by decide) flex (Flutter.flexElement_printsAll layout)
      -- the flow children are children of the flex widget, wherever it is shown
      have inFlex : ∀ r, BackendKind.flutter.Shows r f → ∀ l, some layout = some l →
          ∀ c ∈ flow, ∃ g, BackendKind.flutter.Shows r g ∧
            c ∈ BackendKind.flutter.printedChildren g ∧ BackendKind.flutter.FlowBox l g := by
        rintro r shows l ⟨⟩ c mem
        exact ⟨f, shows, held.2 ▸ mem, (Fragment.shape_eq_iff.mp flex).1⟩
      cases absolute with
      | nil =>
          refine (Flutter.boxed_holds scene node f).mono fun r box =>
            ⟨fun c mem => absurd mem List.not_mem_nil, inFlex r (.single ?_)⟩
          simp [box.2, shown]
      | cons a rest =>
          have stacked : BackendKind.flutter.Holds
              (((Fragment.new "Stack").withChild f).withChildren (a :: rest)) (f :: a :: rest) :=
            BackendKind.holds_of_shape (e := "Stack") (by simp [shown, absPresent]) (by decide)
          refine (Flutter.boxed_holds scene node _).mono fun r box => ?_
          -- the box shows the stack, which holds the flex widget and the absolute children
          have boxed : ((Fragment.new "Stack").withChild f).withChildren (a :: rest) ∈
              BackendKind.flutter.printedChildren r := by
            simp [box.2, Fragment.isEmpty]
          exact ⟨fun c mem => ⟨_, .single boxed, stacked.2 ▸ List.mem_cons_of_mem _ mem,
            by simp [BackendKind.OverlayBox]⟩,
            inFlex r (.tail (.single boxed) (stacked.2 ▸ List.mem_cons_self))⟩
  | none =>
      by_cases nothing : (flow.isEmpty && absolute.isEmpty) = true
      · rw [if_pos nothing]
        simp only [Bool.and_eq_true, List.isEmpty_iff] at nothing
        obtain ⟨rfl, rfl⟩ := nothing
        exact (Flutter.boxed_holds scene node _).mono fun _ _ =>
          ⟨fun c mem => absurd mem List.not_mem_nil, fun _ none => absurd none (by simp)⟩
      · rw [if_neg nothing]
        have stacked : BackendKind.flutter.Holds
            (((Fragment.new "Stack").withChildren flow).withChildren absolute) (flow ++ absolute) :=
          BackendKind.holds_of_shape (e := "Stack") (by simp [flowPresent, absPresent]) (by decide)
        have shown : (((Fragment.new "Stack").withChildren flow).withChildren absolute).isEmpty =
            false := by
          simp [Fragment.isEmpty]
        refine (Flutter.boxed_holds scene node _).mono fun r box => ?_
        have boxed : ((Fragment.new "Stack").withChildren flow).withChildren absolute ∈
            BackendKind.flutter.printedChildren r := by
          simp [box.2, shown]
        exact ⟨fun c mem => ⟨_, .single boxed, stacked.2 ▸ List.mem_append_right _ mem,
          by simp [BackendKind.OverlayBox]⟩, fun _ none => absurd none (by simp)⟩

/-- SwiftUI's container is the stack of its layout, holding the flow children, under a
top-leading overlay with the absolute children when there are any; without a layout, a
top-leading overlay of all children. -/
theorem SwiftUi.container_arranges (scene : Scene) (node : AltNode)
    (children : List (AltNode × Fragment)) :
    Yields scene (BackendKind.swiftUi.Arranges node.layout (keptAt .flow children)
      (keptAt .absolute children)) (SwiftUi.container node children) := by
  have keeps := fun f => (styling_keepsShape scene node f).2.2.2.1
  -- framing and styling keep the view, its children and its arguments
  have styled : ∀ (f : Fragment) (a : Option String), Yields scene
      (fun r => r.shape = f.shape ∧ r.args = f.args)
      (SwiftUi.shapeStyles node (SwiftUi.framed f node a) >>= SwiftUi.positionStyles node) :=
    fun f a => Yields.bind (Yields.and ((keeps _).2) (SwiftUi.shapeStyles_args scene node _))
      fun g kept => (Yields.and ((keeps g).1) (SwiftUi.positionStyles_args scene node g)).mono
        fun r kept' => ⟨by simp [kept'.1, kept.1], by simp [kept'.2, kept.2]⟩
  have flowPresent := keptAt_filter .flow children
  have absPresent := keptAt_filter .absolute children
  simp only [SwiftUi.container, partitionChildren_eq, pure_bind]
  generalize keptAt .flow children = flow at flowPresent ⊢
  generalize keptAt .absolute children = absolute at absPresent ⊢
  -- a top-leading overlay, styled, is one
  have overlay : ∀ r : Fragment, r.element = "ZStack" →
      r.args = [("alignment", ".topLeading")] → BackendKind.swiftUi.OverlayBox r :=
    fun r element args => ⟨element, by simp [args]⟩
  cases node.layout with
  | some layout =>
      refine Yields.bind (SwiftUi.stack_shape scene node layout flowPresent) fun s stack => ?_
      have held := BackendKind.holds_of_shape stack (SwiftUi.stackElement_printsAll layout)
      -- the flow children are children of any view with the stack's shape
      have inStack : ∀ r g, BackendKind.swiftUi.Shows r g → g.shape = s.shape →
          ∀ l, some layout = some l → ∀ c ∈ flow, ∃ g, BackendKind.swiftUi.Shows r g ∧
            c ∈ BackendKind.swiftUi.printedChildren g ∧ BackendKind.swiftUi.FlowBox l g := by
        rintro r g shows same l ⟨⟩ c mem
        have held' := BackendKind.holds_of_shape (same.trans stack)
          (SwiftUi.stackElement_printsAll layout)
        exact ⟨g, shows, held'.2 ▸ SwiftUi.mem_arranged layout mem,
          (Fragment.shape_eq_iff.mp (same.trans stack)).1⟩
      cases absolute with
      | nil =>
          exact (styled _ _).mono fun r kept =>
            ⟨fun c mem => absurd mem List.not_mem_nil, inStack r r .refl kept.1⟩
      | cons a rest =>
          have shown : s.isEmpty = false :=
            BackendKind.isEmpty_of_printsAll (by decide) stack (SwiftUi.stackElement_printsAll layout)
          refine (styled _ _).mono fun r kept => ?_
          obtain ⟨same, args⟩ := kept
          have zstack : BackendKind.swiftUi.Holds r (s :: a :: rest) :=
            BackendKind.holds_of_shape (e := "ZStack") (by simp [same, shown, absPresent])
              (by decide)
          exact ⟨fun c mem => ⟨r, .refl, zstack.2 ▸ List.mem_cons_of_mem _ mem,
            overlay r (by simpa using Fragment.element_eq_of_shape same)
              (by simpa [Fragment.withArg, Fragment.new, setEntry] using args)⟩,
            inStack r s (.single (zstack.2 ▸ List.mem_cons_self)) rfl⟩
  | none =>
      refine (styled _ _).mono fun r kept => ?_
      obtain ⟨same, args⟩ := kept
      have zstack : BackendKind.swiftUi.Holds r (flow ++ absolute) :=
        BackendKind.holds_of_shape (e := "ZStack") (by simp [same, flowPresent, absPresent])
          (by decide)
      refine ⟨fun c mem => ⟨r, .refl, ?_, overlay r (by simpa using Fragment.element_eq_of_shape same)
          (by simpa [Fragment.withArg, Fragment.new, setEntry] using args)⟩,
        fun _ none => absurd none (by simp)⟩
      exact zstack.2 ▸ List.mem_append_right _ mem

/-- Compose's container is the flex composable of its layout holding the flow children, or a
box over it with the absolute children when there are any; without a layout, a box of all
children. -/
theorem Compose.container_arranges (scene : Scene) (node : AltNode)
    (children : List (AltNode × Fragment)) :
    Yields scene (BackendKind.compose.Arranges node.layout (keptAt .flow children)
      (keptAt .absolute children)) (Compose.container node children) := by
  have outer := Compose.styled_shape scene node
  have flowPresent := keptAt_filter .flow children
  have absPresent := keptAt_filter .absolute children
  simp only [Compose.container, partitionChildren_eq]
  generalize keptAt .flow children = flow at flowPresent ⊢
  generalize keptAt .absolute children = absolute at absPresent ⊢
  cases node.layout with
  | some layout =>
      -- the flow children are children of any composable with the flex composable's shape
      have inFlow : ∀ r g, BackendKind.compose.Shows r g →
          g.shape = (Compose.flowElement layout, flow) → ∀ l, some layout = some l →
          ∀ c ∈ flow, ∃ g, BackendKind.compose.Shows r g ∧
            c ∈ BackendKind.compose.printedChildren g ∧ BackendKind.compose.FlowBox l g := by
        rintro r g shows same l ⟨⟩ c mem
        have held := BackendKind.holds_of_shape same (Compose.flowElement_printsAll layout)
        exact ⟨g, shows, held.2 ▸ mem, (Fragment.shape_eq_iff.mp same).1⟩
      cases absolute with
      | nil =>
          -- the flex composable takes the node's own modifiers and keeps its children
          refine Yields.bind (Compose.flow_shape scene node layout flowPresent) fun inner flex => ?_
          refine Yields.bind (outer _) fun styled box => Yields.pure ?_
          obtain ⟨element, kids⟩ := Fragment.shape_eq_iff.mp flex
          obtain ⟨same, -⟩ := Fragment.shape_eq_iff.mp box
          refine ⟨fun c mem => absurd mem List.not_mem_nil, inFlow _ _ .refl ?_⟩
          rw [Compose.shape_paddingModifier]
          simp [Fragment.shape, element, kids, same]
      | cons a rest =>
          refine Yields.bind (Compose.flow_shape scene node layout flowPresent) fun inner flex => ?_
          -- the flex composable, padded, and matching the box's size when that is fixed
          have padded := fun fixed => Compose.padded_shape flex fixed layout.padding
          have shown := fun fixed => Compose.padded_isEmpty flex fixed layout.padding
          refine Yields.bind (outer "Box") fun box boxed => Yields.pure ?_
          obtain ⟨element, bare⟩ := Fragment.shape_eq_iff.mp boxed
          -- a box holding the padded flex composable, then the absolute children
          have stacked : ∀ p : Fragment, p.shape = (Compose.flowElement layout, flow) →
              p.isEmpty = false → BackendKind.compose.Arranges (some layout) flow (a :: rest)
                ((box.withChild p).withChildren (a :: rest)) := by
            intro p shaped shownP
            have held : BackendKind.compose.Holds ((box.withChild p).withChildren (a :: rest))
                (p :: a :: rest) :=
              BackendKind.holds_of_shape (e := "Box") (by simp [shownP, absPresent, element, bare])
                (by decide)
            exact ⟨fun c mem => ⟨_, .refl, held.2 ▸ List.mem_cons_of_mem _ mem,
              by simp [BackendKind.OverlayBox, element]⟩,
              inFlow _ _ (.single (held.2 ▸ List.mem_cons_self)) shaped⟩
          exact stacked _ (padded _) (shown _)
  | none =>
      refine Yields.bind (outer "Box") fun box boxed => Yields.pure ?_
      obtain ⟨element, bare⟩ := Fragment.shape_eq_iff.mp boxed
      have held : BackendKind.compose.Holds ((box.withChildren flow).withChildren absolute)
          (flow ++ absolute) :=
        BackendKind.holds_of_shape (e := "Box") (by simp [element, bare, flowPresent, absPresent])
          (by decide)
      exact ⟨fun c mem => ⟨_, .refl, held.2 ▸ List.mem_append_right _ mem,
        by simp [BackendKind.OverlayBox, element]⟩, fun _ none => absurd none (by simp)⟩

/-- Every target's container arranges the non-empty children it is handed, for children that
are not roots. -/
theorem BackendKind.container_arranges (b : BackendKind) (scene : Scene) (node : AltNode)
    (children : List (AltNode × Fragment)) (inner : ∀ c ∈ children, c.1.isRoot = false) :
    Yields scene (b.Arranges node.layout (keptAt .flow children) (keptAt .absolute children))
      (b.target.container node children) := by
  cases b with
  | html => exact Html.container_arranges scene node children inner
  | tailwind => exact Tailwind.container_arranges scene node children inner
  | flutter => exact Flutter.container_arranges scene node children
  | swiftUi => exact SwiftUi.container_arranges scene node children
  | compose => exact Compose.container_arranges scene node children

/-- What a fragment with the same shape as an arranging one, and the same kind of overlay and
flow element, arranges the same children. -/
theorem BackendKind.Arranges.of_shape {b : BackendKind} {layout : Option LayoutDescriptor}
    {flow absolute : List Fragment} {r r' : Fragment} (arranged : b.Arranges layout flow absolute r)
    (same : r'.shape = r.shape) (overlay : b.OverlayBox r → b.OverlayBox r')
    (laid : ∀ l, b.FlowBox l r → b.FlowBox l r') : b.Arranges layout flow absolute r' := by
  have printed : b.printedChildren r' = b.printedChildren r := by
    simp [BackendKind.printedChildren, Fragment.element_eq_of_shape same,
      Fragment.children_eq_of_shape same]
  -- an element shown inside `r` is `r` itself, now `r'`, or shown inside one of its children
  have moved : ∀ {g : Fragment} {P : Fragment → Prop}, (P r → P r') → b.Shows r g → P g →
      ∃ g', b.Shows r' g' ∧ b.printedChildren g' = b.printedChildren g ∧ P g' := by
    intro g P carry shows holds
    rcases Relation.ReflTransGen.cases_head shows with rfl | ⟨x, step, rest⟩
    · exact ⟨r', .refl, printed, carry holds⟩
    · exact ⟨g, .head (printed ▸ step) rest, rfl, holds⟩
  refine ⟨fun c mem => ?_, fun l layout c mem => ?_⟩
  · obtain ⟨g, shows, child, box⟩ := arranged.1 c mem
    obtain ⟨g', shows', same', box'⟩ := moved overlay shows box
    exact ⟨g', shows', same' ▸ child, box'⟩
  · obtain ⟨g, shows, child, box⟩ := arranged.2 l layout c mem
    obtain ⟨g', shows', same', box'⟩ := moved (laid l) shows box
    exact ⟨g', shows', same' ▸ child, box'⟩

/-- Naming a container's layer keeps what it arranges. -/
theorem BackendKind.Arranges.withLayerName {b : BackendKind} {layout : Option LayoutDescriptor}
    {flow absolute : List Fragment} {r : Fragment} (arranged : b.Arranges layout flow absolute r)
    (node : AltNode) : b.Arranges layout flow absolute (b.target.withLayerName node r) := by
  cases b <;> exact arranged.of_shape rfl (fun box => box) fun _ box => box

end Handoff
