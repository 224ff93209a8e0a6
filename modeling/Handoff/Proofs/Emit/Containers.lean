/-
Module: Handoff.Proofs.Emit.Containers
Purpose: Where each target's container puts the emitted children it is handed. Styling a
  fragment (arguments, style properties, classes, modifiers) never changes its element or its
  children, its shape: every styling step of every target keeps the shape of the fragment it is
  handed. A container then builds its own elements around the children. Markup holds the
  non-empty children in paint order; Flutter, SwiftUI and Compose hold the flow children, in
  paint order, in the flex element of the layout, and the absolute children after them, in
  paint order, at positions their renderers print (SwiftUI spaces the flow children with
  spacers for space-between).
Main exports: Fragment.shape, Yields, styling_keepsShape, BackendKind.printedChildren,
  BackendKind.Holds, BackendKind.Places, keptAt, partitionChildren_eq, Html.container_places,
  Tailwind.container_places, Flutter.container_places, SwiftUi.container_places,
  Compose.container_places.
-/
import Handoff.Proofs.Emit.Dispatch

namespace Handoff

/-! ### The shape of a fragment -/

/-- The element and the children of a fragment: what styling leaves alone. -/
def Fragment.shape (f : Fragment) : String × List Fragment := (f.element, f.children)

namespace Fragment

@[simp] theorem shape_new (e : String) : (Fragment.new e).shape = (e, []) := rfl

@[simp] theorem shape_withStyle (f : Fragment) (p v : String) :
    (f.withStyle p v).shape = f.shape := rfl

@[simp] theorem shape_withArg (f : Fragment) (p v : String) : (f.withArg p v).shape = f.shape :=
  rfl

@[simp] theorem shape_withClass (f : Fragment) (c : String) : (f.withClass c).shape = f.shape :=
  rfl

@[simp] theorem shape_withModifier (f : Fragment) (p v : String) :
    (f.withModifier p v).shape = f.shape := rfl

@[simp] theorem shape_withComment (f : Fragment) (c : String) :
    (f.withComment c).shape = f.shape := rfl

theorem shape_eq_iff {f : Fragment} {e : String} {cs : List Fragment} :
    f.shape = (e, cs) ↔ f.element = e ∧ f.children = cs := by
  simp [shape]

theorem children_eq_of_shape {f g : Fragment} (same : f.shape = g.shape) :
    f.children = g.children :=
  congrArg Prod.snd same

theorem element_eq_of_shape {f g : Fragment} (same : f.shape = g.shape) :
    f.element = g.element :=
  congrArg Prod.fst same

@[simp] theorem shape_withChild (f c : Fragment) :
    (f.withChild c).shape = (f.element, if c.isEmpty then f.children else f.children ++ [c]) := by
  unfold withChild
  split <;> rfl

/-- Adding children appends those that emit something, in order. -/
@[simp] theorem shape_withChildren (f : Fragment) (cs : List Fragment) :
    (f.withChildren cs).shape = (f.element, f.children ++ cs.filter (!·.isEmpty)) := by
  induction cs generalizing f with
  | nil => simp [withChildren, shape]
  | cons c cs ih =>
      show ((cs.foldl withChild (f.withChild c))).shape = _
      rw [← withChildren, ih, List.filter_cons]
      have kept := shape_withChild f c
      simp only [shape, Prod.mk.injEq] at kept
      rw [kept.1, kept.2]
      split <;> simp_all

@[simp] theorem children_withChildren (f : Fragment) (cs : List Fragment) :
    (f.withChildren cs).children = f.children ++ cs.filter (!·.isEmpty) :=
  congrArg Prod.snd (shape_withChildren f cs)

@[simp] theorem element_withChildren (f : Fragment) (cs : List Fragment) :
    (f.withChildren cs).element = f.element :=
  congrArg Prod.fst (shape_withChildren f cs)

@[simp] theorem element_withChild (f c : Fragment) : (f.withChild c).element = f.element :=
  congrArg Prod.fst (shape_withChild f c)

@[simp] theorem children_withChild (f c : Fragment) :
    (f.withChild c).children = if c.isEmpty then f.children else f.children ++ [c] :=
  congrArg Prod.snd (shape_withChild f c)

@[simp] theorem children_new (e : String) : (Fragment.new e).children = [] := rfl

@[simp] theorem element_new (e : String) : (Fragment.new e).element = e := rfl

@[simp] theorem children_withStyle (f : Fragment) (p v : String) :
    (f.withStyle p v).children = f.children := rfl

@[simp] theorem children_withClass (f : Fragment) (c : String) :
    (f.withClass c).children = f.children := rfl

@[simp] theorem children_withArg (f : Fragment) (p v : String) :
    (f.withArg p v).children = f.children := rfl

@[simp] theorem children_withModifier (f : Fragment) (p v : String) :
    (f.withModifier p v).children = f.children := rfl

@[simp] theorem element_withStyle (f : Fragment) (p v : String) :
    (f.withStyle p v).element = f.element := rfl

@[simp] theorem element_withClass (f : Fragment) (c : String) :
    (f.withClass c).element = f.element := rfl

@[simp] theorem element_withArg (f : Fragment) (p v : String) :
    (f.withArg p v).element = f.element := rfl

@[simp] theorem element_withModifier (f : Fragment) (p v : String) :
    (f.withModifier p v).element = f.element := rfl

/-- A fold of steps that each keep the shape keeps it. -/
theorem shape_foldl {α : Type} (step : Fragment → α → Fragment)
    (keeps : ∀ g x, (step g x).shape = g.shape) :
    ∀ (xs : List α) (f : Fragment), (xs.foldl step f).shape = f.shape
  | [], _ => rfl
  | x :: xs, f => (shape_foldl step keeps xs (step f x)).trans (keeps f x)

/-- Classes added one after another keep the shape. -/
@[simp] theorem shape_foldl_withClass {α : Type} (c : α → String) (xs : List α) (f : Fragment) :
    (xs.foldl (fun g x => g.withClass (c x)) f).shape = f.shape :=
  shape_foldl (fun g x => g.withClass (c x)) (fun _ _ => rfl) xs f

end Fragment

/-! ### The targets' own styling helpers keep the shape -/

@[simp] theorem Html.shape_withSize (f : Fragment) (p : String) (d : Dim) (m : Bool) :
    (Html.withSize f p d m).shape = f.shape := by
  unfold Html.withSize
  split <;> (try split) <;> rfl

@[simp] theorem Html.shape_withBackground (f : Fragment) (fill : PaintEntry) (v : Bool) :
    (Html.withBackground f fill v).shape = f.shape := by
  unfold Html.withBackground
  split <;> (try split) <;> rfl

@[simp] theorem Tailwind.shape_withSize (f : Fragment) (p : String) (d : Dim) (m : Bool)
    (s : Tailwind.Scales) : (Tailwind.withSize f p d m s).shape = f.shape := by
  unfold Tailwind.withSize
  split <;> (try split) <;> rfl

@[simp] theorem Tailwind.shape_withBackground (f : Fragment) (fill : PaintEntry) (scene : Scene) :
    (Tailwind.withBackground f fill scene).shape = f.shape := by
  unfold Tailwind.withBackground
  split <;> (try split) <;> rfl

@[simp] theorem Flutter.shape_sized (f : Fragment) (node : AltNode) (scene : Scene) :
    (Flutter.sized f node scene).shape = f.shape := by
  unfold Flutter.sized
  -- one argument per axis, or none
  refine Fragment.shape_foldl _ (fun g x => ?_) _ _
  split
  split <;> (try split) <;> rfl

@[simp] theorem SwiftUi.shape_framed (f : Fragment) (node : AltNode) (a : Option String) :
    (SwiftUi.framed f node a).shape = f.shape := by
  unfold SwiftUi.framed
  dsimp only
  split <;> (try split) <;> (try split) <;> rfl

@[simp] theorem SwiftUi.shape_paddingModifiers (f : Fragment) (p : Padding) :
    (SwiftUi.paddingModifiers f p).shape = f.shape := by
  unfold SwiftUi.paddingModifiers
  split_ifs <;> rfl

@[simp] theorem Compose.shape_sized (f : Fragment) (node : AltNode) (scene : Scene) :
    (Compose.sized f node scene).shape = f.shape := by
  unfold Compose.sized
  split
  · split <;> rfl
  · refine Fragment.shape_foldl _ (fun g x => ?_) _ _
    split
    split <;> (try split) <;> rfl

@[simp] theorem Compose.shape_paddingModifier (f : Fragment) (p : Padding) :
    (Compose.paddingModifier f p).shape = f.shape := by
  unfold Compose.paddingModifier
  split_ifs <;> rfl

/-- The widget of a flex layout in Flutter: a wrap when the layout wraps, a row or a column
otherwise. -/
def Flutter.flexElement (layout : LayoutDescriptor) : String :=
  if layout.wrap then "Wrap"
  else
    match layout.direction with
    | .row => "Row"
    | .column => "Column"

/-! ### What an emission step gives -/

/-- Run in `scene` on any diagnostics so far, the emission step `m` gives a result `P`
accepts. -/
structure Yields {α : Type} (scene : Scene) (P : α → Prop) (m : Emit α) : Prop where
  gives : ∀ ds, P ((m scene).run ds).1

namespace Yields

variable {α β γ : Type} {scene : Scene}

theorem pure {P : α → Prop} {a : α} (h : P a) : Yields scene P (Pure.pure a : Emit α) :=
  ⟨fun _ => h⟩

theorem mono {P Q : α → Prop} {m : Emit α} (gives : Yields scene P m) (weaker : ∀ a, P a → Q a) :
    Yields scene Q m :=
  ⟨fun ds => weaker _ (gives.gives ds)⟩

theorem bind {Q : α → Prop} {P : β → Prop} {m : Emit α} {f : α → Emit β}
    (first : Yields scene Q m) (rest : ∀ a, Q a → Yields scene P (f a)) :
    Yields scene P (m >>= f) :=
  ⟨fun ds => (rest _ (first.gives ds)).gives _⟩

/-- A step whose result the rest does not need to know about. -/
theorem bind_any {P : β → Prop} {m : Emit α} {f : α → Emit β}
    (rest : ∀ a, Yields scene P (f a)) : Yields scene P (m >>= f) :=
  ⟨fun _ => (rest _).gives _⟩

/-- A join point that keeps the shape of the fragment it is handed, called on one of the shape
`s`. -/
theorem callShape {σ : Type} {s : String × List Fragment} {j : σ → Fragment → Emit Fragment}
    (fact : ∀ u g, Yields scene (·.shape = g.shape) (j u g)) (u : σ) (g : Fragment)
    (same : g.shape = s) : Yields scene (·.shape = s) (j u g) :=
  same ▸ fact u g

/-- A loop whose every step keeps an invariant of its state gives a state with it. -/
theorem forIn {xs : List γ} {init : β} {body : γ → β → Emit (ForInStep β)} (inv : β → Prop)
    (start : inv init) (each : ∀ x b, inv b → Yields scene (fun r => inv r.value) (body x b)) :
    Yields scene inv (ForIn.forIn xs init body) := by
  induction xs generalizing init with
  | nil => exact pure start
  | cons x xs ih =>
      rw [List.forIn_cons]
      refine bind (each x init start) fun r kept => ?_
      cases r with
      | done b => exact pure kept
      | yield b => exact ih kept

/-- A loop over a fragment that keeps its shape, and what follows it. -/
theorem forIn_bind {s : String × List Fragment} {xs : List γ} {init : Fragment}
    {body : γ → Fragment → Emit (ForInStep Fragment)} {k : Fragment → Emit Fragment}
    (start : init.shape = s)
    (each : ∀ x b, b.shape = s → Yields scene (fun r => r.value.shape = s) (body x b))
    (rest : ∀ a, a.shape = s → Yields scene (·.shape = s) (k a)) :
    Yields scene (·.shape = s) (ForIn.forIn xs init body >>= k) :=
  bind (forIn (·.shape = s) start each) rest

/-- A loop over a fragment and a count that keeps the fragment's shape, and what follows it. -/
theorem forIn_pair_bind {s : String × List Fragment} {xs : List γ} {init : Fragment × Nat}
    {body : γ → Fragment × Nat → Emit (ForInStep (Fragment × Nat))}
    {k : Fragment × Nat → Emit Fragment} (start : init.1.shape = s)
    (each : ∀ x b, b.1.shape = s → Yields scene (fun r => r.value.1.shape = s) (body x b))
    (rest : ∀ a, a.1.shape = s → Yields scene (·.shape = s) (k a)) :
    Yields scene (·.shape = s) (ForIn.forIn xs init body >>= k) :=
  bind (forIn (·.1.shape = s) start each) rest

end Yields

/-! ### Styling keeps the shape

Each styling step is a tree of binds, branches and loops over its mutable fragment, whose `do`
blocks share their continuations through join points. The walk below, one proof per target,
keeps every join point as a local definition, proves once that it keeps the shape of the
fragment it is handed, and then forgets its body. -/

/-- Every target's styling steps keep the element and children of what they style; Flutter's
flex widget is a wrap, a row or a column, and Compose's flex composable a row or a column,
flowing when the layout wraps, each with no children yet. -/
theorem styling_keepsShape (scene : Scene) (node : AltNode) (f : Fragment) :
    (Yields scene (·.shape = f.shape) (Html.positionStyles node f) ∧
      Yields scene (·.shape = f.shape) (Html.shapeStyles node f) ∧
      ∀ layout, Yields scene (·.shape = f.shape) (Html.withLayout f node layout)) ∧
    (Yields scene (·.shape = f.shape) (Tailwind.positionStyles node f) ∧
      Yields scene (·.shape = f.shape) (Tailwind.shapeStyles node f) ∧
      ∀ layout, Yields scene (·.shape = f.shape) (Tailwind.withLayout f node layout)) ∧
    (Yields scene (·.shape = f.shape) (Flutter.positionStyles node f) ∧
      Yields scene (·.shape = f.shape) (Flutter.shapeStyles node f) ∧
      ∀ layout gap, Yields scene (·.shape = (Flutter.flexElement layout, []))
        (Flutter.flexWidget node layout gap)) ∧
    (Yields scene (·.shape = f.shape) (SwiftUi.positionStyles node f) ∧
      Yields scene (·.shape = f.shape) (SwiftUi.shapeStyles node f)) ∧
    (Yields scene (·.shape = f.shape) (Compose.positionStyles node f) ∧
      Yields scene (·.shape = f.shape) (Compose.shapeStyles node f) ∧
      ∀ layout, Yields scene (·.shape = (Compose.flowElement layout, []))
        (Compose.flowComposable node layout)) := by
  refine ⟨⟨?_, ?_, fun layout => ?_⟩, ⟨?_, ?_, fun layout => ?_⟩,
      ⟨?_, ?_, fun layout gap => ?_⟩, ⟨?_, ?_⟩, ⟨?_, ?_, fun layout => ?_⟩⟩ <;>
    simp -zeta -zetaHave only [Html.positionStyles, Html.shapeStyles, Html.withLayout,
      Tailwind.positionStyles, Tailwind.shapeStyles, Tailwind.withLayout, Flutter.positionStyles,
      Flutter.shapeStyles, Flutter.flexWidget, SwiftUi.positionStyles, SwiftUi.shapeStyles,
      Compose.positionStyles, Compose.shapeStyles, Compose.flowComposable] <;>
    lift_lets <;>
  repeat' first
    -- a join point: its fact, that it keeps the shape of the fragment it is handed, becomes a
    -- goal of its own, proved from its body; the rest of the program sees only the fact
    | (intro x; refine (fun (hx : ∀ (u : Unit) (g : Fragment),
          Yields scene (·.shape = g.shape) (x u g)) => ?_) ?_; clear_value x)
    -- a value, put in place
    | (intro x; simp -zeta -zetaHave only [x])
    | intro _
    | lift_lets
    | ((with_reducible refine Yields.pure ?_); (repeat' split) <;> simp [*])
    | ((with_reducible refine Yields.callShape ?_ _ _ ?_); (with_reducible assumption);
        (repeat' split) <;> simp [*, Flutter.flexElement])
    -- the body of the join point whose fact is being proved
    | (simp -zeta -zetaHave only [x])
    | (with_reducible refine Yields.forIn_bind ?_ (fun _ _ _ => ?_) fun _ _ => ?_)
    | (with_reducible refine Yields.forIn_pair_bind ?_ (fun _ _ _ => ?_) fun _ _ => ?_)
    -- a step whose result the shape does not depend on
    | with_reducible refine Yields.bind_any fun _ => ?_
    | split

/-! ### Where a container holds its children -/

/-- The non-empty fragments among a container's emitted children, in paint order. -/
def keptChildren (children : List (AltNode × Fragment)) : List Fragment :=
  (children.map Prod.snd).filter (!·.isEmpty)

/-- The non-empty fragments among the emitted children of nodes positioned by `p`, in paint
order. -/
def keptAt (p : Positioning) (children : List (AltNode × Fragment)) : List Fragment :=
  ((children.filter (·.1.positioning = p)).map Prod.snd).filter (!·.isEmpty)

/-- A container's children split into those in the flow and those placed on top, each in
paint order, with the empty ones dropped. -/
theorem partitionChildren_eq (children : List (AltNode × Fragment)) :
    partitionChildren children = (keptAt .flow children, keptAt .absolute children) := by
  unfold partitionChildren keptAt
  induction children with
  | nil => rfl
  | cons c rest ih =>
      obtain ⟨n, f⟩ := c
      simp only [Prod.mk.injEq, beq_iff_eq] at ih ⊢
      cases placed : n.positioning <;> cases empty : f.isEmpty <;>
        simp [placed, empty, ih]

theorem keptAt_filter (p : Positioning) (children : List (AltNode × Fragment)) :
    (keptAt p children).filter (!·.isEmpty) = keptAt p children := by
  simp only [keptAt, List.filter_filter, Bool.and_self]

/-- Whether a target's renderer writes out every child of an element: markup always; Flutter
for a widget that takes a list of children; SwiftUI for a stack; Compose for a layout
composable. -/
def BackendKind.printsAll : BackendKind → String → Bool
  | .html, _ | .tailwind, _ => true
  | .flutter, e => Flutter.multiChild.contains e
  | .swiftUi, e => SwiftUi.stackViews.contains e
  | .compose, e => Compose.containers.contains e

/-- The children of a fragment that a target's renderer writes out: all of them for an element
whose children it all writes out; otherwise the first for Flutter, which gives such a widget one
child, and none for SwiftUI and Compose. -/
def BackendKind.printedChildren (b : BackendKind) (f : Fragment) : List Fragment :=
  if b.printsAll f.element then f.children
  else
    match b with
    | .flutter => f.children.take 1
    | _ => []

/-- The fragment `f` has exactly the children `kids`, and the target's renderer writes them all
out. -/
def BackendKind.Holds (b : BackendKind) (f : Fragment) (kids : List Fragment) : Prop :=
  f.children = kids ∧ b.printedChildren f = kids

/-- A fragment of element `e` and children `kids` holds them, when the renderer writes out all
children of `e`. -/
theorem BackendKind.holds_of_shape {b : BackendKind} {f : Fragment} {e : String}
    {kids : List Fragment} (shaped : f.shape = (e, kids)) (all : b.printsAll e = true) :
    b.Holds f kids := by
  obtain ⟨element, children⟩ := Fragment.shape_eq_iff.mp shaped
  simp [BackendKind.Holds, BackendKind.printedChildren, element, children, all]

/-- Flutter, SwiftUI and Compose write out every child only of named elements, so a fragment
of such an element emits something. -/
theorem BackendKind.isEmpty_of_printsAll {b : BackendKind} (native : b ≠ .html ∧ b ≠ .tailwind)
    {f : Fragment} {e : String} {kids : List Fragment} (shaped : f.shape = (e, kids))
    (all : b.printsAll e = true) : f.isEmpty = false := by
  rw [Fragment.isEmpty, (Fragment.shape_eq_iff.mp shaped).1]
  cases b with
  | html | tailwind => simp at native
  | flutter | swiftUi | compose =>
      simp only [BackendKind.printsAll, Flutter.multiChild, SwiftUi.stackViews,
        Compose.containers, List.contains_iff_mem, List.mem_cons, List.not_mem_nil,
        or_false] at all
      rcases all with rfl | rfl | rfl | rfl | rfl <;> rfl

/-- The spacer SwiftUI puts between two flow children of a space-between stack. -/
def SwiftUi.spacer : Fragment := (Fragment.new "Spacer").withArg "minLength" "0"

/-- The flow children of a SwiftUI stack: with a spacer between each two for space-between. -/
def SwiftUi.arranged (layout : LayoutDescriptor) (flow : List Fragment) : List Fragment :=
  if layout.primaryAlign = .spaceBetween then flow.intersperse SwiftUi.spacer else flow

/-- Where a target's container fragment `f` holds the emitted children it is handed, for a
container with layout `layout`: `kept` are the non-empty children in paint order, and `flow`
and `absolute` those of them in the flow and those placed on top, each in paint order. Markup
holds `kept`. Flutter holds, as the one child of its box, the flex widget of the layout holding
`flow`, on a stack before `absolute` when there are any; without a layout, a stack of `flow`
then `absolute`, if there is any child. SwiftUI holds the stack of the layout, its flow
children arranged, under an overlay before `absolute` when there are any; without a layout, an
overlay of `flow` then `absolute`. Compose holds `flow` in the flex composable of the layout,
which is the container itself unless there are absolute children, and then a box holding it
before `absolute`; without a layout, a box of `flow` then `absolute`. -/
def BackendKind.Places (b : BackendKind) (layout : Option LayoutDescriptor)
    (kept flow absolute : List Fragment) (f : Fragment) : Prop :=
  match b, layout, absolute with
  | .html, _, _ | .tailwind, _, _ => b.Holds f kept
  | .flutter, some _, [] => ∃ flex, b.Holds f [flex] ∧ b.Holds flex flow
  | .flutter, some _, _ => ∃ stack flex, b.Holds f [stack] ∧ b.Holds stack (flex :: absolute) ∧
      b.Holds flex flow
  | .flutter, none, _ =>
      if flow ++ absolute = [] then f.children = []
      else ∃ stack, b.Holds f [stack] ∧ b.Holds stack (flow ++ absolute)
  | .swiftUi, some l, [] => b.Holds f (SwiftUi.arranged l flow)
  | .swiftUi, some l, _ => ∃ stack, b.Holds f (stack :: absolute) ∧
      b.Holds stack (SwiftUi.arranged l flow)
  | .swiftUi, none, _ => b.Holds f (flow ++ absolute)
  | .compose, some _, [] => b.Holds f flow
  | .compose, some _, _ => ∃ flex, b.Holds f (flex :: absolute) ∧ b.Holds flex flow
  | .compose, none, _ => b.Holds f (flow ++ absolute)

/-- Two steps that each keep the shape of what they are handed keep it. -/
theorem Yields.keepsShape_bind {scene : Scene} {first second : Fragment → Emit Fragment}
    (keepsFirst : ∀ f, Yields scene (·.shape = f.shape) (first f))
    (keepsSecond : ∀ f, Yields scene (·.shape = f.shape) (second f)) (f : Fragment) :
    Yields scene (·.shape = f.shape) (first f >>= second) :=
  Yields.bind (keepsFirst f) fun _ same => (keepsSecond _).mono fun _ same' => same'.trans same

/-! #### Markup -/

/-- Markup boxes: a box without children, given the emitted children and then styled by steps
that keep its shape, holds the non-empty ones in paint order. -/
theorem Yields.styledBox {scene : Scene} {b : BackendKind} (printsAll : ∀ e, b.printsAll e = true)
    {style position : Fragment → Emit Fragment}
    (keepsStyle : ∀ f, Yields scene (·.shape = f.shape) (style f))
    (keepsPosition : ∀ f, Yields scene (·.shape = f.shape) (position f))
    (children : List (AltNode × Fragment)) :
    ∀ g : Fragment, g.children = [] → Yields scene (b.Holds · (keptChildren children))
      (style (g.withChildren (children.map Prod.snd)) >>= position) := by
  intro g empty
  refine (Yields.keepsShape_bind keepsStyle keepsPosition _).mono fun r same => ?_
  refine BackendKind.holds_of_shape ?_ (printsAll g.element)
  rw [same, Fragment.shape_withChildren, empty, List.nil_append]
  rfl

/-- HTML's container is a box holding the non-empty children in paint order. -/
theorem Html.container_places (scene : Scene) (node : AltNode)
    (children : List (AltNode × Fragment)) :
    Yields scene (BackendKind.html.Places node.layout (keptChildren children)
      (keptAt .flow children) (keptAt .absolute children))
      (Html.container node children) := by
  have keeps := fun f => (styling_keepsShape scene node f).1
  have styled := Yields.styledBox (b := .html) (fun _ => rfl) (fun f => (keeps f).2.1)
    (fun f => (keeps f).1) children
  simp only [Html.container]
  refine Yields.bind_any fun _ => ?_
  split
  · refine Yields.bind ((keeps _).2.2 _) fun g laid => ?_
    split <;> exact styled _ (by simpa using Fragment.children_eq_of_shape laid)
  · split <;> exact styled _ rfl

/-- The utility-class container is a box holding the non-empty children in paint order. -/
theorem Tailwind.container_places (scene : Scene) (node : AltNode)
    (children : List (AltNode × Fragment)) :
    Yields scene (BackendKind.tailwind.Places node.layout (keptChildren children)
      (keptAt .flow children) (keptAt .absolute children))
      (Tailwind.container node children) := by
  have keeps := fun f => (styling_keepsShape scene node f).2.1
  have styled := Yields.styledBox (b := .tailwind) (fun _ => rfl) (fun f => (keeps f).2.1)
    (fun f => (keeps f).1) children
  simp only [Tailwind.container]
  refine Yields.bind_any fun _ => ?_
  split
  · refine Yields.bind ((keeps _).2.2 _) fun g laid => ?_
    split <;> exact styled _ (by simpa using Fragment.children_eq_of_shape laid)
  · split <;> exact styled _ rfl

/-! #### Flutter -/

theorem Flutter.flexElement_printsAll (layout : LayoutDescriptor) :
    BackendKind.flutter.printsAll (Flutter.flexElement layout) = true := by
  unfold Flutter.flexElement
  split
  · decide
  · split <;> decide

/-- Flutter's flex is the flex widget of the layout holding the flow children. -/
theorem Flutter.flex_shape (scene : Scene) (node : AltNode) (layout : LayoutDescriptor)
    {flow : List Fragment} (present : flow.filter (!·.isEmpty) = flow) :
    Yields scene (·.shape = (Flutter.flexElement layout, flow)) (Flutter.flex node layout flow) := by
  -- whatever gap is chosen, the widget gets the flow children, under padding or not
  have body : ∀ gap, Yields scene (·.shape = (Flutter.flexElement layout, flow))
      (Flutter.flexWidget node layout gap >>= fun f =>
        if layout.padding.isZero = true then pure (f.withChildren flow)
        else pure ((f.withChildren flow).withModifier "Padding"
          ("padding: " ++ Flutter.edgeInsets layout.padding))) := by
    intro gap
    refine Yields.bind ((styling_keepsShape scene node Fragment.empty).2.2.1.2.2 layout gap)
      fun g widget => ?_
    obtain ⟨element, bare⟩ := Fragment.shape_eq_iff.mp widget
    split <;> exact Yields.pure (by simp [element, bare, present])
  simp only [Flutter.flex]
  split
  · exact Yields.bind_any fun _ => by simpa only [pure_bind] using body 0.0
  · simpa only [pure_bind] using body layout.gap

/-- Flutter's container box holds its body as its one child, if the body emits something. -/
theorem Flutter.boxed_holds (scene : Scene) (node : AltNode) (body : Fragment) :
    Yields scene (BackendKind.flutter.Holds · (if body.isEmpty then [] else [body]))
      (read >>= fun s => Flutter.shapeStyles node (Flutter.sized (Fragment.new "Container") node s)
        >>= fun g => Flutter.positionStyles node (g.withChild body)) := by
  have keeps := fun f => (styling_keepsShape scene node f).2.2.1
  refine Yields.bind_any fun s => Yields.bind ((keeps _).2.1) fun g styled =>
    ((keeps _).1).mono fun r same => ?_
  have box : g.element = "Container" ∧ g.children = [] := by
    rw [← Fragment.shape_eq_iff, styled, Flutter.shape_sized, Fragment.shape_new]
  have shaped : r.element = "Container" ∧ r.children = if body.isEmpty then [] else [body] := by
    rw [← Fragment.shape_eq_iff, same, Fragment.shape_withChild, box.1, box.2]
    split <;> simp
  -- a container box takes one child, and prints the first
  refine ⟨shaped.2, ?_⟩
  simp only [BackendKind.printedChildren, shaped.1, shaped.2]
  split <;> split <;> simp

/-- Flutter's container is a box holding the flex widget of the layout with the flow
children, on a stack before the absolute children if there are any; without a layout, a stack
of the flow children then the absolute ones, if there are any. -/
theorem Flutter.container_places (scene : Scene) (node : AltNode)
    (children : List (AltNode × Fragment)) :
    Yields scene (BackendKind.flutter.Places node.layout (keptChildren children)
      (keptAt .flow children) (keptAt .absolute children))
      (Flutter.container node children) := by
  have flowPresent := keptAt_filter .flow children
  have absPresent := keptAt_filter .absolute children
  simp only [Flutter.container, partitionChildren_eq, pure_bind]
  generalize keptAt .flow children = flow at flowPresent ⊢
  generalize keptAt .absolute children = absolute at absPresent ⊢
  cases node.layout with
  | some layout =>
      refine Yields.bind (Flutter.flex_shape scene node layout flowPresent) fun f flex => ?_
      have held := BackendKind.holds_of_shape flex (Flutter.flexElement_printsAll layout)
      have shown : f.isEmpty = false :=
        BackendKind.isEmpty_of_printsAll (by decide) flex (Flutter.flexElement_printsAll layout)
      cases absolute with
      | nil =>
          exact (Flutter.boxed_holds scene node f).mono fun r box =>
            ⟨f, by simpa [shown] using box, held⟩
      | cons a rest =>
          -- a stack holding the flex widget, then the absolute children
          have stacked : BackendKind.flutter.Holds
              (((Fragment.new "Stack").withChild f).withChildren (a :: rest)) (f :: a :: rest) :=
            BackendKind.holds_of_shape (e := "Stack") (by simp [shown, absPresent]) (by decide)
          refine (Flutter.boxed_holds scene node _).mono fun r box => ⟨_, f, ?_, stacked, held⟩
          simpa [Fragment.isEmpty] using box
  | none =>
      by_cases nothing : (flow.isEmpty && absolute.isEmpty) = true
      · rw [if_pos nothing]
        simp only [Bool.and_eq_true, List.isEmpty_iff] at nothing
        obtain ⟨rfl, rfl⟩ := nothing
        exact (Flutter.boxed_holds scene node _).mono fun r box => by
          simpa [BackendKind.Places, Fragment.isEmpty, Fragment.empty] using box.1
      · rw [if_neg nothing]
        -- a stack of the flow children, then the absolute ones
        have stacked : BackendKind.flutter.Holds
            (((Fragment.new "Stack").withChildren flow).withChildren absolute) (flow ++ absolute) :=
          BackendKind.holds_of_shape (e := "Stack") (by simp [flowPresent, absPresent]) (by decide)
        have held : flow ++ absolute ≠ [] := by simpa using nothing
        refine (Flutter.boxed_holds scene node _).mono fun r box => ?_
        simp only [BackendKind.Places, if_neg held]
        exact ⟨_, by simpa [Fragment.isEmpty] using box, stacked⟩

/-! #### SwiftUI -/

/-- The stack of a layout: vertical for a column, horizontal for a row. -/
def SwiftUi.stackElement (layout : LayoutDescriptor) : String :=
  match layout.direction with
  | .column => "VStack"
  | .row => "HStack"

@[simp] theorem SwiftUi.shape_stackView (layout : LayoutDescriptor) :
    (SwiftUi.stackView layout).shape = (SwiftUi.stackElement layout, []) := by
  unfold SwiftUi.stackView SwiftUi.stackElement
  cases layout.direction <;> cases layout.counterAlign <;> rfl

theorem SwiftUi.stackElement_printsAll (layout : LayoutDescriptor) :
    BackendKind.swiftUi.printsAll (SwiftUi.stackElement layout) = true := by
  unfold SwiftUi.stackElement
  split <;> decide

/-- Space-between puts a spacer between each two flow children. -/
theorem SwiftUi.spaced_eq_intersperse : ∀ flow : List Fragment,
    SwiftUi.spaced flow = flow.intersperse SwiftUi.spacer
  | [] => rfl
  | [_] => rfl
  | f :: g :: rest => by
      rw [List.intersperse_cons_cons, ← SwiftUi.spaced_eq_intersperse (g :: rest)]
      rfl

/-- Spacers emit something, so spacing non-empty children keeps them all. -/
theorem SwiftUi.filter_intersperse_spacer : ∀ {flow : List Fragment},
    flow.filter (!·.isEmpty) = flow →
      (flow.intersperse SwiftUi.spacer).filter (!·.isEmpty) = flow.intersperse SwiftUi.spacer
  | [], _ => rfl
  | [_], present => present
  | f :: g :: rest, present => by
      have kept : f.isEmpty = false := by
        simpa using List.filter_eq_self.mp present f List.mem_cons_self
      have restPresent : (g :: rest).filter (!·.isEmpty) = g :: rest :=
        List.filter_eq_self.mpr fun c mem => List.filter_eq_self.mp present c (.tail _ mem)
      rw [List.intersperse_cons_cons, List.filter_cons_of_pos (by simp [kept]),
        List.filter_cons_of_pos (by decide), SwiftUi.filter_intersperse_spacer restPresent]

/-- SwiftUI's stack is the stack view of the layout holding the flow children, spaced for
space-between. -/
theorem SwiftUi.stack_shape (scene : Scene) (node : AltNode) (layout : LayoutDescriptor)
    {flow : List Fragment} (present : flow.filter (!·.isEmpty) = flow) :
    Yields scene (·.shape = (SwiftUi.stackElement layout, SwiftUi.arranged layout flow))
      (SwiftUi.stack node layout flow) := by
  -- whatever the gap, the stack view gets the flow children, spaced for space-between
  have value : ∀ spacing : String, (SwiftUi.paddingModifiers
      (if (layout.primaryAlign == .spaceBetween) = true then
        ((SwiftUi.stackView layout).withArg "spacing" "0").withChildren (SwiftUi.spaced flow)
      else ((SwiftUi.stackView layout).withArg "spacing" spacing).withChildren flow)
      layout.padding).shape = (SwiftUi.stackElement layout, SwiftUi.arranged layout flow) := by
    intro spacing
    obtain ⟨element, bare⟩ := Fragment.shape_eq_iff.mp (SwiftUi.shape_stackView layout)
    simp only [SwiftUi.shape_paddingModifiers, SwiftUi.arranged, beq_iff_eq]
    split <;> simp [SwiftUi.spaced_eq_intersperse, SwiftUi.filter_intersperse_spacer present, *]
  simp only [SwiftUi.stack, pure_bind]
  split <;> (try refine Yields.bind_any fun _ => ?_) <;> split <;>
    (try refine Yields.bind_any fun _ => ?_) <;> exact Yields.pure (value _)

/-- SwiftUI's container is the stack of the layout holding the flow children, spaced for
space-between, under an overlay before the absolute children if there are any; without a
layout, an overlay of the flow children then the absolute ones. -/
theorem SwiftUi.container_places (scene : Scene) (node : AltNode)
    (children : List (AltNode × Fragment)) :
    Yields scene (BackendKind.swiftUi.Places node.layout (keptChildren children)
      (keptAt .flow children) (keptAt .absolute children))
      (SwiftUi.container node children) := by
  have keeps := fun f => (styling_keepsShape scene node f).2.2.2.1
  -- framing and styling keep the shape of the view they are handed
  have styled : ∀ (f : Fragment) (a : Option String), Yields scene (·.shape = f.shape)
      (SwiftUi.shapeStyles node (SwiftUi.framed f node a) >>= SwiftUi.positionStyles node) :=
    fun f a => (Yields.keepsShape_bind (fun f => (keeps f).2) (fun f => (keeps f).1) _).mono
      fun _ same => same.trans (SwiftUi.shape_framed f node a)
  have flowPresent := keptAt_filter .flow children
  have absPresent := keptAt_filter .absolute children
  simp only [SwiftUi.container, partitionChildren_eq, pure_bind]
  generalize keptAt .flow children = flow at flowPresent ⊢
  generalize keptAt .absolute children = absolute at absPresent ⊢
  cases node.layout with
  | some layout =>
      refine Yields.bind (SwiftUi.stack_shape scene node layout flowPresent) fun s stack => ?_
      have held := BackendKind.holds_of_shape stack (SwiftUi.stackElement_printsAll layout)
      cases absolute with
      | nil =>
          exact (styled _ _).mono fun r same =>
            BackendKind.holds_of_shape (same.trans stack) (SwiftUi.stackElement_printsAll layout)
      | cons a rest =>
          have shown : s.isEmpty = false :=
            BackendKind.isEmpty_of_printsAll (by decide) stack (SwiftUi.stackElement_printsAll layout)
          refine (styled _ _).mono fun r same =>
            ⟨s, BackendKind.holds_of_shape (e := "ZStack") ?_ (by decide), held⟩
          simp [same, shown, absPresent]
  | none =>
      exact (styled _ _).mono fun r same => BackendKind.holds_of_shape (e := "ZStack")
        (by simp [same, flowPresent, absPresent]) (by decide)

/-! #### Compose -/

theorem Compose.flowElement_printsAll (layout : LayoutDescriptor) :
    BackendKind.compose.printsAll (Compose.flowElement layout) = true := by
  unfold Compose.flowElement
  split <;> decide

/-- Compose's flow is the flex composable of the layout holding the flow children. -/
theorem Compose.flow_shape (scene : Scene) (node : AltNode) (layout : LayoutDescriptor)
    {flow : List Fragment} (present : flow.filter (!·.isEmpty) = flow) :
    Yields scene (·.shape = (Compose.flowElement layout, flow)) (Compose.flow node layout flow) := by
  simp only [Compose.flow]
  refine Yields.bind ((styling_keepsShape scene node Fragment.empty).2.2.2.2.2.2 layout)
    fun g composable => Yields.pure ?_
  obtain ⟨element, bare⟩ := Fragment.shape_eq_iff.mp composable
  simp [element, bare, present]

/-- Compose's outer composable of an element, placed and styled, has that element and no
children. -/
theorem Compose.styled_shape (scene : Scene) (node : AltNode) (e : String) :
    Yields scene (·.shape = (e, []))
      (Compose.positionStyles node (Fragment.new e) >>= Compose.shapeStyles node) := by
  have keeps := fun f => (styling_keepsShape scene node f).2.2.2.2
  exact (Yields.keepsShape_bind (fun f => (keeps f).1) (fun f => (keeps f).2.1) _).mono
    fun _ same => same.trans (Fragment.shape_new e)

section Padded

variable {inner : Fragment} {layout : LayoutDescriptor} {flow : List Fragment}
  (flex : inner.shape = (Compose.flowElement layout, flow)) (fixed : Bool) (p : Padding)
include flex

/-- The flex composable, padded and matched to its box's size or not, keeps its shape. -/
theorem Compose.padded_shape :
    (Compose.paddingModifier
      (if fixed = true then inner.withModifier "matchParentSize" "" else inner) p).shape =
      (Compose.flowElement layout, flow) := by
  rw [Compose.shape_paddingModifier]
  split <;> simp [flex]

/-- The padded flex composable emits something. -/
theorem Compose.padded_isEmpty :
    (Compose.paddingModifier
      (if fixed = true then inner.withModifier "matchParentSize" "" else inner) p).isEmpty =
      false :=
  BackendKind.isEmpty_of_printsAll (by decide) (Compose.padded_shape flex fixed p)
    (Compose.flowElement_printsAll layout)

end Padded

/-- Compose's container is the flex composable of the layout holding the flow children,
carrying the node's own modifiers, or, when there are absolute children, a box holding it
before them; without a layout, a box of the flow children then the absolute ones. -/
theorem Compose.container_places (scene : Scene) (node : AltNode)
    (children : List (AltNode × Fragment)) :
    Yields scene (BackendKind.compose.Places node.layout (keptChildren children)
      (keptAt .flow children) (keptAt .absolute children))
      (Compose.container node children) := by
  have outer := Compose.styled_shape scene node
  have flowPresent := keptAt_filter .flow children
  have absPresent := keptAt_filter .absolute children
  simp only [Compose.container, partitionChildren_eq]
  generalize keptAt .flow children = flow at flowPresent ⊢
  generalize keptAt .absolute children = absolute at absPresent ⊢
  cases node.layout with
  | some layout =>
      cases absolute with
      | nil =>
          -- the flex composable takes the node's own modifiers and keeps its children
          refine Yields.bind (Compose.flow_shape scene node layout flowPresent) fun inner flex => ?_
          refine Yields.bind (outer _) fun styled box => Yields.pure ?_
          obtain ⟨element, kids⟩ := Fragment.shape_eq_iff.mp flex
          obtain ⟨same, -⟩ := Fragment.shape_eq_iff.mp box
          refine BackendKind.holds_of_shape ?_ (Compose.flowElement_printsAll layout)
          rw [Compose.shape_paddingModifier]
          simp [Fragment.shape, element, kids, same]
      | cons a rest =>
          refine Yields.bind (Compose.flow_shape scene node layout flowPresent) fun inner flex => ?_
          -- the flex composable, padded, and matching the box's size when that is fixed
          have padded := fun fixed => Compose.padded_shape flex fixed layout.padding
          have shown := fun fixed => Compose.padded_isEmpty flex fixed layout.padding
          refine Yields.bind (outer "Box") fun box boxed => Yields.pure ⟨_,
            BackendKind.holds_of_shape (e := "Box") ?_ (by decide),
            BackendKind.holds_of_shape (padded ((dims node).1.isFixed && (dims node).2.isFixed))
              (Compose.flowElement_printsAll layout)⟩
          obtain ⟨element, bare⟩ := Fragment.shape_eq_iff.mp boxed
          simp only [Fragment.shape_withChildren, Fragment.element_withChild,
            Fragment.children_withChild, shown, absPresent, element, bare]
          simp
  | none =>
      refine Yields.bind (outer "Box") fun box boxed => Yields.pure ?_
      obtain ⟨element, bare⟩ := Fragment.shape_eq_iff.mp boxed
      exact BackendKind.holds_of_shape (e := "Box") (by simp [element, bare, flowPresent, absPresent])
        (by decide)

end Handoff
