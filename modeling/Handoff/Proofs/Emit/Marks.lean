/-
Module: Handoff.Proofs.Emit.Marks
Purpose: What the fragment of a node carries about where its parent puts it. Flutter wraps a
  node placed at its own coordinates in a positioned widget, and a node in the flow that
  stretches along its parent's main axis in an expanded widget, each as the outermost wrapper;
  SwiftUI and Compose give a node placed at its own coordinates an offset modifier, and Compose
  gives a stretched node a weight. Each target's positioning step adds these marks, every method
  ends with that step or only adds to the modifiers after it, and naming the layer keeps them,
  so every fragment emission gives for a node carries its node's marks.
Main exports: Fragment.outermost, Scene.stretches, Yields.reads_bind, Yields.ite, Yields.call,
  Yields.forIn_keeping, Compose.shapeStyles_prefix, BackendKind.Marks, emitNode_marks.
-/
import Handoff.Proofs.Emit.Containers

namespace Handoff

/-- The outermost modifier of a fragment, for a toolkit that writes modifiers as wrappers,
the last one outermost. -/
def Fragment.outermost (f : Fragment) : Option String := f.modifiers.getLast?.map Prod.fst

namespace Fragment

@[simp] theorem modifiers_withModifier (f : Fragment) (n a : String) :
    (f.withModifier n a).modifiers = f.modifiers ++ [(n, a)] := rfl

@[simp] theorem modifiers_withArg (f : Fragment) (n a : String) :
    (f.withArg n a).modifiers = f.modifiers := rfl

@[simp] theorem modifiers_withComment (f : Fragment) (c : String) :
    (f.withComment c).modifiers = f.modifiers := rfl

@[simp] theorem modifiers_withChild (f c : Fragment) : (f.withChild c).modifiers = f.modifiers := by
  unfold withChild
  split <;> rfl

@[simp] theorem modifiers_withChildren (f : Fragment) (cs : List Fragment) :
    (f.withChildren cs).modifiers = f.modifiers := by
  induction cs generalizing f with
  | nil => rfl
  | cons c cs ih => exact (ih (f.withChild c)).trans (modifiers_withChild f c)

@[simp] theorem outermost_withModifier (f : Fragment) (n a : String) :
    (f.withModifier n a).outermost = some n := by
  simp [outermost]

end Fragment

/-- A node stretches along its parent's flow: on an axis it fills, which is the main axis of
its parent's layout. -/
def Scene.stretches (s : Scene) (node : AltNode) : Bool :=
  ((dims node).1.isFill && fillsMainAxis s node true) ||
    ((dims node).2.isFill && fillsMainAxis s node false)

/-! ### Walking an emission step -/

namespace Yields

variable {α β γ : Type} {scene : Scene}

/-- Reading the scene gives the scene the step runs in. -/
theorem reads_bind {P : β → Prop} {f : Scene → Emit β} (rest : Yields scene P (f scene)) :
    Yields scene P (read >>= f) :=
  ⟨fun ds => rest.gives ds⟩

theorem ite {P : α → Prop} {c : Prop} [Decidable c] {a b : Emit α}
    (pos : c → Yields scene P a) (neg : ¬c → Yields scene P b) :
    Yields scene P (if c then a else b) := by
  by_cases h : c
  · rw [if_pos h]
    exact pos h
  · rw [if_neg h]
    exact neg h

/-- A join point that keeps a property of the fragment it is handed, called on one that has
it. -/
theorem call {σ : Type} {P : Fragment → Prop} {j : σ → Fragment → Emit Fragment}
    (fact : ∀ u g, P g → Yields scene P (j u g)) (u : σ) (g : Fragment) (has : P g) :
    Yields scene P (j u g) :=
  fact u g has

/-- A loop over a fragment that keeps a property of it, and what follows it. -/
theorem forIn_keeping {P : Fragment → Prop} {xs : List γ} {init : Fragment}
    {body : γ → Fragment → Emit (ForInStep Fragment)} {k : Fragment → Emit Fragment}
    (start : P init) (each : ∀ x b, P b → Yields scene (fun r => P r.value) (body x b))
    (rest : ∀ a, P a → Yields scene P (k a)) : Yields scene P (ForIn.forIn xs init body >>= k) :=
  bind (forIn P start each) rest

/-- A loop over a fragment and a count that keeps a property of the fragment, and what follows
it. -/
theorem forIn_pair_keeping {P : Fragment → Prop} {xs : List γ} {init : Fragment × Nat}
    {body : γ → Fragment × Nat → Emit (ForInStep (Fragment × Nat))}
    {k : Fragment × Nat → Emit Fragment} (start : P init.1)
    (each : ∀ x b, P b.1 → Yields scene (fun r => P r.value.1) (body x b))
    (rest : ∀ a, P a.1 → Yields scene P (k a)) : Yields scene P (ForIn.forIn xs init body >>= k) :=
  bind (forIn (P ·.1) start each) rest

end Yields

/-! ### Flutter and SwiftUI: the positioning step comes last -/

section Positioning

variable (scene : Scene) (node : AltNode) (f : Fragment)

/-- Flutter wraps a node placed at its own coordinates in a positioned widget, outermost. -/
theorem Flutter.positionStyles_positioned (absolute : scene.isAbsolute node = true) :
    Yields scene (·.outermost = some "Positioned") (Flutter.positionStyles node f) := by
  unfold Flutter.positionStyles
  refine Yields.reads_bind ?_
  repeat' first
    | with_reducible refine Yields.ite (fun _ => ?_) (fun _ => ?_)
    | with_reducible exact Yields.pure (Fragment.outermost_withModifier _ _ _)
    | exact absurd absolute ‹_›

/-- Flutter wraps a node in the flow that stretches along its parent's flow in an expanded
widget, outermost. -/
theorem Flutter.positionStyles_expanded (inFlow : scene.isAbsolute node = false)
    (stretched : scene.stretches node = true) :
    Yields scene (·.outermost = some "Expanded") (Flutter.positionStyles node f) := by
  unfold Flutter.positionStyles
  refine Yields.reads_bind ?_
  unfold Scene.stretches at stretched
  repeat' first
    | with_reducible refine Yields.ite (fun _ => ?_) (fun _ => ?_)
    | with_reducible exact Yields.pure (Fragment.outermost_withModifier _ _ _)
    | exact absurd stretched ‹_›
    | exact absurd (inFlow.symm.trans ‹scene.isAbsolute node = true›) Bool.false_ne_true

/-- SwiftUI gives a node placed at its own coordinates an offset. -/
theorem SwiftUi.positionStyles_offset (absolute : scene.isAbsolute node = true) :
    Yields scene ("offset" ∈ ·.modifiers.map Prod.fst) (SwiftUi.positionStyles node f) := by
  unfold SwiftUi.positionStyles
  refine Yields.reads_bind ?_
  simp only [absolute, ↓reduceIte]
  repeat' first
    | with_reducible refine Yields.ite (fun _ => ?_) (fun _ => ?_)
    | exact Yields.pure (by simp)

end Positioning

/-- Every method of Flutter ends with the positioning step, so what that step gives of any
fragment, every method gives. -/
theorem Flutter.methods_of_positionStyles {scene : Scene} {node : AltNode} {P : Fragment → Prop}
    (positioned : ∀ g, Yields scene P (Flutter.positionStyles node g)) :
    Yields scene P (Flutter.text node) ∧ Yields scene P (Flutter.shape node) ∧
      (∀ markup, Yields scene P (Flutter.vector node markup)) ∧
      ∀ children, Yields scene P (Flutter.container node children) := by
  refine ⟨?_, ?_, fun markup => ?_, fun children => ?_⟩ <;>
    simp only [Flutter.text, Flutter.shape, Flutter.vector, Flutter.container] <;>
  repeat' first
    | with_reducible exact positioned _
    | with_reducible refine Yields.bind_any fun _ => ?_
    | with_reducible refine Yields.ite (fun _ => ?_) (fun _ => ?_)
    | split

/-- Every method of SwiftUI ends with the positioning step. -/
theorem SwiftUi.methods_of_positionStyles {scene : Scene} {node : AltNode} {P : Fragment → Prop}
    (positioned : ∀ g, Yields scene P (SwiftUi.positionStyles node g)) :
    Yields scene P (SwiftUi.text node) ∧ Yields scene P (SwiftUi.shape node) ∧
      (∀ markup, Yields scene P (SwiftUi.vector node markup)) ∧
      ∀ children, Yields scene P (SwiftUi.container node children) := by
  refine ⟨?_, ?_, fun markup => ?_, fun children => ?_⟩ <;>
    simp only [SwiftUi.text, SwiftUi.shape, SwiftUi.vector, SwiftUi.container] <;>
  repeat' first
    | with_reducible exact positioned _
    | with_reducible refine Yields.bind_any fun _ => ?_
    | with_reducible refine Yields.ite (fun _ => ?_) (fun _ => ?_)
    | split

/-! ### Compose: modifiers are only added after positioning -/

/-- Compose's sizing keeps the modifiers it is handed and weights a stretched node. -/
theorem Compose.sized_modifiers (f : Fragment) (node : AltNode) (scene : Scene) :
    f.modifiers <+: (Compose.sized f node scene).modifiers ∧
      (scene.stretches node = true →
        "weight" ∈ (Compose.sized f node scene).modifiers.map Prod.fst) := by
  unfold Compose.sized Scene.stretches
  -- the sizes along the two axes decide every modifier added
  generalize dims node = d
  obtain ⟨width, height⟩ := d
  cases width <;> cases height <;>
    simp only [List.foldl_cons, List.foldl_nil, Dim.isFill, Bool.false_and, Bool.true_and,
      Bool.or_false, Bool.false_or] <;> (try split_ifs) <;>
    simp_all

/-- Compose's shape styles only add modifiers after those the fragment has. -/
theorem Compose.shapeStyles_prefix (scene : Scene) (node : AltNode) (g : Fragment) :
    Yields scene (g.modifiers <+: ·.modifiers) (Compose.shapeStyles node g) := by
  simp -zeta -zetaHave only [Compose.shapeStyles]
  lift_lets
  repeat' first
    -- a join point: its fact, that it keeps the modifiers it is handed, becomes a goal of its
    -- own, proved from its body
    | (intro x; refine (fun (hx : ∀ (u : Unit) (h : Fragment), g.modifiers <+: h.modifiers →
          Yields scene (g.modifiers <+: ·.modifiers) (x u h)) => ?_) ?_; clear_value x)
    | (intro x; simp -zeta -zetaHave only [x])
    | intro _
    | lift_lets
    | ((with_reducible refine Yields.pure ?_);
        (repeat' split) <;> simp [*, List.prefix_append_of_prefix])
    | ((with_reducible refine Yields.call ?_ _ _ ?_); (with_reducible assumption);
        (repeat' split) <;> simp [*, List.prefix_append_of_prefix])
    | (simp -zeta -zetaHave only [x])
    | (with_reducible refine Yields.forIn_keeping ?_ (fun _ _ _ => ?_) fun _ _ => ?_)
    | (with_reducible refine Yields.forIn_pair_keeping ?_ (fun _ _ _ => ?_) fun _ _ => ?_)
    | with_reducible refine Yields.bind_any fun _ => ?_
    | split
    -- a loop starts on the fragment handed in
    | assumption
    | exact List.prefix_rfl

section Compose

variable {scene : Scene} {node : AltNode} {Q : List (String × String) → Prop}
  (grows : ∀ l m, Q l → Q (l ++ m))
include grows

/-- A property of the modifiers that adding more keeps survives the shape styles. -/
theorem Compose.shapeStyles_keeps {g : Fragment} (has : Q g.modifiers) :
    Yields scene (Q ·.modifiers) (Compose.shapeStyles node g) :=
  (Compose.shapeStyles_prefix scene node g).mono fun _ pre => by
    obtain ⟨extra, grown⟩ := pre
    rw [← grown]
    exact grows _ extra has

/-- Every method of Compose positions a fragment and then only adds modifiers, so a property of
the modifiers that positioning gives and adding more keeps, every method gives. -/
theorem Compose.methods_of_positionStyles
    (positioned : ∀ g, Yields scene (Q ·.modifiers) (Compose.positionStyles node g)) :
    Yields scene (Q ·.modifiers) (Compose.text node) ∧
      Yields scene (Q ·.modifiers) (Compose.shape node) ∧
      (∀ markup, Yields scene (Q ·.modifiers) (Compose.vector node markup)) ∧
      ∀ children, Yields scene (Q ·.modifiers) (Compose.container node children) := by
  have styled : ∀ e, Yields scene (Q ·.modifiers)
      (Compose.positionStyles node (Fragment.new e) >>= Compose.shapeStyles node) := fun e =>
    Yields.bind (positioned _) fun _ has => Compose.shapeStyles_keeps grows has
  have shape : Yields scene (Q ·.modifiers) (Compose.shape node) := styled "Box"
  refine ⟨?_, shape, fun markup => ?_, fun children => ?_⟩
  · -- after the styles, a text only sets arguments
    simp only [Compose.text]
    split
    · exact shape
    refine Yields.bind (positioned _) fun g has =>
      Yields.bind (Compose.shapeStyles_keeps grows has) fun f has' => ?_
    repeat' first
      | intro _
      | ((with_reducible refine Yields.pure ?_); (repeat' split) <;> simp [*])
      | (with_reducible refine Yields.forIn_keeping ?_ (fun _ _ _ => ?_) fun _ _ => ?_)
      | with_reducible refine Yields.bind_any fun _ => ?_
      | split
      | assumption
  · simp only [Compose.vector]
    refine Yields.bind_any fun _ => Yields.bind (positioned _) fun g has => Yields.pure ?_
    simpa using has
  · -- the container's own modifiers, on the flex composable or on the box
    simp only [Compose.container]
    split
    · split
      · refine Yields.bind_any fun _ => Yields.bind (styled _) fun g has => Yields.pure ?_
        unfold Compose.paddingModifier
        split_ifs <;> simp [has, grows]
      · refine Yields.bind_any fun _ => Yields.bind (styled _) fun g has => Yields.pure ?_
        simpa using has
    · exact Yields.bind (styled _) fun g has => Yields.pure (by simpa using has)

end Compose

/-- Compose offsets a node placed at its own coordinates and weights a stretched one. -/
theorem Compose.positionStyles_marks (scene : Scene) (node : AltNode) (f : Fragment) :
    Yields scene (fun r => (scene.isAbsolute node = true → "offset" ∈ r.modifiers.map Prod.fst) ∧
      (scene.stretches node = true → "weight" ∈ r.modifiers.map Prod.fst))
      (Compose.positionStyles node f) := by
  unfold Compose.positionStyles
  refine Yields.reads_bind ?_
  -- whatever comes before, sizing keeps it and weights a stretched node
  have sized : ∀ g : Fragment, (scene.isAbsolute node = true →
      "offset" ∈ g.modifiers.map Prod.fst) →
      Yields scene (fun r => (scene.isAbsolute node = true →
        "offset" ∈ r.modifiers.map Prod.fst) ∧
        (scene.stretches node = true → "weight" ∈ r.modifiers.map Prod.fst))
        (pure (Compose.sized g node scene)) := by
    intro g offset
    obtain ⟨pre, weight⟩ := Compose.sized_modifiers g node scene
    exact Yields.pure ⟨fun absolute => (pre.map Prod.fst).mem (offset absolute), weight⟩
  repeat' first
    | with_reducible refine Yields.ite (fun _ => ?_) (fun _ => ?_)
    | (refine sized _ fun absolute => ?_; simp_all)

/-! ### Every target -/

/-- What the fragment of a node carries about where its parent puts it: for Flutter, a
positioned widget outermost when the node is placed at its own coordinates, and an expanded
one when it is in the flow and stretches along it; for SwiftUI, an offset for the first; for
Compose, an offset for the first and a weight when it stretches. Markup marks nothing. -/
def BackendKind.Marks : BackendKind → Scene → AltNode → Fragment → Prop
  | .flutter, s, n, f => (s.isAbsolute n = true → f.outermost = some "Positioned") ∧
      (s.isAbsolute n = false → s.stretches n = true → f.outermost = some "Expanded")
  | .swiftUi, s, n, f => s.isAbsolute n = true → "offset" ∈ f.modifiers.map Prod.fst
  | .compose, s, n, f => (s.isAbsolute n = true → "offset" ∈ f.modifiers.map Prod.fst) ∧
      (s.stretches n = true → "weight" ∈ f.modifiers.map Prod.fst)
  | .html, _, _, _ | .tailwind, _, _, _ => True

/-- Each target's positioning step marks what it positions. -/
theorem BackendKind.marks_positionStyles (scene : Scene) (node : AltNode) (f : Fragment) :
    Yields scene (BackendKind.flutter.Marks scene node) (Flutter.positionStyles node f) ∧
      Yields scene (BackendKind.swiftUi.Marks scene node) (SwiftUi.positionStyles node f) ∧
      Yields scene (BackendKind.compose.Marks scene node) (Compose.positionStyles node f) := by
  refine ⟨⟨fun ds => ⟨fun absolute => ?_, fun inFlow stretched => ?_⟩⟩, ⟨fun ds absolute => ?_⟩,
    Compose.positionStyles_marks scene node f⟩
  · exact (Flutter.positionStyles_positioned scene node f absolute).gives ds
  · exact (Flutter.positionStyles_expanded scene node f inFlow stretched).gives ds
  · exact (SwiftUi.positionStyles_offset scene node f absolute).gives ds

/-- The marks of a node survive naming its layer. -/
theorem BackendKind.marks_withLayerName (b : BackendKind) {scene : Scene} {n : AltNode}
    {f : Fragment} (marked : b.Marks scene n f) (node : AltNode) :
    b.Marks scene n (b.target.withLayerName node f) := by
  cases b <;> exact marked

/-- Every method of every target marks the node it emits. -/
theorem BackendKind.marks_methods (b : BackendKind) (scene : Scene) (node : AltNode) :
    Yields scene (b.Marks scene node) (b.target.text node) ∧
      Yields scene (b.Marks scene node) (b.target.shape node) ∧
      (∀ markup, Yields scene (b.Marks scene node) (b.target.vector node markup)) ∧
      ∀ children, Yields scene (b.Marks scene node) (b.target.container node children) := by
  have positioned := fun g => BackendKind.marks_positionStyles scene node g
  cases b with
  | html | tailwind =>
      exact ⟨⟨fun _ => trivial⟩, ⟨fun _ => trivial⟩, fun _ => ⟨fun _ => trivial⟩,
        fun _ => ⟨fun _ => trivial⟩⟩
  | flutter => exact Flutter.methods_of_positionStyles fun g => (positioned g).1
  | swiftUi => exact SwiftUi.methods_of_positionStyles fun g => (positioned g).2.1
  | compose =>
      refine Compose.methods_of_positionStyles (Q := fun l =>
        (scene.isAbsolute node = true → "offset" ∈ l.map Prod.fst) ∧
          (scene.stretches node = true → "weight" ∈ l.map Prod.fst)) ?_
        fun g => (positioned g).2.2
      intro l m has
      simp only [List.map_append, List.mem_append]
      exact ⟨fun absolute => .inl (has.1 absolute), fun stretched => .inl (has.2 stretched)⟩

/-- Every fragment emission gives for a node that emits something carries the node's marks. -/
theorem emitNode_marks (b : BackendKind) (scene : Scene) :
    ∀ fuel i n, scene.tree.get? i = some n →
      Yields scene (fun f => f.isEmpty = false → b.Marks scene n f) (emitNode b.target fuel i)
  | 0, _, _, _ => Yields.pure fun empty => absurd empty (by decide)
  | fuel + 1, i, n, found => by
      -- a method's marks, for a fragment that emits something
      have methods := b.marks_methods scene n
      have lift : ∀ {m : Emit Fragment}, Yields scene (b.Marks scene n) m →
          Yields scene (fun f => f.isEmpty = false → b.Marks scene n f) m :=
        fun marked => marked.mono fun _ has _ => has
      rw [emitNode]
      refine Yields.reads_bind ?_
      split
      · exact Yields.pure fun empty => absurd empty (by decide)
      · rename_i n' found'
        obtain rfl : n' = n := Option.some.inj (found'.symm.trans found)
        lift_lets
        intro layer
        -- naming the layer keeps the marks
        have named : ∀ f, (f.isEmpty = false → b.Marks scene n' f) →
            Yields scene (fun f => f.isEmpty = false → b.Marks scene n' f) (layer f) := by
          intro f marked
          simp only [layer]
          split
          · rename_i shown
            simp only [Bool.and_eq_true, Bool.not_eq_eq_eq_not, Bool.not_true] at shown
            exact Yields.pure fun _ => b.marks_withLayerName (marked shown.2) n'
          · exact Yields.pure marked
        clear_value layer
        split
        · split
          · exact Yields.bind (lift (methods.2.2.1 _)) named
          · exact Yields.bind (Yields.pure fun empty => absurd empty (by decide)) named
        · split
          · exact Yields.bind (lift methods.1) named
          · exact Yields.bind_any fun _ => Yields.bind (lift (methods.2.2.2 _)) named
          all_goals exact Yields.bind (lift methods.2.1) named

end Handoff
