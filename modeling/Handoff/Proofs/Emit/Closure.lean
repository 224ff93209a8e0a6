/-
Module: Handoff.Proofs.Emit.Closure
Purpose: The properties of emission steps that emission's own combinators keep. A property is
  `StepClosed` when pure values and reads of the scene have it, a bind has it when both of its
  steps do, and a warning has it when it is about a node the property accepts. Each method of a
  target, with the helpers it calls, is built from those combinators alone, so it has every such
  property (`Target.Closed`). That is proved here once, by one walk over the helpers and one over
  the methods: what emission reports and that it never reads its own warnings are then two
  instances, and a change to a target's code touches one walk.
Main exports: StepClosed, StepFact, Target.Closed, helpers_closed, BackendKind.target_closed.
-/
import Handoff.Conversion

namespace Handoff

/-- A property of emission steps kept by emission's combinators: it holds of pure values and of
reads of the scene, of a bind when it holds of both steps, and of a warning about a node that
`ok` accepts. -/
structure StepClosed (ok : Nat → Prop) (P : ∀ {α : Type}, Emit α → Prop) : Prop where
  pure : ∀ {α : Type} (a : α), P (Pure.pure a : Emit α)
  bind : ∀ {α β : Type} {m : Emit α} {f : α → Emit β}, P m → (∀ a, P (f a)) → P (m >>= f)
  reads : P (read : Emit Scene)
  warn : ∀ {node : AltNode}, ok node.id → ∀ message, P (Emit.warn node message)

namespace StepClosed

variable {ok : Nat → Prop} {P : ∀ {α : Type}, Emit α → Prop} {α β γ : Type}

theorem config (closed : StepClosed ok P) : P Emit.config := by
  unfold Emit.config
  exact closed.bind closed.reads fun _ => closed.pure _

/-- A loop over a list whose every step has the property. -/
theorem forIn (closed : StepClosed ok P) {xs : List γ} {init : β}
    {body : γ → β → Emit (ForInStep β)} (each : ∀ x b, P (body x b)) :
    P (ForIn.forIn xs init body) := by
  induction xs generalizing init with
  | nil => exact closed.pure init
  | cons x rest ih =>
      rw [List.forIn_cons]
      refine closed.bind (each x init) fun step => ?_
      cases step with
      | done b => exact closed.pure b
      | yield b => exact ih

theorem filterMapM (closed : StepClosed ok P) {xs : List γ} {f : γ → Emit (Option β)}
    (each : ∀ x, P (f x)) : P (xs.filterMapM f) := by
  -- the loop behind `filterMapM`, from any list kept so far
  suffices loop : ∀ kept, P (List.filterMapM.loop f xs kept) from loop []
  induction xs with
  | nil => exact fun kept => closed.pure _
  | cons x rest ih =>
      intro kept
      refine closed.bind (each x) fun found => ?_
      cases found with
      | none => exact ih kept
      | some y => exact ih (y :: kept)

/-- A join point or local procedure called with its arguments. -/
theorem call₁ {σ : Type} {j : σ → Emit α} (each : ∀ a, P (j a)) (a : σ) : P (j a) :=
  each a

theorem call₂ {σ ρ : Type} {j : σ → ρ → Emit α} (each : ∀ a b, P (j a b)) (a : σ) (b : ρ) :
    P (j a b) :=
  each a b

end StepClosed

/-- A property of emission steps, lifted to the functions that give them: `holds P x` says
that every step `x` gives has `P`. A join point of a `do` block is such a function, so its fact
can be stated once, whatever its arguments. -/
class StepFact (τ : Type) where
  holds : (∀ {α : Type}, Emit α → Prop) → τ → Prop

instance {α : Type} : StepFact (Emit α) := ⟨fun P m => P m⟩

instance {σ τ : Type} [StepFact τ] : StepFact (σ → τ) :=
  ⟨fun P f => ∀ x, StepFact.holds P (f x)⟩

namespace StepFact

@[simp] theorem holds_step {α : Type} (P : ∀ {α : Type}, Emit α → Prop) (m : Emit α) :
    holds (fun m => P m) m = P m := rfl

@[simp] theorem holds_fun {σ τ : Type} [StepFact τ] (P : ∀ {α : Type}, Emit α → Prop)
    (f : σ → τ) : holds (fun m => P m) f = ∀ x, holds (fun m => P m) (f x) := rfl

end StepFact

/-- Every method of a target has every property that emission's combinators keep, when the
property accepts the node the method is handed. -/
structure Target.Closed (target : Target) : Prop where
  text : ∀ {ok P}, StepClosed ok P → ∀ node, ok node.id → P (target.text node)
  vector : ∀ {ok P}, StepClosed ok P → ∀ node, ok node.id → ∀ markup,
    P (target.vector node markup)
  shape : ∀ {ok P}, StepClosed ok P → ∀ node, ok node.id → P (target.shape node)
  container : ∀ {ok P}, StepClosed ok P → ∀ node, ok node.id → ∀ children,
    P (target.container node children)

section Walk

variable {ok : Nat → Prop} {P : ∀ {α : Type}, Emit α → Prop}

/-! ### The walk

Each method of a target, with the helpers it calls, is a tree of binds, branches, loops, reads
of the scene and warnings about its node, whose `do` blocks share their continuations through
join points. The walk below keeps every join point (and every local procedure) as a local
definition, proves its fact once from its body, and then forgets the body, so each continuation
is checked once however many branches jump to it. The helpers that several methods call are
walked once, in their own lemma, and the methods' walk uses that lemma. -/

/-- The styling helpers that several methods of a target call are built from emission's
combinators alone: for each target in turn, markup's, the utility classes', Flutter's,
SwiftUI's and Compose's. -/
theorem helpers_closed (closed : StepClosed ok P) (node : AltNode) (about : ok node.id) :
    ((∀ f, P (Html.shapeStyles node f)) ∧ (∀ f, P (Html.positionStyles node f))) ∧
    ((∀ f, P (Tailwind.shapeStyles node f)) ∧ (∀ f, P (Tailwind.positionStyles node f))) ∧
    ((∀ run shadows, P (Flutter.textStyle node run shadows)) ∧
      (∀ f, P (Flutter.positionStyles node f)) ∧ (∀ f, P (Flutter.shapeStyles node f))) ∧
    ((∀ run, P (SwiftUi.runText node run)) ∧ (∀ f, P (SwiftUi.positionStyles node f)) ∧
      (∀ f, P (SwiftUi.shapeStyles node f))) ∧
    ((∀ run, P (Compose.span node run)) ∧ P (Compose.textShadow node) ∧
      (∀ f, P (Compose.positionStyles node f)) ∧ (∀ f, P (Compose.shapeStyles node f))) := by
  refine ⟨⟨?_, ?_⟩, ⟨?_, ?_⟩, ⟨?_, ?_, ?_⟩, ⟨?_, ?_, ?_⟩, ⟨?_, ?_, ?_, ?_⟩⟩ <;> intros <;>
    simp -zeta -zetaHave only [Html.positionStyles, Html.shapeStyles, Tailwind.positionStyles,
      Tailwind.shapeStyles, Flutter.textStyle, Flutter.positionStyles, Flutter.shapeStyles,
      Flutter.decoration, SwiftUi.fillStyle, SwiftUi.runText, SwiftUi.positionStyles,
      SwiftUi.shapeStyles, Compose.span, Compose.spanArgs, Compose.textShadow,
      Compose.positionStyles, Compose.shapeStyles, nativeTextColor] <;>
    (try lift_lets) <;>
  repeat' first
    -- a join point or local procedure: its fact becomes a goal of its own, proved from its
    -- body, and the rest of the program sees only the fact
    | (intro x; refine (fun (hx : StepFact.holds (fun m => P m) x) => ?_) ?_; clear_value x;
        simp only [StepFact.holds_fun, StepFact.holds_step] at hx)
    -- a value the property does not depend on
    | (intro x; clear_value x)
    | intro _
    | lift_lets
    | (simp -zeta -zetaHave only [StepFact.holds_step])
    -- a helper walked on its own, or a join point, called
    | with_reducible assumption
    | (refine StepClosed.call₂ ?_ _ _; with_reducible assumption)
    | (refine StepClosed.call₁ ?_ _; with_reducible assumption)
    -- the body of the join point whose fact is being proved
    | (simp -zeta -zetaHave only [x])
    | with_reducible refine closed.bind ?_ fun _ => ?_
    | with_reducible refine closed.forIn fun _ _ => ?_
    | with_reducible exact closed.pure _
    | with_reducible exact closed.reads
    | with_reducible exact closed.config
    | with_reducible exact closed.warn about _
    | split

/-- Every target is built from emission's combinators alone. -/
theorem BackendKind.target_closed (b : BackendKind) : b.target.Closed := by
  refine ⟨?_, ?_, ?_, ?_⟩ <;> intro ok P closed node about <;> intros <;>
    -- the helpers' facts, for the methods' walks to call
    obtain ⟨⟨_, _⟩, ⟨_, _⟩, ⟨_, _, _⟩, ⟨_, _, _⟩, ⟨_, _, _, _⟩⟩ := helpers_closed closed node about <;>
    cases b <;>
    simp -zeta -zetaHave only [BackendKind.target, Html.target, Html.text, Html.vector,
      Html.shape, Html.container, Html.withLayout, Html.textFill, Html.runStyles,
      Tailwind.target, Tailwind.text, Tailwind.vector, Tailwind.shape, Tailwind.container,
      Tailwind.withLayout, Tailwind.runClasses, Flutter.target, Flutter.text, Flutter.vector,
      Flutter.shape, Flutter.container, Flutter.flex, Flutter.flexWidget, SwiftUi.target,
      SwiftUi.text, SwiftUi.vector, SwiftUi.shape, SwiftUi.container, SwiftUi.stack,
      Compose.target, Compose.text, Compose.vector, Compose.shape, Compose.container,
      Compose.flow, Compose.flowComposable, Compose.spanArgs, nativeTextColor] <;>
    (try lift_lets) <;>
  repeat' first
    -- a join point or local procedure: its fact becomes a goal of its own, proved from its
    -- body, and the rest of the program sees only the fact
    | (intro x; refine (fun (hx : StepFact.holds (fun m => P m) x) => ?_) ?_; clear_value x;
        simp only [StepFact.holds_fun, StepFact.holds_step] at hx)
    -- a value the property does not depend on
    | (intro x; clear_value x)
    | intro _
    | lift_lets
    | (simp -zeta -zetaHave only [StepFact.holds_step])
    -- a helper walked on its own, or a join point, called
    | with_reducible assumption
    | (refine StepClosed.call₂ ?_ _ _; with_reducible assumption)
    | (refine StepClosed.call₁ ?_ _; with_reducible assumption)
    -- the body of the join point whose fact is being proved
    | (simp -zeta -zetaHave only [x])
    | with_reducible refine closed.bind ?_ fun _ => ?_
    | with_reducible refine closed.forIn fun _ _ => ?_
    | with_reducible exact closed.pure _
    | with_reducible exact closed.reads
    | with_reducible exact closed.config
    | with_reducible exact closed.warn about _
    | split

end Walk

end Handoff
