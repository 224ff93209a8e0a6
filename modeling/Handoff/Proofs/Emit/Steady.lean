/-
Module: Handoff.Proofs.Emit.Steady
Purpose: What emission gives does not depend on the warnings raised before it. An emission step
  is `Steady` when, run in a scene, it gives the same result on any warnings so far: it appends
  to the warnings and never reads them. The property is kept by emission's combinators, so
  every method of every target has it, and so has the emission of a node with its subtree. A
  node therefore has one output in a scene for a given depth, whatever was emitted before it.
Main exports: Steady, Target.Steady, BackendKind.target_steady, emitNode_steady.
-/
import Handoff.Proofs.Emit.Closure

namespace Handoff

/-- Run in `scene`, the emission step `m` gives the same result on any warnings so far. -/
structure Steady {α : Type} (scene : Scene) (m : Emit α) : Prop where
  result : ∀ ds, ((m scene).run ds).1 = ((m scene).run #[]).1

namespace Steady

variable {α β γ : Type} {scene : Scene}

theorem pure (a : α) : Steady scene (Pure.pure a : Emit α) := ⟨fun _ => rfl⟩

theorem bind {m : Emit α} {f : α → Emit β} (first : Steady scene m)
    (rest : ∀ a, Steady scene (f a)) : Steady scene (m >>= f) := ⟨fun ds => by
  show ((f ((m scene).run ds).1 scene).run ((m scene).run ds).2).1 =
    ((f ((m scene).run #[]).1 scene).run ((m scene).run #[]).2).1
  -- the first step gives the same value either way, and the rest ignores what it is run on
  rw [first.result ds, (rest _).result, (rest _).result ((m scene).run #[]).2]⟩

theorem reads : Steady scene (read : Emit Scene) := ⟨fun _ => rfl⟩

/-- A warning is appended, never read. -/
theorem warn (node : AltNode) (message : String) : Steady scene (Emit.warn node message) :=
  ⟨fun _ => rfl⟩

/-- Steps that each give one result, whatever the warnings, give together the list of the
results that are present. -/
theorem filterMapM_result {xs : List γ} {f : γ → Emit (Option β)} (each : ∀ x, Steady scene (f x))
    (ds : Array Diagnostic) :
    ((xs.filterMapM f scene).run ds).1 = xs.filterMap fun x => ((f x scene).run #[]).1 := by
  -- the loop behind `filterMapM` gives the results kept so far, reversed, then the rest
  suffices loop : ∀ kept ds, ((List.filterMapM.loop f xs kept scene).run ds).1 =
      kept.reverse ++ xs.filterMap fun x => ((f x scene).run #[]).1 from loop [] ds
  induction xs with
  | nil => exact fun kept ds => by simp [List.filterMapM.loop]; rfl
  | cons x rest ih =>
      intro kept ds
      have step : ((List.filterMapM.loop f (x :: rest) kept scene).run ds).1 =
          (((match ((f x scene).run ds).1 with
            | none => List.filterMapM.loop f rest kept
            | some y => List.filterMapM.loop f rest (y :: kept)) scene).run
            ((f x scene).run ds).2).1 := rfl
      rw [step, (each x).result ds]
      cases found : ((f x scene).run #[]).1 with
      | none => simp [found, ih]
      | some y => simp [found, ih]

end Steady

/-- Every method of a target gives a result that does not depend on the warnings so far. -/
structure Target.Steady (target : Target) : Prop where
  text : ∀ scene node, Handoff.Steady scene (target.text node)
  vector : ∀ scene node markup, Handoff.Steady scene (target.vector node markup)
  shape : ∀ scene node, Handoff.Steady scene (target.shape node)
  container : ∀ scene node children, Handoff.Steady scene (target.container node children)

/-! ### Every target

Steadiness is kept by emission's combinators, whatever node a warning is about, so every target
built from them alone is steady. -/

/-- Steps that never read their warnings are closed under emission's combinators. -/
theorem Steady.closed (scene : Scene) : StepClosed (fun _ => True) (fun m => Steady scene m) :=
  ⟨Steady.pure, Steady.bind, Steady.reads, fun _ => Steady.warn _⟩

theorem Target.Closed.steady {target : Target} (closed : target.Closed) : target.Steady :=
  ⟨fun scene node => closed.text (Steady.closed scene) node trivial,
    fun scene node => closed.vector (Steady.closed scene) node trivial,
    fun scene node => closed.shape (Steady.closed scene) node trivial,
    fun scene node => closed.container (Steady.closed scene) node trivial⟩

theorem BackendKind.target_steady (b : BackendKind) : b.target.Steady :=
  (BackendKind.target_closed b).steady

/-! ### A node and its subtree -/

/-- Emitting a node with its subtree, to any depth, gives a fragment that does not depend on the
warnings raised before it. -/
theorem emitNode_steady {target : Target} (steady : target.Steady) (scene : Scene) :
    ∀ fuel id, Steady scene (emitNode target fuel id)
  | 0, _ => Steady.pure _
  | fuel + 1, id => by
      rw [emitNode]
      refine Steady.bind Steady.reads fun scene' => ?_
      split
      · exact Steady.pure _
      · rename_i n _
        lift_lets
        intro layer
        -- naming the layer is pure
        have named : ∀ f, Steady scene (layer f) := fun f => by
          simp only [layer]
          split <;> exact Steady.pure _
        clear_value layer
        split
        · split
          · exact Steady.bind (steady.vector scene n _) named
          · exact Steady.bind (Steady.pure _) named
        · split
          · exact Steady.bind (steady.text scene n) named
          · exact Steady.bind ((Steady.closed scene).filterMapM fun child =>
              Steady.bind (emitNode_steady steady scene fuel child) fun _ => Steady.pure _)
              fun children => Steady.bind (steady.container scene n children) named
          all_goals exact Steady.bind (steady.shape scene n) named

end Handoff
