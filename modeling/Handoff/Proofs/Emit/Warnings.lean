/-
Module: Handoff.Proofs.Emit.Warnings
Purpose: What emission reports. An emission step `WarnsOnly ok` when, run in a scene on any
  warnings so far, it only appends warnings, each about a node `ok` accepts. The property goes
  through binds, branches and loops: it is kept by emission's combinators, so every target
  warns only about the node it emits.
Main exports: WarnsOnly, WarnsOnly.bind, WarnsOnly.warn, WarnsOnly.forIn, Target.WarnsAbout,
  BackendKind.target_warnsAbout.
-/
import Handoff.Proofs.Emit.Closure
import Mathlib

namespace Handoff

/-- Run in `scene`, the emission step `m` only appends warnings, each about a node `ok`
accepts. -/
structure WarnsOnly {α : Type} (scene : Scene) (ok : Nat → Prop) (m : Emit α) : Prop where
  appends : ∀ ds, ∃ new, ((m scene).run ds).2.toList = ds.toList ++ new ∧
    ∀ d ∈ new, d.severity = .warning ∧ ∃ i, d.node = some i ∧ ok i

namespace WarnsOnly

variable {α β : Type} {scene : Scene} {ok : Nat → Prop}

theorem pure (a : α) : WarnsOnly scene ok (Pure.pure a : Emit α) :=
  ⟨fun ds => ⟨[], by rw [List.append_nil]; rfl, by simp⟩⟩

theorem bind {m : Emit α} {f : α → Emit β} (first : WarnsOnly scene ok m)
    (rest : ∀ a, WarnsOnly scene ok (f a)) : WarnsOnly scene ok (m >>= f) := by
  refine ⟨fun ds => ?_⟩
  obtain ⟨new₁, grown₁, about₁⟩ := first.appends ds
  obtain ⟨new₂, grown₂, about₂⟩ := (rest ((m scene).run ds).1).appends ((m scene).run ds).2
  refine ⟨new₁ ++ new₂, ?_, fun d mem => ?_⟩
  · show ((f ((m scene).run ds).1 scene).run ((m scene).run ds).2).2.toList = _
    rw [grown₂, grown₁, List.append_assoc]
  · rcases List.mem_append.1 mem with early | late
    · exact about₁ d early
    · exact about₂ d late

theorem reads : WarnsOnly scene ok (read : Emit Scene) :=
  ⟨fun ds => ⟨[], by rw [List.append_nil]; rfl, by simp⟩⟩

/-- Reading the scene gives the scene the step runs in. -/
theorem reads_bind {f : Scene → Emit β} (rest : WarnsOnly scene ok (f scene)) :
    WarnsOnly scene ok (read >>= f) :=
  ⟨fun ds => rest.appends ds⟩

/-- A warning about a node `ok` accepts. -/
theorem warn {node : AltNode} (about : ok node.id) (message : String) :
    WarnsOnly scene ok (Emit.warn node message) := by
  refine ⟨fun ds => ?_⟩
  have pushed : ((Emit.warn node message scene).run ds).2 =
      ds.push (Diagnostic.warning node.id message) := rfl
  exact ⟨[Diagnostic.warning node.id message], by rw [pushed, Array.toList_push],
    by simp [Diagnostic.warning, about]⟩

theorem mono {ok' : Nat → Prop} {m : Emit α} (within : ∀ i, ok i → ok' i)
    (warns : WarnsOnly scene ok m) : WarnsOnly scene ok' m := ⟨fun ds => by
  obtain ⟨new, grown, about⟩ := warns.appends ds
  refine ⟨new, grown, fun d mem => ?_⟩
  obtain ⟨warning, i, named, accepted⟩ := about d mem
  exact ⟨warning, i, named, within i accepted⟩⟩

/-- Steps that only warn about accepted nodes are closed under emission's combinators. -/
theorem closed (scene : Scene) (ok : Nat → Prop) :
    StepClosed ok (fun m => WarnsOnly scene ok m) :=
  ⟨pure, bind, reads, fun about => warn about⟩

theorem config : WarnsOnly scene ok Emit.config :=
  (closed scene ok).config

/-- A loop over a list whose every step only warns about accepted nodes. -/
theorem forIn {xs : List α} {init : β} {body : α → β → Emit (ForInStep β)}
    (each : ∀ x b, WarnsOnly scene ok (body x b)) :
    WarnsOnly scene ok (ForIn.forIn xs init body) :=
  (closed scene ok).forIn each

theorem filterMapM {xs : List α} {f : α → Emit (Option β)} (each : ∀ x, WarnsOnly scene ok (f x)) :
    WarnsOnly scene ok (xs.filterMapM f) :=
  (closed scene ok).filterMapM each

end WarnsOnly

/-- A target warns only about the node it is handed. -/
structure Target.WarnsAbout (target : Target) : Prop where
  text : ∀ scene ok node, ok node.id → WarnsOnly scene ok (target.text node)
  vector : ∀ scene ok node markup, ok node.id → WarnsOnly scene ok (target.vector node markup)
  shape : ∀ scene ok node, ok node.id → WarnsOnly scene ok (target.shape node)
  container : ∀ scene ok node children, ok node.id →
    WarnsOnly scene ok (target.container node children)

/-- A target built from emission's combinators alone warns only about the node it emits. -/
theorem Target.Closed.warnsAbout {target : Target} (closed : target.Closed) : target.WarnsAbout :=
  ⟨fun scene ok => closed.text (WarnsOnly.closed scene ok),
    fun scene ok node markup about => closed.vector (WarnsOnly.closed scene ok) node about markup,
    fun scene ok => closed.shape (WarnsOnly.closed scene ok),
    fun scene ok node children about =>
      closed.container (WarnsOnly.closed scene ok) node about children⟩

/-- Every target warns only about the node it emits. -/
theorem BackendKind.target_warnsAbout (b : BackendKind) : b.target.WarnsAbout :=
  (BackendKind.target_closed b).warnsAbout

end Handoff
