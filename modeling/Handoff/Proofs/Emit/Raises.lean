/-
Module: Handoff.Proofs.Emit.Raises
Purpose: Emission reports what a target cannot say. An emission step `Raises` a diagnostic when,
  run in a scene on any warnings so far, it ends with that diagnostic among its warnings; a step
  that raises one, followed by steps that only append, still has it, and so has every step that
  runs it on the way. Emission goes down from each root to every node it dispatches, so a
  warning the call for such a node raises is among the warnings of the whole run.
Main exports: Raises, Raises.bind_left, Raises.bind_right, Raises.forIn_of_mem,
  Target.CallRaises, emitNode_raises, emitTree_raises.
-/
import Handoff.Proofs.Emit.Contract

namespace Handoff

open AltTree

/-- Run in `scene` on any warnings so far, the emission step `m` ends with a diagnostic `P`
accepts among its warnings. -/
structure Raises {α : Type} (scene : Scene) (P : Diagnostic → Prop) (m : Emit α) : Prop where
  warned : ∀ ds, ∃ d ∈ ((m scene).run ds).2.toList, P d

namespace Raises

variable {α β γ : Type} {scene : Scene} {P : Diagnostic → Prop}

theorem mono {Q : Diagnostic → Prop} {m : Emit α} (raises : Raises scene P m)
    (weaker : ∀ d, P d → Q d) : Raises scene Q m :=
  ⟨fun ds => by
    obtain ⟨d, mem, accepted⟩ := raises.warned ds
    exact ⟨d, mem, weaker d accepted⟩⟩

/-- A warning about a node raises that warning. -/
theorem warn (node : AltNode) (message : String) :
    Raises scene (· = Diagnostic.warning node.id message) (Emit.warn node message) :=
  ⟨fun ds => ⟨_, by
    show _ ∈ (ds.push (Diagnostic.warning node.id message)).toList
    rw [Array.toList_push]
    exact List.mem_append_right _ (List.mem_singleton_self _), rfl⟩⟩

/-- A step that raises a diagnostic, followed by steps that only append warnings. -/
theorem bind_left {m : Emit α} {f : α → Emit β} (first : Raises scene P m)
    (rest : ∀ a, WarnsOnly scene (fun _ => True) (f a)) : Raises scene P (m >>= f) :=
  ⟨fun ds => by
    obtain ⟨d, mem, accepted⟩ := first.warned ds
    obtain ⟨new, grown, -⟩ := (rest ((m scene).run ds).1).appends ((m scene).run ds).2
    refine ⟨d, ?_, accepted⟩
    show d ∈ ((f ((m scene).run ds).1 scene).run ((m scene).run ds).2).2.toList
    rw [grown]
    exact List.mem_append_left _ mem⟩

/-- Steps that raise a diagnostic whatever the step before them gives. -/
theorem bind_right {m : Emit α} {f : α → Emit β} (rest : ∀ a, Raises scene P (f a)) :
    Raises scene P (m >>= f) :=
  ⟨fun ds => (rest ((m scene).run ds).1).warned ((m scene).run ds).2⟩

/-- Steps that raise a diagnostic after every result the step before them can give. -/
theorem bind_of {Q : α → Prop} {m : Emit α} {f : α → Emit β} (first : Yields scene Q m)
    (rest : ∀ a, Q a → Raises scene P (f a)) : Raises scene P (m >>= f) :=
  ⟨fun ds => (rest ((m scene).run ds).1 (first.gives ds)).warned ((m scene).run ds).2⟩

theorem reads_bind {f : Scene → Emit β} (rest : Raises scene P (f scene)) :
    Raises scene P (read >>= f) :=
  ⟨fun ds => rest.warned ds⟩

theorem ite {c : Prop} [Decidable c] {a b : Emit α} (pos : c → Raises scene P a)
    (neg : ¬c → Raises scene P b) : Raises scene P (if c then a else b) := by
  by_cases h : c
  · rw [if_pos h]
    exact pos h
  · rw [if_neg h]
    exact neg h

/-- A loop that goes on after every step and whose step for one member raises a diagnostic,
whatever the state; the other steps only append warnings. -/
theorem forIn_of_mem {xs : List γ} {init : β} {body : γ → β → Emit (ForInStep β)} {x : γ}
    (mem : x ∈ xs) (raises : ∀ b, Raises scene P (body x b))
    (keeps : ∀ y b, WarnsOnly scene (fun _ => True) (body y b))
    (goesOn : ∀ y b, Yields scene (fun r => ∃ b', r = .yield b') (body y b)) :
    Raises scene P (ForIn.forIn xs init body) := by
  induction xs generalizing init with
  | nil => exact absurd mem List.not_mem_nil
  | cons y rest ih =>
      rw [List.forIn_cons]
      rcases List.mem_cons.1 mem with rfl | later
      · -- the step that raises, then the loop over the rest, which only appends
        refine bind_left (raises init) fun step => ?_
        cases step with
        | done b => exact WarnsOnly.pure b
        | yield b => exact WarnsOnly.forIn fun y b => keeps y b
      · refine bind_of (goesOn y init) ?_
        rintro _ ⟨b, rfl⟩
        exact ih later

/-- A filtering map whose step for one member raises a diagnostic; the other steps only
append warnings. -/
theorem filterMapM_of_mem {xs : List γ} {f : γ → Emit (Option β)} {x : γ} (mem : x ∈ xs)
    (raises : Raises scene P (f x)) (keeps : ∀ y, WarnsOnly scene (fun _ => True) (f y)) :
    Raises scene P (xs.filterMapM f) := by
  -- the loop behind `filterMapM`, from any list kept so far: every step appends
  have appends : ∀ ys kept, WarnsOnly scene (fun _ => True) (List.filterMapM.loop f ys kept) := by
    intro ys
    induction ys with
    | nil => exact fun kept => WarnsOnly.pure _
    | cons y rest ih =>
        intro kept
        refine (keeps y).bind fun found => ?_
        cases found with
        | none => exact ih kept
        | some b => exact ih (b :: kept)
  -- and over any list holding `x` it raises
  suffices loop : ∀ ys, x ∈ ys → ∀ kept, Raises scene P (List.filterMapM.loop f ys kept) from
    loop xs mem []
  intro ys
  induction ys with
  | nil => exact fun mem => absurd mem List.not_mem_nil
  | cons y rest ih =>
      intro mem kept
      rcases List.mem_cons.1 mem with rfl | later
      · refine bind_left raises fun found => ?_
        cases found with
        | none => exact appends rest kept
        | some b => exact appends rest (b :: kept)
      · refine bind_right fun found => ?_
        cases found with
        | none => exact ih later kept
        | some b => exact ih later (b :: kept)

end Raises

/-- A warning about node `i`. -/
def Diagnostic.WarnsAbout (i : Nat) (d : Diagnostic) : Prop :=
  d.severity = .warning ∧ d.node = some i

theorem Diagnostic.warnsAbout_warning (i : Nat) (message : String) :
    (Diagnostic.warning i message).WarnsAbout i :=
  ⟨rfl, rfl⟩

/-- The call emission makes for node `n`, whatever children it hands a container, raises a
diagnostic `P` accepts: a vector drawn from its markup, a text, a container or any other
shape, as emission dispatches it. -/
structure Target.CallRaises (target : Target) (scene : Scene) (P : Diagnostic → Prop)
    (n : AltNode) : Prop where
  vector : (n.canFlattenToVector && scene.config.embedVectors) = true →
    ∀ markup, n.embeddedVectorMarkup = some markup → Raises scene P (target.vector n markup)
  text : (n.canFlattenToVector && scene.config.embedVectors) = false → n.kind = .text →
    Raises scene P (target.text n)
  container : (n.canFlattenToVector && scene.config.embedVectors) = false →
    n.kind = .container → ∀ children, Raises scene P (target.container n children)
  shape : (n.canFlattenToVector && scene.config.embedVectors) = false → n.kind ≠ .text →
    n.kind ≠ .container → Raises scene P (target.shape n)

/-- Naming the layer of a fragment only returns it. -/
theorem WarnsOnly.layer {target : Target} {scene : Scene} {ok : Nat → Prop} (n : AltNode)
    (f : Fragment) :
    WarnsOnly scene ok (if (scene.config.showLayerNames && !f.isEmpty) = true then
      Pure.pure (target.withLayerName n f) else Pure.pure f : Emit Fragment) := by
  split <;> exact WarnsOnly.pure _

section Run

variable {target : Target} (warns : target.WarnsAbout) (scene : Scene)
  (wf : scene.tree.WellFormed)
include warns wf

/-- Emission from `id` raises what the call for a node it comes to raises, given fuel for the
path down to it: a node's call follows the emission of its children, and emission only appends
warnings after it. -/
theorem emitNode_raises {P : Diagnostic → Prop} {id i : Nat}
    (path : ComesTo scene.tree scene.config id i) {n : AltNode}
    (found : scene.tree.get? i = some n) (called : scene.config.callsFor n = true)
    (calls : target.CallRaises scene P n) :
    ∀ {fuel : Nat}, i < fuel + id → Raises scene P (emitNode target fuel id) := by
  -- every step of emission appends warnings
  have keeps : ∀ fuel c, WarnsOnly scene (fun _ => True) (emitNode target fuel c) :=
    fun fuel c => (emitNode_warnsOnly warns scene fuel c).mono fun _ _ => trivial
  induction path with
  | start i =>
      intro fuel enough
      obtain ⟨fuel, rfl⟩ : ∃ f, fuel = f + 1 := Nat.exists_eq_succ_of_ne_zero (by omega)
      rw [emitNode]
      refine Raises.reads_bind ?_
      simp only [found]
      by_cases flat : (n.canFlattenToVector && scene.config.embedVectors) = true
      · -- drawn from its markup, which the tool exported since the node gets a call
        obtain ⟨markup, exported⟩ : ∃ markup, n.embeddedVectorMarkup = some markup := by
          cases exported : n.embeddedVectorMarkup with
          | none => simp [RunConfig.callsFor, flat, exported] at called
          | some markup => exact ⟨markup, rfl⟩
        simp only [if_pos flat, exported]
        exact Raises.bind_left (calls.vector flat markup exported) fun f => WarnsOnly.layer n f
      · rw [Bool.not_eq_true] at flat
        simp only [flat, Bool.false_eq_true, if_false]
        cases kind : n.kind
        case text =>
          exact Raises.bind_left (calls.text flat kind) fun f => WarnsOnly.layer n f
        case container =>
          refine Raises.bind_right fun children => ?_
          exact Raises.bind_left (calls.container flat kind children) fun f => WarnsOnly.layer n f
        all_goals
          exact Raises.bind_left (calls.shape flat (by simp [kind]) (by simp [kind]))
            fun f => WarnsOnly.layer n f
  | @down id c i m atId descends child rest ih =>
      intro fuel enough
      -- the child has a larger id, so one level of fuel less still reaches `i`
      have deeper : id < c := wf.lt_of_childOf ⟨m, atId, child⟩
      have within : c ≤ i := wf.le_of_reaches rest.reaches
      obtain ⟨fuel, rfl⟩ : ∃ f, fuel = f + 1 := Nat.exists_eq_succ_of_ne_zero (by omega)
      obtain ⟨container, drawn⟩ := (RunConfig.descendsInto_iff _ _).1 descends
      have flat : (m.canFlattenToVector && scene.config.embedVectors) = false := by
        cases embed : scene.config.embedVectors
        · simp
        · simp [drawn embed]
      rw [emitNode]
      refine Raises.reads_bind ?_
      simp only [atId, flat, Bool.false_eq_true, if_false, container]
      -- the child on the path raises; the other children and the container only append
      have below : Raises scene P (emitNode target fuel c) := ih found (by omega)
      refine Raises.bind_left (Raises.filterMapM_of_mem child
        (Raises.bind_left below fun _ => WarnsOnly.pure _)
        fun c => (keeps fuel c).bind fun _ => WarnsOnly.pure _) fun children => ?_
      exact (warns.container scene _ m children trivial).bind fun f => WarnsOnly.layer m f

/-- Emission of the roots raises what the call for a node under one of them raises. -/
theorem emitRoots_raises {P : Diagnostic → Prop} {r i : Nat} (root : r ∈ scene.tree.roots)
    (path : ComesTo scene.tree scene.config r i) {n : AltNode}
    (found : scene.tree.get? i = some n) (called : scene.config.callsFor n = true)
    (calls : target.CallRaises scene P n) : Raises scene P (emitRoots target) := by
  have enough : i < scene.tree.nodes.size + 1 + r := by
    have := lt_size_of_get? found
    omega
  unfold emitRoots
  refine Raises.reads_bind (Raises.bind_left (Raises.forIn_of_mem root
    (fun bodies => Raises.bind_left (emitNode_raises warns scene wf path found called calls enough)
      fun f => ?_) (fun root bodies => ?_) fun root bodies => ?_) fun _ => WarnsOnly.pure _)
  · split <;> exact WarnsOnly.pure _
  · refine ((emitNode_warnsOnly warns scene _ root).mono fun _ _ => trivial).bind fun f => ?_
    split <;> exact WarnsOnly.pure _
  · -- whatever the root gives, the loop goes on
    refine Yields.bind_any fun f => ?_
    split <;> exact Yields.pure ⟨_, rfl⟩

/-- In a well-formed tree whose nodes all lie under its roots, the warnings of emission hold what
the call for every node it dispatches raises. -/
theorem emitTree_raises
    (covered : ∀ i n, scene.tree.get? i = some n → ∃ r ∈ scene.tree.roots, scene.tree.Reaches r i)
    {P : Diagnostic → Prop} {i : Nat} {n : AltNode} (found : scene.tree.get? i = some n)
    (dispatched : Dispatched scene.tree scene.config i) (calls : target.CallRaises scene P n) :
    ∃ d ∈ (emitTree target scene).2, P d := by
  obtain ⟨n', found', ancestors, present⟩ := dispatched
  obtain rfl : n' = n := Option.some.inj (found'.symm.trans found)
  obtain ⟨r, root, reach⟩ := covered i _ found
  have path : ComesTo scene.tree scene.config r i := (comesTo_root_iff wf root).2
    ⟨reach, fun a m below ne atA => (RunConfig.descendsInto_iff _ _).2 (ancestors a m below ne atA)⟩
  rw [emitTree_warnings]
  exact (emitRoots_raises warns scene wf root path found ((RunConfig.callsFor_iff _ _).2 present)
    calls).warned #[]

end Run

end Handoff
