/-
Module: Handoff.Proofs.Emit.Dispatch
Purpose: Which nodes emission hands to a target. From each root, emission goes down through the
  containers it does not draw as one vector, and calls a target's method for every node it comes
  to, save a vector whose exported markup is missing, which emits nothing. In a well-formed tree
  whose nodes all lie under its roots, a node therefore gets a call exactly when each of its
  proper ancestors is such a container and it is not such a vector. Calls are observed through a
  target that records each call before making it (`Target.recorded`); and every warning of a run
  is about a node that got a call.
Main exports: RunConfig.descendsInto, RunConfig.callsFor, callsFrom, ComesTo, Dispatched,
  mem_callsFrom_roots_iff, Target.recorded, recordedCalls, Records, emitRoots_records,
  emitRoots_warnsOnly.
-/
import Handoff.Proofs.Emit.Warnings
import Handoff.Proofs.Tree.Arena

namespace Handoff

open AltTree

/-! ### Where emission goes -/

namespace RunConfig

/-- Emission goes on below a node it comes to: a container, unless it draws the node as one
vector. -/
def descendsInto (config : RunConfig) (n : AltNode) : Bool :=
  decide (n.kind = .container) && !(n.canFlattenToVector && config.embedVectors)

/-- Emission calls a target's method for a node it comes to, unless it draws the node as one
vector and the tool exported no markup for it. -/
def callsFor (config : RunConfig) (n : AltNode) : Bool :=
  !(n.canFlattenToVector && config.embedVectors && n.embeddedVectorMarkup.isNone)

theorem descendsInto_iff (config : RunConfig) (n : AltNode) :
    config.descendsInto n = true ↔
      n.kind = .container ∧ (config.embedVectors = true → n.canFlattenToVector = false) := by
  simp only [descendsInto]
  cases n.canFlattenToVector <;> cases config.embedVectors <;> simp

theorem callsFor_iff (config : RunConfig) (n : AltNode) :
    config.callsFor n = true ↔
      ¬(n.canFlattenToVector = true ∧ config.embedVectors = true ∧
        n.embeddedVectorMarkup = none) := by
  simp only [callsFor]
  cases n.canFlattenToVector <;> cases config.embedVectors <;> cases n.embeddedVectorMarkup <;>
    simp

end RunConfig

/-- The ids of the nodes whose methods emission calls under `id`, at most `fuel` levels deep, in
the order of the calls: those under a node's children, in paint order, come before its own. -/
def callsFrom (tree : AltTree) (config : RunConfig) : Nat → Nat → List Nat
  | 0, _ => []
  | fuel + 1, id =>
      match tree.get? id with
      | none => []
      | some n =>
          (if config.descendsInto n then n.children.flatMap (callsFrom tree config fuel)
            else []) ++
          (if config.callsFor n then [n.id] else [])

theorem callsFrom_succ_of_get? {tree : AltTree} {config : RunConfig} {fuel id : Nat}
    {n : AltNode} (found : tree.get? id = some n) :
    callsFrom tree config (fuel + 1) id =
      (if config.descendsInto n then n.children.flatMap (callsFrom tree config fuel) else []) ++
        (if config.callsFor n then [n.id] else []) := by
  simp [callsFrom, found]

/-- Emission started at `id` comes to node `i`: down from `id` through nodes it goes on
below. -/
inductive ComesTo (tree : AltTree) (config : RunConfig) : Nat → Nat → Prop
  | start (i : Nat) : ComesTo tree config i i
  | down {id c i : Nat} (n : AltNode) : tree.get? id = some n → config.descendsInto n = true →
      c ∈ n.children → ComesTo tree config c i → ComesTo tree config id i

/-- Emission calls a target's method for node `i`: a node of the tree each of whose proper
ancestors is a container, none of them drawn as one vector when vectors are embedded, and which
is not itself drawn as one vector from markup the tool did not export. -/
def Dispatched (tree : AltTree) (config : RunConfig) (i : Nat) : Prop :=
  ∃ n, tree.get? i = some n ∧
    (∀ a m, tree.Reaches a i → a ≠ i → tree.get? a = some m →
      m.kind = .container ∧ (config.embedVectors = true → m.canFlattenToVector = false)) ∧
    ¬(n.canFlattenToVector = true ∧ config.embedVectors = true ∧ n.embeddedVectorMarkup = none)

section Paths

variable {tree : AltTree} {config : RunConfig}

/-- A call under `id` is for a node emission comes to from `id`. -/
theorem comesTo_of_mem_callsFrom :
    ∀ {fuel id i : Nat}, i ∈ callsFrom tree config fuel id →
      ∃ j n, ComesTo tree config id j ∧ tree.get? j = some n ∧ config.callsFor n = true ∧
        n.id = i
  | 0, _, _, mem => by simp [callsFrom] at mem
  | fuel + 1, id, i, mem => by
      cases found : tree.get? id with
      | none => simp [callsFrom, found] at mem
      | some n =>
          rw [callsFrom_succ_of_get? found] at mem
          rcases List.mem_append.1 mem with below | own
          · -- a call under one of the children emission goes down to
            split at below
            · rename_i descends
              obtain ⟨c, child, inChild⟩ := List.mem_flatMap.1 below
              obtain ⟨j, m, path, atJ, calls, named⟩ := comesTo_of_mem_callsFrom inChild
              exact ⟨j, m, .down n found descends child path, atJ, calls, named⟩
            · simp at below
          · split at own
            · exact ⟨id, n, .start id, found, ‹_›, (List.mem_singleton.1 own).symm⟩
            · simp at own

theorem ComesTo.reaches {id i : Nat} (path : ComesTo tree config id i) : tree.Reaches id i := by
  induction path with
  | start => exact Relation.ReflTransGen.refl
  | down n found _ child _ below => exact Relation.ReflTransGen.head ⟨n, found, child⟩ below

/-- A path of emission grows by a child of a node it goes on below. -/
theorem ComesTo.tail {id p c : Nat} {m : AltNode} (path : ComesTo tree config id p)
    (found : tree.get? p = some m) (descends : config.descendsInto m = true)
    (child : c ∈ m.children) : ComesTo tree config id c := by
  induction path with
  | start => exact .down m found descends child (.start c)
  | down n atId goesOn first _ below => exact .down n atId goesOn first (below found)

variable (wf : tree.WellFormed)
include wf

/-- With enough fuel, emission from `id` makes the call of every node it comes to and calls. -/
theorem mem_callsFrom_of_comesTo {id i : Nat} (path : ComesTo tree config id i) :
    ∀ {n : AltNode} {fuel : Nat}, tree.get? i = some n → config.callsFor n = true →
      i < fuel + id → n.id ∈ callsFrom tree config fuel id := by
  induction path with
  | start i =>
      intro n fuel found calls enough
      obtain ⟨fuel, rfl⟩ : ∃ f, fuel = f + 1 := Nat.exists_eq_succ_of_ne_zero (by omega)
      rw [callsFrom_succ_of_get? found, if_pos calls]
      exact List.mem_append_right _ (List.mem_singleton_self _)
  | @down id c i m found descends child rest below =>
      intro n fuel atI calls enough
      -- the child has a larger id, so one level of fuel less still reaches `i`
      have deeper : id < c := wf.lt_of_childOf ⟨m, found, child⟩
      have within : c ≤ i := wf.le_of_reaches rest.reaches
      obtain ⟨fuel, rfl⟩ : ∃ f, fuel = f + 1 := Nat.exists_eq_succ_of_ne_zero (by omega)
      rw [callsFrom_succ_of_get? found, if_pos descends]
      exact List.mem_append_left _
        (List.mem_flatMap.2 ⟨c, child, below atI calls (by omega)⟩)

/-- A node under a root that is an ancestor of the root is the root itself: roots have no
parent. -/
theorem eq_of_reaches_root {r a : Nat} (root : r ∈ tree.roots) (reach : tree.Reaches a r) :
    a = r := by
  by_contra ne
  obtain ⟨p, stepP, _⟩ := reaches_parent reach (Ne.symm ne)
  obtain ⟨m, atR, up⟩ := wf.parent_of_childOf stepP
  obtain ⟨n, atR', noParent⟩ := wf.rootLink r root
  rw [atR] at atR'
  cases atR'
  rw [up] at noParent
  cases noParent

/-- On a path of emission, emission goes on below every node strictly above its end. -/
theorem ComesTo.descendsInto_of_between {id i : Nat} (path : ComesTo tree config id i) :
    ∀ a m, tree.Reaches id a → tree.Reaches a i → a ≠ i → tree.get? a = some m →
      config.descendsInto m = true := by
  induction path with
  | start i =>
      intro a m above below ne _
      exact absurd (Nat.le_antisymm (wf.le_of_reaches below) (wf.le_of_reaches above)) ne
  | @down id c i n found descends child rest ih =>
      intro a m above below ne atA
      by_cases top : a = id
      · subst top
        rw [found] at atA
        cases atA
        exact descends
      -- otherwise `a` lies under the child: its subtree and the one under `a` share `i`
      apply ih a m _ below ne atA
      rcases wf.reaches_total i rest.reaches below with under | upper
      · exact under
      · by_cases same : c = a
        · rw [same]
          exact Relation.ReflTransGen.refl
        · obtain ⟨p, stepP, aboveP⟩ := reaches_parent upper same
          have := wf.childOf_unique stepP ⟨n, found, child⟩
          subst this
          exact absurd (Nat.le_antisymm (wf.le_of_reaches aboveP) (wf.le_of_reaches above)) top

/-- Emission from a root comes to `i` exactly when `i` lies under the root and emission goes on
below each proper ancestor of `i`. -/
theorem comesTo_root_iff {r i : Nat} (root : r ∈ tree.roots) :
    ComesTo tree config r i ↔ tree.Reaches r i ∧
      ∀ a m, tree.Reaches a i → a ≠ i → tree.get? a = some m → config.descendsInto m = true := by
  constructor
  · intro path
    refine ⟨path.reaches, fun a m below ne atA => ?_⟩
    -- every ancestor of `i` lies under the root above `i`
    have above : tree.Reaches r a := by
      rcases wf.reaches_total i path.reaches below with under | upper
      · exact under
      · rw [eq_of_reaches_root wf root upper]
        exact Relation.ReflTransGen.refl
    exact path.descendsInto_of_between wf a m above below ne atA
  · rintro ⟨reach, ancestors⟩
    induction reach with
    | refl => exact .start r
    | @tail p c _ step ih =>
        obtain ⟨m, atP, child⟩ := step
        have lower : p < c := wf.lt_of_childOf ⟨m, atP, child⟩
        -- the ancestors of the parent are ancestors of the child
        have path : ComesTo tree config r p := ih fun a m' below ne atA =>
          ancestors a m' (below.tail ⟨m, atP, child⟩)
            (fun same => by have := wf.le_of_reaches below; omega) atA
        exact path.tail atP (ancestors p m (.single ⟨m, atP, child⟩) (by omega) atP) child

/-- In a well-formed tree whose nodes all lie under its roots, the calls emission makes from
its roots are for exactly the nodes it dispatches. -/
theorem mem_callsFrom_roots_iff
    (covered : ∀ i n, tree.get? i = some n → ∃ r ∈ tree.roots, tree.Reaches r i) (i : Nat) :
    i ∈ tree.roots.flatMap (callsFrom tree config (tree.nodes.size + 1)) ↔
      Dispatched tree config i := by
  constructor
  · intro mem
    obtain ⟨r, root, call⟩ := List.mem_flatMap.1 mem
    obtain ⟨j, n, path, atJ, calls, named⟩ := comesTo_of_mem_callsFrom call
    have : j = i := (wf.slot j n atJ).symm.trans named
    subst this
    obtain ⟨_, ancestors⟩ := (comesTo_root_iff wf root).1 path
    exact ⟨n, atJ, fun a m below ne atA => (RunConfig.descendsInto_iff _ _).1
      (ancestors a m below ne atA), (RunConfig.callsFor_iff _ _).1 calls⟩
  · rintro ⟨n, found, ancestors, present⟩
    obtain ⟨r, root, reach⟩ := covered i n found
    have path : ComesTo tree config r i := (comesTo_root_iff wf root).2
      ⟨reach, fun a m below ne atA =>
        (RunConfig.descendsInto_iff _ _).2 (ancestors a m below ne atA)⟩
    have call : n.id ∈ callsFrom tree config (tree.nodes.size + 1) r :=
      mem_callsFrom_of_comesTo wf path found ((RunConfig.callsFor_iff _ _).2 present)
        (by have := lt_size_of_get? found; omega)
    rw [wf.slot i n found] at call
    exact List.mem_flatMap.2 ⟨r, root, call⟩

end Paths

/-! ### Recording the calls -/

theorem Emit.run_bind {α β : Type} (m : Emit α) (f : α → Emit β) (scene : Scene)
    (ds : Array Diagnostic) :
    ((m >>= f) scene).run ds = ((f ((m scene).run ds).1) scene).run ((m scene).run ds).2 :=
  rfl

/-- The record of a call of a target's method for a node. -/
def callRecord (node : AltNode) : Diagnostic := ⟨"call", .info, some node.id⟩

/-- Records a call of a target's method for a node. -/
def Emit.record (node : AltNode) : Emit Unit :=
  modify fun ds => ds.push (callRecord node)

/-- The target that records each call of one of its methods for a node, then makes it. The
layer-name method, which is pure, stays as it is: emission applies it only to a fragment that
another method has just made for the same node. -/
def Target.recorded (target : Target) : Target :=
  { target with
    text := fun node => do Emit.record node; target.text node
    vector := fun node markup => do Emit.record node; target.vector node markup
    shape := fun node => do Emit.record node; target.shape node
    container := fun node children => do Emit.record node; target.container node children }

/-- The nodes named by the records of calls among some diagnostics, in order. -/
def recordedCalls (ds : List Diagnostic) : List Nat :=
  ds.filterMap fun d => if d.severity = .info then d.node else none

@[simp] theorem recordedCalls_append (ds ds' : List Diagnostic) :
    recordedCalls (ds ++ ds') = recordedCalls ds ++ recordedCalls ds' :=
  List.filterMap_append

/-- Run in `scene` on any diagnostics so far, the step `m` appends diagnostics whose records of
calls name `calls`, in order. -/
structure Records {α : Type} (scene : Scene) (calls : List Nat) (m : Emit α) : Prop where
  appends : ∀ ds, ∃ new, ((m scene).run ds).2.toList = ds.toList ++ new ∧
    recordedCalls new = calls

namespace Records

variable {α β : Type} {scene : Scene}

theorem congr {c c' : List Nat} {m : Emit α} (records : Records scene c m) (same : c = c') :
    Records scene c' m :=
  same ▸ records

theorem pure (a : α) : Records scene [] (Pure.pure a : Emit α) :=
  ⟨fun ds => ⟨[], by rw [List.append_nil]; rfl, rfl⟩⟩

/-- A step, then steps that make the calls `c₂` after every result the first can give. -/
theorem bind_of {c₁ c₂ : List Nat} {m : Emit α} {f : α → Emit β} (gives : α → Prop)
    (first : Records scene c₁ m) (result : ∀ ds, gives ((m scene).run ds).1)
    (rest : ∀ a, gives a → Records scene c₂ (f a)) : Records scene (c₁ ++ c₂) (m >>= f) := by
  refine ⟨fun ds => ?_⟩
  obtain ⟨new₁, grown₁, calls₁⟩ := first.appends ds
  obtain ⟨new₂, grown₂, calls₂⟩ :=
    (rest ((m scene).run ds).1 (result ds)).appends ((m scene).run ds).2
  refine ⟨new₁ ++ new₂, ?_, by rw [recordedCalls_append, calls₁, calls₂]⟩
  show ((f ((m scene).run ds).1 scene).run ((m scene).run ds).2).2.toList = _
  rw [grown₂, grown₁, List.append_assoc]

theorem bind {c₁ c₂ : List Nat} {m : Emit α} {f : α → Emit β} (first : Records scene c₁ m)
    (rest : ∀ a, Records scene c₂ (f a)) : Records scene (c₁ ++ c₂) (m >>= f) :=
  bind_of (fun _ => True) first (fun _ => trivial) fun a _ => rest a

/-- A step followed by steps that make no call. -/
theorem bind_nil {c : List Nat} {m : Emit α} {f : α → Emit β} (first : Records scene c m)
    (rest : ∀ a, Records scene [] (f a)) : Records scene c (m >>= f) :=
  (bind first rest).congr (List.append_nil c)

theorem reads_bind {c : List Nat} {f : Scene → Emit β} (rest : Records scene c (f scene)) :
    Records scene c (read >>= f) :=
  ⟨fun ds => rest.appends ds⟩

/-- A step that only warns records no call. -/
theorem of_warnsOnly {ok : Nat → Prop} {m : Emit α} (warns : WarnsOnly scene ok m) :
    Records scene [] m := by
  refine ⟨fun ds => ?_⟩
  obtain ⟨new, grown, about⟩ := warns.appends ds
  refine ⟨new, grown, List.filterMap_eq_nil_iff.2 fun d mem => ?_⟩
  simp [(about d mem).1]

theorem record (node : AltNode) : Records scene [node.id] (Emit.record node) := by
  refine ⟨fun ds => ⟨[callRecord node], ?_, by simp [recordedCalls, callRecord]⟩⟩
  show (ds.push (callRecord node)).toList = _
  rw [Array.toList_push]

/-- A method of a recording target records one call, for its node. -/
theorem call {ok : Nat → Prop} (node : AltNode) {m : Emit α} (warns : WarnsOnly scene ok m) :
    Records scene [node.id] (do Emit.record node; m) :=
  (record node).bind_nil fun _ => of_warnsOnly warns

theorem filterMapM {xs : List α} {f : α → Emit (Option β)} {calls : α → List Nat}
    (each : ∀ x, Records scene (calls x) (f x)) :
    Records scene (xs.flatMap calls) (xs.filterMapM f) := by
  -- the loop behind `filterMapM`, from any list kept so far
  suffices loop : ∀ kept, Records scene (xs.flatMap calls) (List.filterMapM.loop f xs kept) from
    loop []
  induction xs with
  | nil => exact fun kept => pure _
  | cons x rest ih =>
      intro kept
      rw [List.flatMap_cons]
      refine bind (each x) fun found => ?_
      cases found with
      | none => exact ih kept
      | some y => exact ih (y :: kept)

/-- A loop whose every step records the calls of its element and goes on. -/
theorem forIn_yield {xs : List α} {init : β} {body : α → β → Emit (ForInStep β)}
    {calls : α → List Nat} (each : ∀ x b, Records scene (calls x) (body x b))
    (goesOn : ∀ x b ds, ∃ b', ((body x b scene).run ds).1 = .yield b') :
    Records scene (xs.flatMap calls) (ForIn.forIn xs init body) := by
  induction xs generalizing init with
  | nil => exact pure init
  | cons x rest ih =>
      rw [List.forIn_cons, List.flatMap_cons]
      refine bind_of (fun r => ∃ b', r = .yield b') (each x init) (goesOn x init) ?_
      rintro _ ⟨b', rfl⟩
      exact ih

end Records

/-! ### The calls of a run -/

/-- Emission through a recording target records, under `id`, the calls `callsFrom` lists. -/
theorem emitNode_records {target : Target} (warns : target.WarnsAbout) (scene : Scene) :
    ∀ fuel id, Records scene (callsFrom scene.tree scene.config fuel id)
      (emitNode target.recorded fuel id)
  | 0, _ => Records.pure _
  | fuel + 1, id => by
      rw [emitNode]
      refine Records.reads_bind ?_
      cases found : scene.tree.get? id with
      | none => exact (Records.pure _).congr (by simp [callsFrom, found])
      | some n =>
          rw [callsFrom_succ_of_get? found]
          dsimp only
          -- naming the layer is pure: it makes no call
          have layer : ∀ f : Fragment, Records scene []
              (if (scene.config.showLayerNames && !f.isEmpty) = true then
                Pure.pure (target.recorded.withLayerName n f) else Pure.pure f) := fun f => by
            split <;> exact Records.pure _
          by_cases flat : (n.canFlattenToVector && scene.config.embedVectors) = true
          · -- drawn as one vector: one call, unless the markup is missing
            have stops : scene.config.descendsInto n = false := by
              simp [RunConfig.descendsInto, flat]
            rw [if_pos flat]
            cases exported : n.embeddedVectorMarkup with
            | none =>
                have skipped : scene.config.callsFor n = false := by
                  simp [RunConfig.callsFor, flat, exported]
                simp only [stops, skipped, Bool.false_eq_true, ↓reduceIte, List.append_nil]
                exact (Records.pure _).bind_nil layer
            | some markup =>
                have called : scene.config.callsFor n = true := by
                  simp [RunConfig.callsFor, flat, exported]
                simp only [stops, called, Bool.false_eq_true, ↓reduceIte, List.nil_append]
                exact (Records.call n (warns.vector scene (fun _ => True) n markup trivial)).bind_nil
                  layer
          · have called : scene.config.callsFor n = true := by simp [RunConfig.callsFor, flat]
            rw [if_neg flat]
            cases kind : n.kind
            case container =>
              -- the children's calls, in paint order, then the container's own
              have descends : scene.config.descendsInto n = true := by
                simp [RunConfig.descendsInto, kind, flat]
              simp only [descends, called, ↓reduceIte]
              exact (Records.filterMapM fun child =>
                (emitNode_records warns scene fuel child).bind_nil fun _ => Records.pure _).bind
                fun children => (Records.call n
                  (warns.container scene (fun _ => True) n children trivial)).bind_nil layer
            case text =>
              have stops : scene.config.descendsInto n = false := by
                simp [RunConfig.descendsInto, kind]
              simp only [stops, called, Bool.false_eq_true, ↓reduceIte, List.nil_append]
              exact (Records.call n (warns.text scene (fun _ => True) n trivial)).bind_nil layer
            all_goals
              have stops : scene.config.descendsInto n = false := by
                simp [RunConfig.descendsInto, kind]
              simp only [stops, called, Bool.false_eq_true, ↓reduceIte, List.nil_append]
              exact (Records.call n (warns.shape scene (fun _ => True) n trivial)).bind_nil layer

/-- A filtering map over a list whose step for each member only warns about accepted nodes. -/
theorem WarnsOnly.filterMapM_of_mem {α β : Type} {scene : Scene} {ok : Nat → Prop} {xs : List α}
    {f : α → Emit (Option β)} (each : ∀ x ∈ xs, WarnsOnly scene ok (f x)) :
    WarnsOnly scene ok (xs.filterMapM f) := by
  -- the loop behind `filterMapM`, over any part of the list and from any list kept so far
  suffices loop : ∀ ys, ys ⊆ xs → ∀ kept, WarnsOnly scene ok (List.filterMapM.loop f ys kept) from
    loop xs (List.Subset.refl xs) []
  intro ys
  induction ys with
  | nil => exact fun _ kept => WarnsOnly.pure _
  | cons y rest ih =>
      intro within kept
      have later : rest ⊆ xs := fun z mem => within (List.mem_cons_of_mem y mem)
      refine WarnsOnly.bind (each y (within List.mem_cons_self)) fun found => ?_
      cases found with
      | none => exact ih later kept
      | some b => exact ih later (b :: kept)

/-- Every warning of emission under `id` is about a node whose method it calls there. -/
theorem emitNode_warnsOnly {target : Target} (warns : target.WarnsAbout) (scene : Scene) :
    ∀ fuel id, WarnsOnly scene (· ∈ callsFrom scene.tree scene.config fuel id)
      (emitNode target fuel id)
  | 0, _ => WarnsOnly.pure _
  | fuel + 1, id => by
      rw [emitNode]
      refine WarnsOnly.reads_bind ?_
      cases found : scene.tree.get? id with
      | none => exact WarnsOnly.pure _
      | some n =>
          rw [callsFrom_succ_of_get? found]
          dsimp only
          have layer : ∀ (ok : Nat → Prop) (f : Fragment), WarnsOnly scene ok
              (if (scene.config.showLayerNames && !f.isEmpty) = true then
                Pure.pure (target.withLayerName n f) else Pure.pure f) := fun ok f => by
            split <;> exact WarnsOnly.pure _
          -- the node's own call is among the calls under it
          have own : scene.config.callsFor n = true →
              n.id ∈ (if scene.config.descendsInto n = true then
                n.children.flatMap (callsFrom scene.tree scene.config fuel) else []) ++
                (if scene.config.callsFor n = true then [n.id] else []) := fun called => by
            rw [if_pos called]
            exact List.mem_append_right _ (List.mem_singleton_self _)
          by_cases flat : (n.canFlattenToVector && scene.config.embedVectors) = true
          · rw [if_pos flat]
            cases exported : n.embeddedVectorMarkup with
            | none => exact (WarnsOnly.pure _).bind (layer _)
            | some markup =>
                have called : scene.config.callsFor n = true := by
                  simp [RunConfig.callsFor, flat, exported]
                exact (warns.vector scene _ n markup (own called)).bind (layer _)
          · have called : scene.config.callsFor n = true := by simp [RunConfig.callsFor, flat]
            rw [if_neg flat]
            cases kind : n.kind
            case container =>
              have descends : scene.config.descendsInto n = true := by
                simp [RunConfig.descendsInto, kind, flat]
              refine (WarnsOnly.filterMapM_of_mem fun child child_mem =>
                ((emitNode_warnsOnly warns scene fuel child).mono fun i below => ?_).bind
                  fun _ => WarnsOnly.pure _).bind
                fun children => (warns.container scene _ n children (own called)).bind (layer _)
              -- a call under a child is a call under the node
              rw [if_pos descends]
              exact List.mem_append_left _ (List.mem_flatMap.2 ⟨child, child_mem, below⟩)
            case text => exact (warns.text scene _ n (own called)).bind (layer _)
            all_goals exact (warns.shape scene _ n (own called)).bind (layer _)

/-- Emission through a recording target records the calls under every root, root after root. -/
theorem emitRoots_records {target : Target} (warns : target.WarnsAbout) (scene : Scene) :
    Records scene
      (scene.tree.roots.flatMap (callsFrom scene.tree scene.config (scene.tree.nodes.size + 1)))
      (emitRoots target.recorded) := by
  unfold emitRoots
  refine Records.reads_bind ?_
  refine (Records.forIn_yield (fun root bodies =>
    (emitNode_records warns scene _ root).bind_nil fun f => ?_) fun root bodies ds => ?_).bind_nil
    fun _ => Records.pure _
  · split <;> exact Records.pure _
  · -- whatever the root gives, the loop goes on
    rw [Emit.run_bind]
    dsimp only
    split <;> exact ⟨_, rfl⟩

/-- A loop over a list whose step for each member only warns about accepted nodes. -/
theorem WarnsOnly.forIn_of_mem {α β : Type} {scene : Scene} {ok : Nat → Prop} {xs : List α}
    {init : β} {body : α → β → Emit (ForInStep β)}
    (each : ∀ x ∈ xs, ∀ b, WarnsOnly scene ok (body x b)) :
    WarnsOnly scene ok (ForIn.forIn xs init body) := by
  suffices loop : ∀ ys, ys ⊆ xs → ∀ init, WarnsOnly scene ok (ForIn.forIn ys init body) from
    loop xs (List.Subset.refl xs) init
  intro ys
  induction ys with
  | nil => exact fun _ init => WarnsOnly.pure init
  | cons y rest ih =>
      intro within init
      rw [List.forIn_cons]
      refine WarnsOnly.bind (each y (within List.mem_cons_self) init) fun step => ?_
      cases step with
      | done b => exact WarnsOnly.pure b
      | yield b => exact ih (fun z mem => within (List.mem_cons_of_mem y mem)) b

/-- Every warning of emission is about a node whose method it calls under some root. -/
theorem emitRoots_warnsOnly {target : Target} (warns : target.WarnsAbout) (scene : Scene) :
    WarnsOnly scene
      (· ∈ scene.tree.roots.flatMap (callsFrom scene.tree scene.config (scene.tree.nodes.size + 1)))
      (emitRoots target) := by
  unfold emitRoots
  refine WarnsOnly.reads_bind ((WarnsOnly.forIn_of_mem fun root root_mem bodies =>
    ((emitNode_warnsOnly warns scene _ root).mono fun i call =>
      List.mem_flatMap.2 ⟨root, root_mem, call⟩).bind fun f => ?_).bind fun _ => WarnsOnly.pure _)
  split <;> exact WarnsOnly.pure _

/-! ### Emission of a well-formed tree -/

/-- The warnings of emission are those its roots raise, from none. -/
theorem emitTree_warnings (target : Target) (scene : Scene) :
    (emitTree target scene).2 = ((emitRoots target scene).run #[]).2.toList := by
  unfold emitTree
  split
  rename_i run
  rw [run]

section WellFormed

variable {target : Target} (warns : target.WarnsAbout) (scene : Scene)
  (wf : scene.tree.WellFormed)
  (covered : ∀ i n, scene.tree.get? i = some n → ∃ r ∈ scene.tree.roots, scene.tree.Reaches r i)
include warns wf covered

/-- Emission through a recording target records a call for exactly the nodes it dispatches. -/
theorem mem_recordedCalls_iff (i : Nat) :
    i ∈ recordedCalls ((emitRoots target.recorded scene).run #[]).2.toList ↔
      Dispatched scene.tree scene.config i := by
  obtain ⟨new, grown, calls⟩ := (emitRoots_records warns scene).appends #[]
  rw [grown, Array.toList_empty, List.nil_append, calls]
  exact mem_callsFrom_roots_iff wf covered i

/-- Every diagnostic of emission is a warning about a node it dispatches. -/
theorem emitTree_warnings_dispatched :
    ∀ d ∈ (emitTree target scene).2, d.severity = .warning ∧
      ∃ i, d.node = some i ∧ Dispatched scene.tree scene.config i := by
  obtain ⟨new, grown, about⟩ := (emitRoots_warnsOnly warns scene).appends #[]
  rw [emitTree_warnings, grown, Array.toList_empty, List.nil_append]
  intro d mem
  obtain ⟨warning, i, named, call⟩ := about d mem
  exact ⟨warning, i, named, (mem_callsFrom_roots_iff wf covered i).1 call⟩

end WellFormed

end Handoff
