/-
Module: Handoff.Proofs.Annotate.Questions
Purpose: The questions annotation puts to the design tool about the subtree under a root. A
  question is observed by running annotation with a tool that logs each call before answering
  it (`DesignHost.logged`): the log is the variable lookups, then the markup exports, and the
  answers are those of the tool itself. A variable is looked up once for every id the walk
  binds, with the first node of the walk binding it (fills before strokes), and not at all
  when variables are not used. Markup is asked for the nodes of the walk that are marked
  flattenable and whose parent is not, in the order of the walk.
Main exports: AltNode.variableIds, AltTree.variableIdsAt, mem_variableRefs_iff,
  nodup_variableRefs, mem_keysOf_variableRefs, AltTree.ExportRoot, mem_vectorRoots_iff,
  HostCall, DesignHost.logged, variableLookups, markupExports, hostCalls, variables_hostCalls,
  exports_hostCalls, annotateSubtree_answers, annotateSubtree_logged, calls_annotateSubtree,
  annotateSubtree_stateful.
-/
import Handoff.Annotation
import Handoff.Proofs.Tree.Subtree

namespace Handoff

open AltTree

/-! ### Tables of first uses -/

/-- The keys of a table. -/
abbrev keysOf {α : Type} (table : List (String × α)) : List String := table.map Prod.fst

/-- Looking a key up by `any` is membership among the keys. -/
theorem any_key_eq {α : Type} (key : String) (table : List (String × α)) :
    table.any (fun e => e.1 == key) = decide (key ∈ keysOf table) := by
  induction table with
  | nil => rfl
  | cons e rest ih =>
    simp only [List.any_cons, ih, List.map_cons, List.mem_cons]
    by_cases h : e.1 = key
    · simp [h]
    · have differ : (e.1 == key) = false := beq_false_of_ne h
      simp [differ, Ne.symm h]

/-- Adding a key keeps what was there, and adds the pair exactly when the key was absent. -/
theorem mem_insertFirst {α : Type} {key : String} {value : α} {table : List (String × α)}
    {p : String × α} :
    p ∈ insertFirst key value table ↔
      p ∈ table ∨ (key ∉ keysOf table ∧ p = (key, value)) := by
  unfold insertFirst
  rw [any_key_eq]
  by_cases present : key ∈ keysOf table <;> simp [present]

theorem keysOf_insertFirst {α : Type} (key : String) (value : α) (table : List (String × α)) :
    keysOf (insertFirst key value table) =
      if key ∈ keysOf table then keysOf table else keysOf table ++ [key] := by
  unfold insertFirst
  rw [any_key_eq]
  by_cases present : key ∈ keysOf table <;> simp [present]

theorem nodup_keysOf_insertFirst {α : Type} (key : String) (value : α)
    {table : List (String × α)} (distinct : (keysOf table).Nodup) :
    (keysOf (insertFirst key value table)).Nodup := by
  rw [keysOf_insertFirst]
  split
  · exact distinct
  · rename_i absent
    exact distinct.append (List.nodup_singleton key) (List.disjoint_singleton.2 absent)

theorem mem_keysOf_iff {α : Type} {table : List (String × α)} {key : String} :
    key ∈ keysOf table ↔ ∃ x, (key, x) ∈ table := by
  simp [keysOf]

/-! ### The variables a walk binds -/

/-- The variable ids a node's paints are bound to, fills first. -/
def AltNode.variableIds (n : AltNode) : List String :=
  n.paint.entries.filterMap PaintEntry.variableRef

/-- The variable ids the node at `id` binds, none when there is no node. -/
def AltTree.variableIdsAt (t : AltTree) (id : Nat) : List String :=
  match t.get? id with
  | some n => n.variableIds
  | none => []

theorem variableIdsAt_of_get? {t : AltTree} {id : Nat} {n : AltNode} (found : t.get? id = some n) :
    t.variableIdsAt id = n.variableIds := by
  simp [variableIdsAt, found]

/-- One node's paints added to a table of first uses: each id not yet there comes in with the
node. -/
def addUses (j : Nat) (entries : List PaintEntry) (refs : List (String × Nat)) :
    List (String × Nat) :=
  entries.foldl (fun refs entry =>
    match entry.variableRef with
    | some v => insertFirst v j refs
    | none => refs) refs

theorem addUses_spec (j : Nat) :
    ∀ (entries : List PaintEntry) (refs : List (String × Nat)), (keysOf refs).Nodup →
      (keysOf (addUses j entries refs)).Nodup ∧
      ∀ p, p ∈ addUses j entries refs ↔
        p ∈ refs ∨
          (p.1 ∉ keysOf refs ∧ p.2 = j ∧ p.1 ∈ entries.filterMap PaintEntry.variableRef)
  | [], refs, distinct => by simp [addUses, distinct]
  | e :: rest, refs, distinct => by
      -- one entry, then the rest from the table it leaves
      cases bound : e.variableRef with
      | none =>
          have step := addUses_spec j rest refs distinct
          simpa [addUses, List.foldl_cons, bound] using step
      | some v =>
          have grown := nodup_keysOf_insertFirst v j distinct
          obtain ⟨distinct', mem⟩ := addUses_spec j rest (insertFirst v j refs) grown
          refine ⟨by simpa [addUses, List.foldl_cons, bound] using distinct', fun p => ?_⟩
          simp only [addUses, List.foldl_cons, bound] at mem ⊢
          rw [mem p, mem_insertFirst, keysOf_insertFirst]
          obtain ⟨k, x⟩ := p
          by_cases old : v ∈ keysOf refs <;> by_cases same : k = v <;>
            simp [old, same, bound]

section Refs

variable (t : AltTree)

/-- One step of the walk that builds the table of first uses. -/
def useStep (refs : List (String × Nat)) (id : Nat) : List (String × Nat) :=
  match t.get? id with
  | some node => addUses id node.paint.entries refs
  | none => refs

theorem variableRefs_eq_foldl (order : List Nat) :
    variableRefs t order = order.foldl (useStep t) [] := rfl

/-- A step keeps the keys distinct and adds each id the node binds that was not there. -/
theorem useStep_spec (refs : List (String × Nat)) (distinct : (keysOf refs).Nodup) (j : Nat) :
    (keysOf (useStep t refs j)).Nodup ∧
      ∀ p, p ∈ useStep t refs j ↔
        p ∈ refs ∨ (p.1 ∉ keysOf refs ∧ p.2 = j ∧ p.1 ∈ t.variableIdsAt j) := by
  unfold useStep AltTree.variableIdsAt
  cases t.get? j with
  | none => simp [distinct]
  | some n => exact addUses_spec j n.paint.entries refs distinct

theorem useStep_keys (refs : List (String × Nat)) (distinct : (keysOf refs).Nodup) (j : Nat)
    (key : String) :
    key ∈ keysOf (useStep t refs j) ↔ key ∈ keysOf refs ∨ key ∈ t.variableIdsAt j := by
  simp only [mem_keysOf_iff, (useStep_spec t refs distinct j).2]
  by_cases old : ∃ x, (key, x) ∈ refs
  · simp [old]
  · simp only [old, false_or]
    grind

/-- The walk from a table of first uses: an id ends with the first node of the walk binding it,
unless the table had it already. -/
theorem foldl_useStep_spec :
    ∀ (order : List Nat) (refs : List (String × Nat)), (keysOf refs).Nodup →
      (keysOf (order.foldl (useStep t) refs)).Nodup ∧
      ∀ p, p ∈ order.foldl (useStep t) refs ↔
        p ∈ refs ∨
          (p.1 ∉ keysOf refs ∧ order.find? (fun id => p.1 ∈ t.variableIdsAt id) = some p.2)
  | [], refs, distinct => by simp [distinct]
  | j :: rest, refs, distinct => by
      -- the step at `j`, then the rest of the walk from the table it leaves
      obtain ⟨distinct', step⟩ := useStep_spec t refs distinct j
      obtain ⟨distinct'', run⟩ := foldl_useStep_spec rest _ distinct'
      refine ⟨distinct'', fun p => ?_⟩
      rw [List.foldl_cons, run p, step p, useStep_keys t refs distinct j, List.find?_cons]
      by_cases here : p.1 ∈ t.variableIdsAt j
      · simp [here, eq_comm]
      · simp [here]

/-- The table of a walk pairs each id its nodes bind with the first node binding it. -/
theorem mem_variableRefs_iff (order : List Nat) (v : String) (i : Nat) :
    (v, i) ∈ variableRefs t order ↔
      order.find? (fun id => v ∈ t.variableIdsAt id) = some i := by
  rw [variableRefs_eq_foldl, (foldl_useStep_spec t order [] List.nodup_nil).2]
  simp

/-- The table of a walk has each id once. -/
theorem nodup_variableRefs (order : List Nat) : (keysOf (variableRefs t order)).Nodup :=
  (foldl_useStep_spec t order [] List.nodup_nil).1

/-- The ids in the table of a walk are those its nodes bind. -/
theorem mem_keysOf_variableRefs (order : List Nat) (v : String) :
    v ∈ keysOf (variableRefs t order) ↔ ∃ i ∈ order, v ∈ t.variableIdsAt i := by
  rw [mem_keysOf_iff]
  simp only [mem_variableRefs_iff]
  constructor
  · rintro ⟨i, first⟩
    exact ⟨i, List.mem_of_find?_eq_some first, by simpa using List.find?_some first⟩
  · rintro ⟨i, listed, bound⟩
    exact Option.isSome_iff_exists.1 (List.find?_isSome.2 ⟨i, listed, by simpa using bound⟩)

end Refs

/-! ### The nodes whose markup is asked for -/

/-- Node `i` is marked flattenable and its parent, if any, is not: annotation asks for its
markup. -/
def AltTree.ExportRoot (t : AltTree) (i : Nat) : Prop :=
  ∃ n, t.get? i = some n ∧ n.canFlattenToVector = true ∧
    ∀ p, t.parentOf i = some p → p.canFlattenToVector = false

theorem mem_vectorRoots_iff (t : AltTree) (order : List Nat) (i : Nat) :
    i ∈ vectorRoots t order ↔ i ∈ order ∧ t.ExportRoot i := by
  unfold vectorRoots AltTree.ExportRoot
  rw [List.mem_filter]
  refine and_congr_right fun _ => ?_
  cases t.get? i with
  | none => simp
  | some n =>
      cases t.parentOf i with
      | none => simp
      | some p => cases p.canFlattenToVector <;> simp

/-- The nodes to export, with their ids, are the nodes of the vector roots. -/
theorem mem_exportTargets_iff (t : AltTree) (order : List Nat) (i : Nat) (n : AltNode) :
    (i, n) ∈ exportTargets t order ↔ i ∈ vectorRoots t order ∧ t.get? i = some n := by
  simp [exportTargets, Option.map_eq_some_iff]

theorem map_fst_exportTargets (t : AltTree) (order : List Nat) :
    (exportTargets t order).map Prod.fst = vectorRoots t order := by
  unfold exportTargets
  rw [List.map_filterMap]
  -- every vector root has a node, so the filter drops none
  refine Eq.trans (List.filterMap_congr fun i mem => ?_) List.filterMap_some
  obtain ⟨_, n, found, _⟩ := (mem_vectorRoots_iff t order i).1 mem
  simp [found]

/-! ### Observing the questions -/

/-- A question put to the design tool. -/
inductive HostCall where
  | resolveVariable (id : String)
  | exportVectorMarkup (sourceId : String)
  deriving DecidableEq

/-- The variable a question looks up, if it is a lookup. -/
def HostCall.variable? : HostCall → Option String
  | .resolveVariable id => some id
  | .exportVectorMarkup _ => none

/-- The node a question asks the markup of, if it is an export. -/
def HostCall.export? : HostCall → Option String
  | .resolveVariable _ => none
  | .exportVectorMarkup sourceId => some sourceId

/-- The tool `host`, logging each question before answering it as `host` does. -/
def DesignHost.logged (host : DesignHost Id) : DesignHost (StateM (List HostCall)) where
  resolveVariable id := do
    modify (· ++ [.resolveVariable id])
    return (host.resolveVariable id).run
  exportVectorMarkup sourceId := do
    modify (· ++ [.exportVectorMarkup sourceId])
    return (host.exportVectorMarkup sourceId).run

/-- The variable lookups annotation makes under `root`: each id bound in the subtree, with the
first node of the walk binding it, when variables are used. -/
def variableLookups (t : AltTree) (root : Nat) (config : RunConfig) : List (String × Nat) :=
  if config.useVariables then variableRefs t (t.preorder root) else []

/-- The nodes whose markup annotation asks for under `root`, when vectors are embedded. -/
def markupExports (t : AltTree) (root : Nat) (config : RunConfig) : List (Nat × AltNode) :=
  if config.embedVectors then exportTargets t (t.preorder root) else []

/-- Each variable is looked up once at most. -/
theorem nodup_variableLookups (t : AltTree) (root : Nat) (config : RunConfig) :
    (keysOf (variableLookups t root config)).Nodup := by
  unfold variableLookups
  split
  · exact nodup_variableRefs t _
  · exact List.nodup_nil

/-- The nodes whose markup is asked for are the vector roots of the walk. -/
theorem map_fst_markupExports (t : AltTree) (root : Nat) (config : RunConfig) :
    (markupExports t root config).map Prod.fst =
      if config.embedVectors then vectorRoots t (t.preorder root) else [] := by
  unfold markupExports
  split
  · exact map_fst_exportTargets t _
  · rfl

/-- The nodes whose markup is asked for come in the order of the walk. -/
theorem sublist_markupExports (t : AltTree) (root : Nat) (config : RunConfig) :
    ((markupExports t root config).map Prod.fst).Sublist (t.preorder root) := by
  rw [map_fst_markupExports]
  split
  · exact List.filter_sublist
  · exact List.nil_sublist _

/-- The questions annotation puts about the subtree under `root`, in order. -/
def hostCalls (t : AltTree) (root : Nat) (config : RunConfig) : List HostCall :=
  (variableLookups t root config).map (fun q => .resolveVariable q.1) ++
    (markupExports t root config).map fun q => .exportVectorMarkup q.2.sourceId

/-- The lookups among the questions are the variables of the table of first uses. -/
theorem variables_hostCalls (t : AltTree) (root : Nat) (config : RunConfig) :
    (hostCalls t root config).filterMap HostCall.variable? =
      keysOf (variableLookups t root config) := by
  simp [hostCalls, List.filterMap_append, List.filterMap_map, Function.comp_def,
    HostCall.variable?, keysOf]

/-- The exports among the questions name the nodes to export, in order. -/
theorem exports_hostCalls (t : AltTree) (root : Nat) (config : RunConfig) :
    (hostCalls t root config).filterMap HostCall.export? =
      (markupExports t root config).map fun q => q.2.sourceId := by
  simp [hostCalls, List.filterMap_append, List.filterMap_map, Function.comp_def,
    HostCall.export?]

/-- A traversal whose every step logs one question and answers without looking at the log logs
the questions in order. -/
theorem mapM_logging {α β : Type} (f : α → StateM (List HostCall) β) (answer : α → β)
    (call : α → HostCall) (logs : ∀ x log, (f x).run log = pure (answer x, log ++ [call x])) :
    ∀ (xs : List α) (log : List HostCall),
      (xs.mapM f).run log = pure (xs.map answer, log ++ xs.map call)
  | [], log => by simp
  | x :: xs, log => by
      simp [List.mapM_cons, logs x log, mapM_logging f answer call logs xs]

variable (t : AltTree) (root : Nat) (host : DesignHost Id) (config : RunConfig)

/-- Annotation gathers the tool's answers to its questions. -/
theorem annotateSubtree_answers :
    Id.run (annotateSubtree t root host config) =
      collectAnswers
        ((variableLookups t root config).map fun q => (q.1, q.2, (host.resolveVariable q.1).run))
        ((markupExports t root config).map fun q =>
          (q.1, q.2, (host.exportVectorMarkup q.2.sourceId).run)) := by
  unfold annotateSubtree variableLookups markupExports
  cases config.useVariables <;> cases config.embedVectors <;> simp [List.idRun_mapM]

/-- Annotation with a tool that logs its questions answers as the tool does, and logs exactly
the lookups, then the exports. -/
theorem annotateSubtree_logged (log : List HostCall) :
    (annotateSubtree t root host.logged config).run log =
      pure ((annotateSubtree t root host config).run, log ++ hostCalls t root config) := by
  rw [annotateSubtree_answers]
  have lookups := mapM_logging
    (fun (q : String × Nat) => (fun a => (q.1, q.2, a)) <$> host.logged.resolveVariable q.1)
    (fun q => (q.1, q.2, (host.resolveVariable q.1).run)) (fun q => .resolveVariable q.1)
    (fun q log => by simp [DesignHost.logged])
  have exports := mapM_logging
    (fun (q : Nat × AltNode) =>
      (fun a => (q.1, q.2, a)) <$> host.logged.exportVectorMarkup q.2.sourceId)
    (fun q => (q.1, q.2, (host.exportVectorMarkup q.2.sourceId).run))
    (fun q => .exportVectorMarkup q.2.sourceId)
    (fun q log => by simp [DesignHost.logged])
  unfold annotateSubtree hostCalls variableLookups markupExports
  cases config.useVariables <;> cases config.embedVectors <;> simp [lookups, exports]

/-- A traversal in a state whose every step answers without looking at the state gives the
answers, however the state evolves. -/
theorem mapM_answers {σ α β : Type} (f : α → StateM σ β) (answer : α → β)
    (answers : ∀ x s, ((f x).run s).run.1 = answer x) :
    ∀ (xs : List α) (s : σ), ((xs.mapM f).run s).run.1 = xs.map answer
  | [], s => rfl
  | x :: xs, s => by
      simp [List.mapM_cons, answers, mapM_answers f answer answers xs]

/-- Annotation with a tool that keeps a state of its own, answering each question as `host`
does whatever that state is, gives the annotations `host` gives. -/
theorem annotateSubtree_stateful {σ : Type} (h : DesignHost (StateM σ))
    (lookups : ∀ v s, ((h.resolveVariable v).run s).run.1 = (host.resolveVariable v).run)
    (exports : ∀ id s, ((h.exportVectorMarkup id).run s).run.1 = (host.exportVectorMarkup id).run)
    (s : σ) :
    ((annotateSubtree t root h config).run s).run.1 = (annotateSubtree t root host config).run := by
  rw [annotateSubtree_answers]
  have asked := mapM_answers
    (fun (q : String × Nat) => (fun a => (q.1, q.2, a)) <$> h.resolveVariable q.1)
    (fun q => (q.1, q.2, (host.resolveVariable q.1).run)) (fun q s => by simp [lookups])
  have exported := mapM_answers
    (fun (q : Nat × AltNode) => (fun a => (q.1, q.2, a)) <$> h.exportVectorMarkup q.2.sourceId)
    (fun q => (q.1, q.2, (host.exportVectorMarkup q.2.sourceId).run)) (fun q s => by simp [exports])
  unfold annotateSubtree variableLookups markupExports
  cases config.useVariables <;> cases config.embedVectors <;> simp [asked, exported]

/-- The questions annotation puts under `root`, observed with a logging tool. -/
theorem calls_annotateSubtree :
    ((annotateSubtree t root host.logged config).run []).run.2 = hostCalls t root config := by
  rw [annotateSubtree_logged]
  simp

end Handoff
