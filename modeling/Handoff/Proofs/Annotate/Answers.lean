/-
Module: Handoff.Proofs.Annotate.Answers
Purpose: What annotating one subtree of a selection's tree and writing the answers in does. The
  tree normalisation builds holds no answer yet: no paint is bound and no markup embedded. The
  answers are written node by node: every paint under the root takes the binding its variable's
  answer gives (the variable's name, with the paint's own colour as the fallback), the vector
  roots under the root take the markup the tool exports for them, and nothing else changes. The
  table the paints are bound from answers each variable of the subtree as the tool does, although
  the tool was asked once per variable, at its first use. Each failed question is reported once.
Main exports: AltNode.Unanswered, normalizeRoots_unanswered, get?_applyAnnotations,
  variableAnswer, PaintEntry.resolvedBinding, PaintEntry.answered, Paint.answered,
  lookupFailures, exportFailures, bindPaints_annotateSubtree, lookup_vectors_annotateSubtree,
  subtree_annotation_exact.
-/
import Handoff.Proofs.Annotate.Questions
import Handoff.Proofs.Normalize.Placement
import Handoff.Proofs.Conversion

namespace Handoff

open AltTree

/-! ### A normalised tree holds no answer -/

/-- A node holds no answer of the design tool yet: no paint is bound to a variable and no
markup is embedded. -/
structure AltNode.Unanswered (n : AltNode) : Prop where
  unbound : ∀ e ∈ n.paint.entries, e.binding = none
  noMarkup : n.embeddedVectorMarkup = none

/-- Paints that are bound to no variable yet. -/
def Unbound (es : List PaintEntry) : Prop := ∀ e ∈ es, e.binding = none

theorem convertPaint_unbound (raw : RawPaint) (node : Nat) :
    Unbound (convertPaint raw node).1.toList := by
  intro e mem
  unfold convertPaint at mem
  -- every kind the paint converts to is stored unbound
  (repeat' split at mem) <;> simp_all

theorem convertPaints_unbound (node : Nat) :
    ∀ raws : List RawPaint, Unbound (convertPaints node raws).1
  | [] => by simp [convertPaints, Unbound]
  | p :: rest => by
      have first := convertPaint_unbound p node
      have others := convertPaints_unbound node rest
      simp only [convertPaints, Unbound, List.mem_append] at first others ⊢
      rintro e (here | later)
      · exact first e here
      · exact others e later

theorem firstPaint_unbound (node : Nat) :
    ∀ raws : List RawPaint, Unbound (firstPaint node raws).1.toList
  | [] => by simp [firstPaint, Unbound]
  | p :: rest => by
      have first := convertPaint_unbound p node
      unfold firstPaint
      split
      · rename_i e ds found
        simpa [found] using first
      · exact firstPaint_unbound node rest

theorem fillIndex_unbound {fills : List PaintEntry} {entry : PaintEntry} (unbound : Unbound fills)
    (new : entry.binding = none) : Unbound (fillIndex fills entry).2 := by
  unfold fillIndex
  split
  · exact unbound
  · intro e mem
    rcases List.mem_append.1 mem with old | added
    · exact unbound e old
    · exact (List.mem_singleton.1 added) ▸ new

theorem segmentRun_unbound (raw : NodeAttrs) (segment : RawTextSegment) {fills : List PaintEntry}
    (id : Nat) (unbound : Unbound fills) : Unbound (segmentRun raw segment fills id).2.1 := by
  have first := firstPaint_unbound id segment.fills
  unfold segmentRun
  dsimp only
  split
  · rename_i entry found
    exact fillIndex_unbound unbound (first entry (by simp [found]))
  · split <;> exact unbound

theorem segmentRuns_unbound (raw : NodeAttrs) (id : Nat) :
    ∀ (segments : List RawTextSegment) (fills : List PaintEntry), Unbound fills →
      Unbound (segmentRuns raw id segments fills).2.1
  | [], _, unbound => unbound
  | s :: rest, _, unbound =>
      segmentRuns_unbound raw id rest _ (segmentRun_unbound raw s id unbound)

theorem buildText_unbound (raw : NodeAttrs) {fills : List PaintEntry} (id : Nat)
    (unbound : Unbound fills) : Unbound (buildText raw fills id).2.1 := by
  unfold buildText
  dsimp only
  split
  · exact unbound
  · have grown := segmentRuns_unbound raw id raw.segments fills unbound
    split
    · exact grown
    · exact fun e mem => grown e (List.mem_of_mem_take mem)

theorem describeNode_fills (raw : NodeAttrs) (parent : Option ParentContext)
    (absorbed : Float) (id : Nat) (u : String) :
    (describeNode raw parent absorbed id u).1.paint.fills =
      if (describeNode raw parent absorbed id u).1.kind == .text then
        (buildText raw (convertPaints id raw.fills).1 id).2.1
      else (convertPaints id raw.fills).1 := by
  unfold describeNode
  -- whichever kind the node maps to, its fills are those of the text it holds, if any
  split
  all_goals
    simp only
    split <;> rfl

theorem describeNode_unanswered (raw : NodeAttrs) (parent : Option ParentContext)
    (absorbed : Float) (id : Nat) (u : String) :
    (describeNode raw parent absorbed id u).1.Unanswered := by
  have fills := convertPaints_unbound id raw.fills
  have strokes := convertPaints_unbound id raw.strokes
  refine ⟨fun e mem => ?_, rfl⟩
  rcases List.mem_append.1 mem with fill | stroke
  · rw [describeNode_fills] at fill
    split at fill
    · exact buildText_unbound raw id fills e fill
    · exact fills e fill
  · exact strokes e stroke

theorem placedNode_unanswered (t : AltTree) (parent : Option ParentContext) (absorbed : Float)
    (k : Nat) (a : NodeAttrs) (children : List Nat) (u : String) :
    (placedNode t parent absorbed k a children u).Unanswered :=
  have described := describeNode_unanswered a parent absorbed k u
  ⟨described.unbound, described.noMarkup⟩

theorem Visited.normal {roots : List DesignNode} {s : NormState}
    (visited : Visited none 0.0 roots NormState.start s) : s.tree.Normal :=
  ⟨visited.wellFormed, visited.preorder⟩

/-- The tree of a selection is normal and holds no answer of the tool yet. -/
theorem normalizeRoots_unanswered (roots : List DesignNode) :
    ∃ tree diagnostics, normalizeRoots roots false = .ok (tree, diagnostics) ∧ tree.Normal ∧
      ∀ i n, tree.get? i = some n → n.Unanswered := by
  obtain ⟨tree, diagnostics, run, ids, placed, _⟩ := normalizeRoots_placed roots
  obtain ⟨s, run', visited⟩ := normalizeRoots_spec roots
  have same : tree = s.tree := by
    rw [run] at run'
    cases run'
    rfl
  refine ⟨tree, diagnostics, run, same ▸ visited.normal, fun i n found => ?_⟩
  -- the node at `i` is the one its placement describes
  obtain ⟨p, atI, _⟩ := placement_of_get? ids found
  obtain ⟨mem, pid⟩ := placement_of_getElem? ids atI
  obtain ⟨children, u, atP⟩ := placed p mem
  rw [pid, found, Option.some.injEq] at atP
  exact atP ▸ placedNode_unanswered _ _ _ _ _ _ _

/-- Marking what can be drawn as one vector writes no answer in. -/
theorem classifyVectors_unanswered {tree : AltTree}
    (unanswered : ∀ i n, tree.get? i = some n → n.Unanswered) (iconSize : Float) :
    ∀ i n, (classifyVectors tree iconSize).get? i = some n → n.Unanswered := by
  intro i n found
  -- marking keeps the paints and the markup, which is all being unanswered reads
  have kept := classifyVectors_view (fun n : AltNode => (n.paint, n.embeddedVectorMarkup))
    (fun _ _ => rfl) tree iconSize i
  rw [found, Option.map_some] at kept
  obtain ⟨m, atI, same⟩ := Option.map_eq_some_iff.1 kept.symm
  obtain ⟨paint, markup⟩ := Prod.mk.inj same
  exact ⟨paint ▸ (unanswered i m atI).unbound, markup ▸ (unanswered i m atI).noMarkup⟩

/-! ### Writing one subtree's answers -/

theorem bindPaint_nil : bindPaint [] = id := by
  funext e
  unfold bindPaint
  cases e.variableRef <;> rfl

theorem bindPaints_nil : AltNode.bindPaints [] = id := by
  funext n
  simp [AltNode.bindPaints, bindPaint_nil]

/-- Binding paints under a root changes the nodes of the walk from it, and no other. -/
theorem get?_bindUnder (t : AltTree) (r : Nat) (table : List (String × ResolvedVariable))
    (distinct : (t.preorder r).Nodup) (i : Nat) :
    (if table.isEmpty then t
      else (t.preorder r).foldl (fun t id => t.modify id (AltNode.bindPaints table)) t).get? i =
      if i ∈ t.preorder r then (t.get? i).map (AltNode.bindPaints table) else t.get? i := by
  by_cases empty : table.isEmpty
  · -- with no variable resolved, binding changes nothing
    rw [List.isEmpty_iff.1 empty]
    simp [bindPaints_nil]
  rw [if_neg empty]
  by_cases under : i ∈ t.preorder r
  · rw [if_pos under]
    exact get?_foldl_modify_of_mem (fun id => id) (fun _ => AltNode.bindPaints table) _
      (by simpa using distinct) t i under
  · rw [if_neg under]
    exact get?_foldl_modify_of_not_mem (fun id => id) (fun _ => AltNode.bindPaints table) _ t
      fun j mem same => under (same ▸ mem)

/-! ### The answers written into a subtree -/

/-- The tool's answer for a variable as annotation asks it: the resolved variable, when
variables are used and the lookup succeeds. -/
def variableAnswer (host : DesignHost Id) (config : RunConfig) (v : String) :
    Option ResolvedVariable :=
  if config.useVariables then (host.resolveVariable v).run.toOption else none

/-- The binding a paint takes from the answers: its variable's name, with the paint's own
colour (opacity folded in) as the fallback, or the variable's value for gradients and images. -/
def PaintEntry.resolvedBinding (answer : String → Option ResolvedVariable) (e : PaintEntry) :
    Option VariableBinding :=
  (e.variableRef.bind answer).map fun resolved =>
    ⟨resolved.name, (e.solidColor.getD resolved.value).toHex⟩

/-- A paint once the tool has answered: rebound when its variable resolved, as it was
otherwise. -/
def PaintEntry.answered (answer : String → Option ResolvedVariable) (e : PaintEntry) :
    PaintEntry :=
  { e with binding := (e.resolvedBinding answer).or e.binding }

/-- Fills and strokes once the tool has answered. -/
def Paint.answered (answer : String → Option ResolvedVariable) (p : Paint) : Paint :=
  ⟨p.fills.map (PaintEntry.answered answer), p.strokes.map (PaintEntry.answered answer)⟩

/-- Binding from a table answers each variable as the table does. -/
theorem bindPaint_eq_answered (table : List (String × ResolvedVariable)) :
    bindPaint table = PaintEntry.answered (lookupKey · table) := by
  funext e
  unfold bindPaint PaintEntry.answered PaintEntry.resolvedBinding
  cases e.variableRef.bind (lookupKey · table) <;> simp

/-- A paint's answer depends only on the answer for its own variable. -/
theorem answered_congr {f g : String → Option ResolvedVariable} {e : PaintEntry}
    (agree : ∀ v, e.variableRef = some v → f v = g v) : e.answered f = e.answered g := by
  unfold PaintEntry.answered PaintEntry.resolvedBinding
  cases ref : e.variableRef with
  | none => rfl
  | some v => simp [agree v ref]

theorem lookupKey_cons {α : Type} (v k : String) (x : α) (rest : List (String × α)) :
    lookupKey v ((k, x) :: rest) = if k = v then some x else lookupKey v rest := by
  by_cases same : k = v <;> simp [lookupKey, same]

/-- A table of the keys that have an answer, each with it, answers each of its keys. -/
theorem lookupKey_filterMap {α : Type} (f : String → Option α) (v : String) :
    ∀ keys : List String,
      lookupKey v (keys.filterMap fun k => (f k).map (k, ·)) = if v ∈ keys then f v else none
  | [] => rfl
  | k :: rest => by
      have later := lookupKey_filterMap f v rest
      by_cases same : k = v
      · subst same
        cases found : f k with
        | none =>
            simp only [List.filterMap_cons, found, Option.map_none, later]
            split <;> simp
        | some x => simp [found, lookupKey_cons]
      · cases found : f k with
        | none => simp [found, later, Ne.symm same]
        | some x => simp [found, lookupKey_cons, same, later, Ne.symm same]

/-- The ids of the pairs kept from a list, each under the id it had, are some of the ids of the
list, in order. -/
theorem map_fst_filterMap_sublist {κ α β : Type} (f : κ × α → Option (κ × β))
    (keeps : ∀ q y, f q = some y → y.1 = q.1) :
    ∀ xs : List (κ × α), ((xs.filterMap f).map Prod.fst).Sublist (xs.map Prod.fst)
  | [] => List.Sublist.slnil
  | q :: rest => by
      have later := map_fst_filterMap_sublist f keeps rest
      cases found : f q with
      | none => simpa [List.filterMap_cons, found] using later.cons q.1
      | some y => simpa [List.filterMap_cons, found, keeps q y found] using later.cons_cons q.1

/-- In a table with one entry per id, an entry is what looking its id up finds. -/
theorem mem_iff_lookup {β : Type} {table : List (Nat × β)}
    (distinct : (table.map Prod.fst).Nodup) (k : Nat) (x : β) :
    (k, x) ∈ table ↔ table.lookup k = some x := by
  induction table with
  | nil => simp
  | cons entry rest ih =>
      obtain ⟨k', y⟩ := entry
      rw [List.map_cons, List.nodup_cons] at distinct
      by_cases same : k = k'
      · subst same
        have absent : ∀ z, (k, z) ∉ rest := fun z mem =>
          distinct.1 (List.mem_map.2 ⟨_, mem, rfl⟩)
        simp [absent, eq_comm]
      · have differ : (k == k') = false := beq_false_of_ne same
        simp [List.lookup_cons, same, differ, ih distinct.2]

/-- Writing a subtree's answers binds the paints of the nodes under the root, writes each
exported markup into its node, and changes nothing else. -/
theorem get?_applyAnnotations {t : AltTree} {r : Nat} {a : Annotations}
    (distinct : (t.preorder r).Nodup) (distinctVectors : (a.vectors.map Prod.fst).Nodup)
    (i : Nat) :
    (applyAnnotations t r a).1.get? i =
      (if i ∈ t.preorder r then (t.get? i).map (AltNode.bindPaints a.resolved) else t.get? i).map
        fun n =>
          { n with embeddedVectorMarkup := (a.vectors.lookup i).or n.embeddedVectorMarkup } := by
  rw [← get?_bindUnder t r a.resolved distinct i]
  have exported := mem_iff_lookup distinctVectors i
  cases found : a.vectors.lookup i with
  | none =>
      -- no markup for `i`: the markup writes leave it as binding left it
      have away : ∀ v ∈ a.vectors, v.1 ≠ i := fun v mem same => by
        have listed := (exported v.2).1 (same ▸ mem)
        rw [found] at listed
        cases listed
      simp only [Option.none_or]
      exact (get?_foldl_modify_of_not_mem Prod.fst
        (fun v n => { n with embeddedVectorMarkup := some v.2 }) a.vectors _ away).trans
        (by simp)
  | some m =>
      exact get?_foldl_modify_of_mem Prod.fst
        (fun v n => { n with embeddedVectorMarkup := some v.2 }) a.vectors distinctVectors _ (i, m)
        ((exported m).2 found)

section Subtree

variable (t : AltTree) (r : Nat) (host : DesignHost Id) (config : RunConfig)

/-- The lookups that failed, each with the first node of the walk using the variable. -/
def lookupFailures : List (String × Nat × HostError) :=
  (variableLookups t r config).filterMap fun q =>
    match (host.resolveVariable q.1).run with
    | .ok _ => none
    | .error e => some (q.1, q.2, e)

/-- The exports that failed, each with its node. -/
def exportFailures : List (Nat × AltNode × HostError) :=
  (markupExports t r config).filterMap fun q =>
    match (host.exportVectorMarkup q.2.sourceId).run with
    | .ok _ => none
    | .error e => some (q.1, q.2, e)

/-- The variables that resolved, by id. -/
theorem resolved_annotateSubtree :
    (annotateSubtree t r host config).run.resolved =
      (keysOf (variableLookups t r config)).filterMap fun v =>
        ((host.resolveVariable v).run.toOption).map (v, ·) := by
  rw [annotateSubtree_answers]
  simp only [collectAnswers, List.filterMap_map, keysOf]
  refine List.filterMap_congr fun q _ => ?_
  simp only [Function.comp_apply]
  cases (host.resolveVariable q.1).run <;> rfl

/-- The markup that was exported, by node. -/
theorem vectors_annotateSubtree :
    (annotateSubtree t r host config).run.vectors =
      (markupExports t r config).filterMap fun q =>
        ((host.exportVectorMarkup q.2.sourceId).run.toOption).map (q.1, ·) := by
  rw [annotateSubtree_answers]
  simp only [collectAnswers, List.filterMap_map]
  refine List.filterMap_congr fun q _ => ?_
  simp only [Function.comp_apply]
  cases (host.exportVectorMarkup q.2.sourceId).run <;> rfl

/-- The failures, lookups first. -/
theorem diagnostics_annotateSubtree :
    (annotateSubtree t r host config).run.diagnostics =
      (lookupFailures t r host config).map (fun f => unresolvedWarning f.1 f.2.1 f.2.2) ++
        (exportFailures t r host config).map fun f => exportFailedWarning f.1 f.2.1 f.2.2 := by
  rw [annotateSubtree_answers]
  simp only [collectAnswers, lookupFailures, exportFailures, List.filterMap_map, List.map_filterMap]
  congr 1
  · refine List.filterMap_congr fun q _ => ?_
    simp only [Function.comp_apply]
    cases (host.resolveVariable q.1).run <;> rfl
  · refine List.filterMap_congr fun q _ => ?_
    simp only [Function.comp_apply]
    cases (host.exportVectorMarkup q.2.sourceId).run <;> rfl

variable {t r}

/-- The table answers each variable bound in the walk as the tool does. -/
theorem lookupKey_resolved {v : String} (bound : v ∈ keysOf (variableRefs t (t.preorder r))) :
    lookupKey v (annotateSubtree t r host config).run.resolved = variableAnswer host config v := by
  rw [resolved_annotateSubtree, lookupKey_filterMap, variableAnswer]
  unfold variableLookups
  cases config.useVariables <;> simp [bound]

/-- Binding a node of the walk from the table answers each of its paints as the tool does. -/
theorem bindPaints_annotateSubtree {i : Nat} {n : AltNode} (under : i ∈ t.preorder r)
    (found : t.get? i = some n) :
    n.bindPaints (annotateSubtree t r host config).run.resolved =
      { n with paint := n.paint.answered (variableAnswer host config) } := by
  -- every variable the node's paints name is bound in the walk
  have agree : ∀ e ∈ n.paint.entries,
      e.answered (lookupKey · (annotateSubtree t r host config).run.resolved) =
        e.answered (variableAnswer host config) := by
    intro e mem
    refine answered_congr fun v ref => lookupKey_resolved host config ?_
    rw [mem_keysOf_variableRefs]
    refine ⟨i, under, ?_⟩
    rw [variableIdsAt_of_get? found]
    exact List.mem_filterMap.2 ⟨e, mem, ref⟩
  have fills := List.map_congr_left fun e mem => agree e (List.mem_append_left n.paint.strokes mem)
  have strokes := List.map_congr_left fun e mem => agree e (List.mem_append_right n.paint.fills mem)
  simp only [AltNode.bindPaints, Paint.answered, bindPaint_eq_answered, fills, strokes]

/-- The exported markup is the tool's answer for the nodes to export. -/
theorem mem_vectors_annotateSubtree (i : Nat) (m : String) :
    (i, m) ∈ (annotateSubtree t r host config).run.vectors ↔
      ∃ n, (i, n) ∈ markupExports t r config ∧
        (host.exportVectorMarkup n.sourceId).run = .ok m := by
  rw [vectors_annotateSubtree, List.mem_filterMap]
  constructor
  · rintro ⟨⟨j, n⟩, listed, answered⟩
    cases exported : (host.exportVectorMarkup n.sourceId).run with
    | error e => simp [exported, Except.toOption] at answered
    | ok m' =>
        simp only [exported, Except.toOption, Option.map_some, Option.some.injEq,
          Prod.mk.injEq] at answered
        obtain ⟨rfl, rfl⟩ := answered
        exact ⟨n, listed, exported⟩
  · rintro ⟨n, listed, exported⟩
    exact ⟨(i, n), listed, by simp [exported, Except.toOption]⟩

/-- The nodes to export under a root of a normal tree are its vector roots. -/
theorem mem_markupExports {t : AltTree} (normal : t.Normal) (root : r ∈ t.roots) (i : Nat)
    (n : AltNode) :
    (i, n) ∈ markupExports t r config ↔
      config.embedVectors = true ∧ t.Reaches r i ∧ t.ExportRoot i ∧ t.get? i = some n := by
  unfold markupExports
  by_cases embed : config.embedVectors = true
  · rw [if_pos embed, mem_exportTargets_iff, mem_vectorRoots_iff, normal.mem_preorder_iff root]
    simp [embed, and_assoc]
  · simp [embed]

/-- Each node has one exported markup at most. -/
theorem nodup_vectors_annotateSubtree (distinct : (t.preorder r).Nodup) :
    ((annotateSubtree t r host config).run.vectors.map Prod.fst).Nodup := by
  rw [vectors_annotateSubtree]
  refine (map_fst_filterMap_sublist _ (fun q y found => ?_) _).nodup ?_
  · obtain ⟨m, _, rfl⟩ := Option.map_eq_some_iff.1 found
    rfl
  · exact (sublist_markupExports t r config).nodup distinct

/-- A lookup fails exactly for the variables of the walk the tool cannot resolve, at their first
node. -/
theorem mem_lookupFailures (v : String) (i : Nat) (e : HostError) :
    (v, i, e) ∈ lookupFailures t r host config ↔
      config.useVariables = true ∧ (host.resolveVariable v).run = .error e ∧
        (t.preorder r).find? (fun j => v ∈ t.variableIdsAt j) = some i := by
  unfold lookupFailures variableLookups
  cases config.useVariables with
  | false => simp
  | true =>
      rw [List.mem_filterMap]
      constructor
      · rintro ⟨⟨v', i'⟩, listed, failed⟩
        cases answer : (host.resolveVariable v').run <;> simp only [answer] at failed
        · cases failed
          exact ⟨rfl, answer, (mem_variableRefs_iff t _ v i).1 listed⟩
        · cases failed
      · rintro ⟨-, failed, first⟩
        exact ⟨(v, i), (mem_variableRefs_iff t _ v i).2 first, by simp [failed]⟩

/-- Each variable fails once at most. -/
theorem nodup_lookupFailures : (keysOf (lookupFailures t r host config)).Nodup := by
  refine (map_fst_filterMap_sublist _ (fun q y found => ?_) _).nodup ?_
  · cases answer : (host.resolveVariable q.1).run <;> simp only [answer] at found
    · cases found
      rfl
    · cases found
  · exact nodup_variableLookups t r config

/-- An export fails exactly for the vector roots under the root whose markup the tool cannot
give. -/
theorem mem_exportFailures {t : AltTree} (normal : t.Normal) (root : r ∈ t.roots) (i : Nat)
    (n : AltNode) (e : HostError) :
    (i, n, e) ∈ exportFailures t r host config ↔
      config.embedVectors = true ∧ t.Reaches r i ∧ t.ExportRoot i ∧ t.get? i = some n ∧
        (host.exportVectorMarkup n.sourceId).run = .error e := by
  unfold exportFailures
  rw [List.mem_filterMap]
  constructor
  · rintro ⟨⟨i', n'⟩, listed, failed⟩
    cases answer : (host.exportVectorMarkup n'.sourceId).run <;> simp only [answer] at failed
    · cases failed
      obtain ⟨embed, under, exportRoot, found⟩ :=
        (mem_markupExports config normal root i n).1 listed
      exact ⟨embed, under, exportRoot, found, answer⟩
    · cases failed
  · rintro ⟨embed, under, exportRoot, found, failed⟩
    exact ⟨(i, n),
      (mem_markupExports config normal root i n).2 ⟨embed, under, exportRoot, found⟩,
      by simp [failed]⟩

/-- The variables of the table of first uses are those bound under the root, when variables are
used. -/
theorem mem_keysOf_variableLookups {t : AltTree} (normal : t.Normal) (root : r ∈ t.roots)
    (v : String) :
    v ∈ keysOf (variableLookups t r config) ↔ config.useVariables = true ∧
      ∃ i n, t.Reaches r i ∧ t.get? i = some n ∧ v ∈ n.variableIds := by
  unfold variableLookups
  by_cases use : config.useVariables = true
  · rw [if_pos use, mem_keysOf_variableRefs]
    simp only [use, true_and, normal.mem_preorder_iff root]
    constructor
    · rintro ⟨i, under, bound⟩
      cases found : t.get? i with
      | none => simp [variableIdsAt, found] at bound
      | some n => exact ⟨i, n, under, found, (variableIdsAt_of_get? found) ▸ bound⟩
    · rintro ⟨i, n, under, found, bound⟩
      exact ⟨i, under, (variableIdsAt_of_get? found).symm ▸ bound⟩
  · simp [use]

/-- The markup written for a node is the tool's export of it, when it is a vector root under
the root and vectors are embedded. -/
theorem lookup_vectors_annotateSubtree {t : AltTree} (normal : t.Normal) (root : r ∈ t.roots)
    {i : Nat} {n : AltNode} (found : t.get? i = some n) (m : String) :
    (annotateSubtree t r host config).run.vectors.lookup i = some m ↔
      config.embedVectors = true ∧ t.Reaches r i ∧ t.ExportRoot i ∧
        (host.exportVectorMarkup n.sourceId).run = .ok m := by
  rw [← mem_iff_lookup (nodup_vectors_annotateSubtree host config (normal.nodup_preorder root)),
    mem_vectors_annotateSubtree]
  constructor
  · rintro ⟨n', listed, exported⟩
    obtain ⟨embed, under, exportRoot, found'⟩ :=
      (mem_markupExports config normal root i n').1 listed
    rw [found, Option.some.injEq] at found'
    exact ⟨embed, under, exportRoot, found' ▸ exported⟩
  · rintro ⟨embed, under, exportRoot, exported⟩
    exact ⟨n, (mem_markupExports config normal root i n).2 ⟨embed, under, exportRoot, found⟩,
      exported⟩

end Subtree

/-! ### Annotating one subtree -/

/-- Annotating the subtree under a root of a selection's tree, then writing the answers in: each
variable bound in the subtree is looked up once, and none is when variables are not used; every
paint of the subtree takes the binding its variable's answer gives, with the paint's own colour
as the fallback, and the node keeps every other field; exactly the vector roots of the subtree
whose export succeeds hold markup, the markup exported; each variable that fails to resolve is
reported once, at the first node of the walk using it, and each failed export once, at its
node; and no node outside the subtree changes. -/
theorem subtree_annotation_exact (roots : List DesignNode) :
    ∃ tree diagnostics, normalizeRoots roots false = .ok (tree, diagnostics) ∧
      ∀ (iconSize : Float) (host : DesignHost Id) (config : RunConfig), ∀ r ∈ tree.roots,
        let t := classifyVectors tree iconSize
        let answers := (annotateSubtree t r host config).run
        let lookups :=
          (((annotateSubtree t r host.logged config).run []).run.2).filterMap HostCall.variable?
        (lookups.Nodup ∧ ∀ v, v ∈ lookups ↔ config.useVariables = true ∧
          ∃ i n, t.Reaches r i ∧ t.get? i = some n ∧ v ∈ n.variableIds) ∧
        (∀ i n, t.get? i = some n → n.Unanswered ∧
          ∃ n', (applyAnnotations t r answers).1.get? i = some n' ∧
            (¬ t.Reaches r i → n' = n) ∧
            (t.Reaches r i →
              n' = { n with
                paint := n.paint.answered (variableAnswer host config)
                embeddedVectorMarkup := n'.embeddedVectorMarkup } ∧
              ∀ m, n'.embeddedVectorMarkup = some m ↔ config.embedVectors = true ∧
                t.ExportRoot i ∧ (host.exportVectorMarkup n.sourceId).run = .ok m)) ∧
        ∃ (failures : List (String × Nat × HostError))
          (exportFails : List (Nat × AltNode × HostError)),
          (keysOf failures).Nodup ∧
          (∀ v i e, (v, i, e) ∈ failures ↔ config.useVariables = true ∧
            (host.resolveVariable v).run = .error e ∧
            (t.preorder r).find? (fun j => v ∈ t.variableIdsAt j) = some i) ∧
          (∀ i n e, (i, n, e) ∈ exportFails ↔ config.embedVectors = true ∧ t.Reaches r i ∧
            t.ExportRoot i ∧ t.get? i = some n ∧
            (host.exportVectorMarkup n.sourceId).run = .error e) ∧
          (applyAnnotations t r answers).2 =
            failures.map (fun f => unresolvedWarning f.1 f.2.1 f.2.2) ++
              exportFails.map fun f => exportFailedWarning f.1 f.2.1 f.2.2 := by
  obtain ⟨tree, diagnostics, run, normal, unanswered⟩ := normalizeRoots_unanswered roots
  refine ⟨tree, diagnostics, run, fun iconSize host config r root => ?_⟩
  intro t answers lookups
  -- marking vectors keeps the tree normal and free of answers
  have normal' : t.Normal := normal.of_sameSkeleton (classifyVectors_sameSkeleton tree iconSize)
  have root' : r ∈ t.roots := by
    rw [(classifyVectors_sameSkeleton tree iconSize).roots_eq]
    exact root
  have unanswered' := classifyVectors_unanswered unanswered iconSize
  have distinct := normal'.nodup_preorder root'
  have asked : lookups = keysOf (variableLookups t r config) := by
    simp only [lookups, calls_annotateSubtree, variables_hostCalls]
  refine ⟨⟨?_, fun v => asked ▸ mem_keysOf_variableLookups config normal' root' v⟩,
    fun i n found => ⟨unanswered' i n found, ?_⟩,
    lookupFailures t r host config, exportFailures t r host config,
    nodup_lookupFailures host config, mem_lookupFailures host config,
    mem_exportFailures host config normal' root', diagnostics_annotateSubtree t r host config⟩
  · exact asked ▸ nodup_variableLookups t r config
  · have markup := lookup_vectors_annotateSubtree host config normal' root' found
    rw [get?_applyAnnotations distinct (nodup_vectors_annotateSubtree host config distinct) i]
    by_cases under : t.Reaches r i
    · -- a node of the subtree: its paints answered, its markup the export's
      rw [if_pos ((normal'.mem_preorder_iff root' i).2 under), found, Option.map_some,
        Option.map_some, bindPaints_annotateSubtree host config
          ((normal'.mem_preorder_iff root' i).2 under) found]
      refine ⟨_, rfl, fun away => absurd under away, fun _ => ⟨rfl, fun m => ?_⟩⟩
      rw [(unanswered' i n found).noMarkup, Option.or_none, markup m]
      simp [under]
    · -- any other node: no markup is written for it
      have none : answers.vectors.lookup i = none := by
        cases listed : answers.vectors.lookup i with
        | none => rfl
        | some m => exact absurd ((markup m).1 listed).2.1 under
      rw [if_neg (mt (normal'.mem_preorder_iff root' i).1 under), found, Option.map_some, none,
        Option.none_or]
      exact ⟨_, rfl, fun _ => rfl, fun h => absurd h under⟩

/-! ### The nodes whose markup is asked for -/

/-- Annotating the subtree under a root of a selection's tree asks for the markup of each node of
the subtree that is marked flattenable and whose parent is not, once, in the order of the walk,
and of no other node: a flattenable node below one that is not is asked for even when a
flattenable node above holds it, since only the parent's mark is read. -/
theorem exported_vector_roots (roots : List DesignNode) :
    ∃ tree diagnostics, normalizeRoots roots false = .ok (tree, diagnostics) ∧
      ∀ (iconSize : Float) (host : DesignHost Id) (config : RunConfig), ∀ r ∈ tree.roots,
        let t := classifyVectors tree iconSize
        let exportCalls :=
          (((annotateSubtree t r host.logged config).run []).run.2).filterMap HostCall.export?
        ∃ exported : List Nat, exported.Nodup ∧ exported.Sublist (t.preorder r) ∧
          (∀ i, i ∈ exported ↔
            config.embedVectors = true ∧ t.Reaches r i ∧ t.ExportRoot i) ∧
          exportCalls = exported.filterMap fun i => (t.get? i).map AltNode.sourceId := by
  obtain ⟨tree, diagnostics, run, normal, -⟩ := normalizeRoots_unanswered roots
  refine ⟨tree, diagnostics, run, fun iconSize host config r root => ?_⟩
  intro t exportCalls
  have normal' : t.Normal := normal.of_sameSkeleton (classifyVectors_sameSkeleton tree iconSize)
  have root' : r ∈ t.roots := by
    rw [(classifyVectors_sameSkeleton tree iconSize).roots_eq]
    exact root
  have found : ∀ q ∈ markupExports t r config, t.get? q.1 = some q.2 := fun q mem =>
    ((mem_markupExports config normal' root' q.1 q.2).1 mem).2.2.2
  have inWalk := sublist_markupExports t r config
  refine ⟨(markupExports t r config).map Prod.fst, inWalk.nodup (normal'.nodup_preorder root'),
    inWalk, fun i => ?_, ?_⟩
  · rw [List.mem_map]
    constructor
    · rintro ⟨⟨i', n⟩, listed, rfl⟩
      obtain ⟨embed, under, exportRoot, -⟩ :=
        (mem_markupExports config normal' root' _ n).1 listed
      exact ⟨embed, under, exportRoot⟩
    · rintro ⟨embed, under, exportRoot⟩
      obtain ⟨n, atI, -⟩ := id exportRoot
      exact ⟨(i, n),
        (mem_markupExports config normal' root' i n).2 ⟨embed, under, exportRoot, atI⟩, rfl⟩
  · simp only [exportCalls, calls_annotateSubtree, exports_hostCalls, List.filterMap_map]
    rw [← List.filterMap_eq_map]
    exact List.filterMap_congr fun q mem => by simp [found q mem]

end Handoff
