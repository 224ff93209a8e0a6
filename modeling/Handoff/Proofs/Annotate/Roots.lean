/-
Module: Handoff.Proofs.Annotate.Roots
Purpose: Annotating the roots of a selection's tree in any order. The answers of each root are
  asked of the tree before any is written, and write only the nodes of that root's subtree;
  subtrees of distinct roots share no node, so the written tree does not depend on the order of
  the roots. Every failure is about a node of its root's subtree, so the failures about one node
  all come from one root, in the order that root gave them; sorting by node is stable, so the
  sorted failures do not depend on the order either.
Main exports: keyed_sortByNode, sortByNode_eq_of_keyed, writeAnswers_eq, rootUpdate,
  get?_foldl_roots, node_diagnostics_annotateSubtree, rootAnswers_order_independent.
-/
import Handoff.Proofs.Annotate.Answers

namespace Handoff

open AltTree

/-! ### Sorting by node -/

section Sorting

/-- The warnings about one sort key. -/
abbrev keyed (k : Int) (ds : List Diagnostic) : List Diagnostic := ds.filter fun d => d.key = k

theorem key_le_trans (a b c : Diagnostic) :
    decide (a.key ≤ b.key) = true → decide (b.key ≤ c.key) = true →
      decide (a.key ≤ c.key) = true := by
  simp only [decide_eq_true_eq]
  exact Int.le_trans

theorem key_le_total (a b : Diagnostic) :
    (decide (a.key ≤ b.key) || decide (b.key ≤ a.key)) = true := by
  simp only [Bool.or_eq_true, decide_eq_true_eq]
  exact Int.le_total _ _

/-- Sorting puts the warnings in the order of their keys. -/
theorem sorted_sortByNode (ds : List Diagnostic) :
    (sortByNode ds).Pairwise fun a b => a.key ≤ b.key :=
  (List.pairwise_mergeSort key_le_trans key_le_total ds).imp of_decide_eq_true

/-- Sorting keeps the warnings about each key in the order they were given. -/
theorem keyed_sortByNode (k : Int) (ds : List Diagnostic) :
    keyed k (sortByNode ds) = keyed k ds := by
  -- the warnings about `k` tie with each other, so the stable sort keeps them as a sublist
  have tied : (keyed k ds).Pairwise fun a b => decide (a.key ≤ b.key) = true := by
    refine List.pairwise_of_forall_mem_list fun a mem b mem' => ?_
    simp only [keyed, List.mem_filter, decide_eq_true_eq] at mem mem'
    simp [mem.2, mem'.2]
  have kept : (keyed k ds).Sublist (sortByNode ds) :=
    List.sublist_mergeSort key_le_trans key_le_total tied List.filter_sublist
  have kept' : (keyed k ds).Sublist (keyed k (sortByNode ds)) := by
    simpa [keyed, List.filter_filter] using kept.filter (fun d => decide (d.key = k))
  have perm : (keyed k (sortByNode ds)).Perm (keyed k ds) :=
    (List.mergeSort_perm ds _).filter _
  exact (kept'.eq_of_length perm.length_eq.symm).symm

/-- Two lists sorted by key that hold the same warnings about each key, in the same order, are
the same. -/
theorem eq_of_sorted_of_keyed :
    ∀ {ds ds' : List Diagnostic}, ds.Pairwise (fun a b => a.key ≤ b.key) →
      ds'.Pairwise (fun a b => a.key ≤ b.key) → (∀ k, keyed k ds = keyed k ds') → ds = ds'
  | [], [], _, _, _ => rfl
  | [], b :: _, _, _, same => by simpa using (same b.key).symm
  | a :: _, [], _, _, same => by simpa using same a.key
  | a :: rest, b :: rest', sorted, sorted', same => by
      rw [List.pairwise_cons] at sorted sorted'
      -- each head holds the least key, and the keys present are the same
      have present : ∀ c, c ∈ a :: rest → c.key ∈ (b :: rest').map Diagnostic.key := by
        intro c mem
        have : c ∈ keyed c.key (a :: rest) := List.mem_filter.2 ⟨mem, by simp⟩
        rw [same] at this
        exact List.mem_map_of_mem (List.mem_filter.1 this).1
      have present' : ∀ c, c ∈ b :: rest' → c.key ∈ (a :: rest).map Diagnostic.key := by
        intro c mem
        have : c ∈ keyed c.key (b :: rest') := List.mem_filter.2 ⟨mem, by simp⟩
        rw [← same] at this
        exact List.mem_map_of_mem (List.mem_filter.1 this).1
      have le : a.key ≤ b.key := by
        obtain ⟨c, mem, key⟩ := List.mem_map.1 (present' b List.mem_cons_self)
        rcases List.mem_cons.1 mem with rfl | later
        · exact key.le
        · exact key ▸ sorted.1 c later
      have ge : b.key ≤ a.key := by
        obtain ⟨c, mem, key⟩ := List.mem_map.1 (present a List.mem_cons_self)
        rcases List.mem_cons.1 mem with rfl | later
        · exact key.le
        · exact key ▸ sorted'.1 c later
      have heads := same a.key
      simp only [keyed, List.filter_cons, decide_true, if_true,
        show b.key = a.key from Int.le_antisymm ge le] at heads
      obtain ⟨rfl, -⟩ := List.cons.inj heads
      -- the heads agree, and so do the warnings of the tails about each key
      refine congrArg (a :: ·) (eq_of_sorted_of_keyed sorted.2 sorted'.2 fun k => ?_)
      have tails := same k
      by_cases here : a.key = k <;> simpa [keyed, List.filter_cons, here] using tails

/-- Sorting by node gives the same list for two lists with the same warnings about each key, in
the same order. -/
theorem sortByNode_eq_of_keyed {ds ds' : List Diagnostic} (same : ∀ k, keyed k ds = keyed k ds') :
    sortByNode ds = sortByNode ds' :=
  eq_of_sorted_of_keyed (sorted_sortByNode ds) (sorted_sortByNode ds') fun k => by
    rw [keyed_sortByNode, keyed_sortByNode, same]

end Sorting

/-! ### Blocks of warnings in any order -/

/-- Blocks of which at most one is non-empty read the same in any order. -/
theorem flatMap_perm_eq {α β : Type} {xs ys : List α} (perm : xs.Perm ys)
    (block : α → List β)
    (single : ∀ x ∈ xs, ∀ y ∈ xs, block x ≠ [] → block y ≠ [] → x = y) :
    xs.flatMap block = ys.flatMap block := by
  rw [List.flatMap_eq_foldl, List.flatMap_eq_foldl]
  refine perm.foldl_eq' (fun x mem y mem' acc => ?_) []
  by_cases same : x = y
  · rw [same]
  by_cases empty : block x = []
  · simp [empty]
  have other : block y = [] :=
    Classical.byContradiction fun full => same (single x mem y mem' empty full)
  simp [other]

/-- In two orders of one list, a test that at most one member passes finds the same member. -/
theorem find?_perm_eq {α : Type} {xs ys : List α} (perm : xs.Perm ys) (p : α → Bool)
    (single : ∀ x ∈ xs, ∀ y ∈ xs, p x = true → p y = true → x = y) :
    xs.find? p = ys.find? p := by
  cases found : xs.find? p with
  | none =>
      refine (List.find?_eq_none.2 fun y mem => ?_).symm
      exact List.find?_eq_none.1 found y (perm.mem_iff.2 mem)
  | some x =>
      have mem := List.mem_of_find?_eq_some found
      obtain ⟨y, found'⟩ : ∃ y, ys.find? p = some y := Option.isSome_iff_exists.1
        (List.find?_isSome.2 ⟨x, perm.mem_iff.1 mem, List.find?_some found⟩)
      rw [found', single x mem y (perm.mem_iff.2 (List.mem_of_find?_eq_some found'))
        (List.find?_some found) (List.find?_some found')]

/-! ### Writing the answers of every root -/

@[simp] theorem applyAnnotations_snd (t : AltTree) (r : Nat) (a : Annotations) :
    (applyAnnotations t r a).2 = a.diagnostics := rfl

/-- Writing the answers of several roots writes them one after the other into the tree, and
reports their failures one root after the other. -/
theorem writeAnswers_eq (t : AltTree) (answers : List (Nat × Annotations)) :
    writeAnswers t answers =
      (answers.foldl (fun t' x => (applyAnnotations t' x.1 x.2).1) t,
        answers.flatMap fun x => x.2.diagnostics) := by
  -- the accumulated tree and failures, from any start
  have folded : ∀ acc : AltTree × List Diagnostic,
      answers.foldl (fun acc x => ((applyAnnotations acc.1 x.1 x.2).1, acc.2 ++ x.2.diagnostics))
        acc =
      (answers.foldl (fun t' x => (applyAnnotations t' x.1 x.2).1) acc.1,
        acc.2 ++ answers.flatMap fun x => x.2.diagnostics) := by
    induction answers with
    | nil => simp
    | cons x rest ih =>
        intro acc
        rw [List.foldl_cons, ih]
        simp
  unfold writeAnswers
  simpa using folded (t, [])

/-- A node as the answers of a root leave it. -/
def rootUpdate (a : Annotations) (i : Nat) (n : AltNode) : AltNode :=
  { n.bindPaints a.resolved with
    embeddedVectorMarkup := (a.vectors.lookup i).or n.embeddedVectorMarkup }

section Roots

variable {t : AltTree} (normal : t.Normal) (host : DesignHost Id) (config : RunConfig)
include normal

/-- The answers of a root, asked of a tree, write into any tree of the same skeleton exactly the
nodes under that root. -/
theorem get?_applyAnnotations_root {r : Nat} (root : r ∈ t.roots) {t' : AltTree}
    (same : SameSkeleton t t') (i : Nat) :
    (applyAnnotations t' r (annotateSubtree t r host config).run).1.get? i =
      if i ∈ t.preorder r then
        (t'.get? i).map (rootUpdate (annotateSubtree t r host config).run i)
      else t'.get? i := by
  have distinct := normal.nodup_preorder root
  rw [get?_applyAnnotations ((same.preorder_eq r).symm ▸ distinct)
      (nodup_vectors_annotateSubtree host config distinct), same.preorder_eq]
  by_cases under : i ∈ t.preorder r
  · rw [if_pos under, if_pos under, Option.map_map]
    rfl
  · -- nothing is exported outside the subtree
    have none : (annotateSubtree t r host config).run.vectors.lookup i = none := by
      cases listed : (annotateSubtree t r host config).run.vectors.lookup i with
      | none => rfl
      | some m =>
          rw [← mem_iff_lookup (nodup_vectors_annotateSubtree host config distinct),
            mem_vectors_annotateSubtree] at listed
          obtain ⟨n, exported, _⟩ := listed
          exact absurd ((normal.mem_preorder_iff root i).2
            ((mem_markupExports config normal root i n).1 exported).2.1) under
    rw [if_neg under, if_neg under, none]
    simp

/-- Writing the answers of distinct roots one after the other leaves each node as the answers of
the root above it leave it, and every node under no such root as it was. -/
theorem get?_foldl_roots :
    ∀ (rs : List Nat), rs.Nodup → (∀ r ∈ rs, r ∈ t.roots) →
      ∀ (t' : AltTree), SameSkeleton t t' → ∀ i,
        (rs.foldl (fun t' r => (applyAnnotations t' r (annotateSubtree t r host config).run).1)
          t').get? i =
        match rs.find? (fun r => i ∈ t.preorder r) with
        | some r => (t'.get? i).map (rootUpdate (annotateSubtree t r host config).run i)
        | none => t'.get? i
  | [], _, _, _, _, _ => rfl
  | r :: rest, distinct, roots, t', same, i => by
      have root := roots r List.mem_cons_self
      have same' :=
        same.trans (applyAnnotations_sameSkeleton t' r (annotateSubtree t r host config).run)
      rw [List.foldl_cons, get?_foldl_roots rest (List.nodup_cons.1 distinct).2
        (fun r' mem => roots r' (List.mem_cons_of_mem r mem)) _ same' i, List.find?_cons,
        get?_applyAnnotations_root normal host config root same]
      by_cases under : i ∈ t.preorder r
      · -- `i` lies under no other root
        have alone : rest.find? (fun r' => i ∈ t.preorder r') = none :=
          List.find?_eq_none.2 fun r' mem under' => (List.nodup_cons.1 distinct).1
            (normal.eq_of_mem_preorder root (roots r' (List.mem_cons_of_mem r mem)) under
              (by simpa using under') ▸ mem)
        simp [under, alone]
      · simp [under]

/-- Every failure annotation reports under a root is about a node of its subtree. -/
theorem node_diagnostics_annotateSubtree {r : Nat} (root : r ∈ t.roots) :
    ∀ d ∈ (annotateSubtree t r host config).run.diagnostics,
      ∃ i, d.node = some i ∧ i ∈ t.preorder r := by
  intro d mem
  rw [diagnostics_annotateSubtree, List.mem_append, List.mem_map, List.mem_map] at mem
  rcases mem with ⟨⟨v, i, e⟩, failed, rfl⟩ | ⟨⟨i, n, e⟩, failed, rfl⟩
  · have first := ((mem_lookupFailures host config v i e).1 failed).2.2
    exact ⟨i, rfl, List.mem_of_find?_eq_some first⟩
  · have under := ((mem_exportFailures host config normal root i n e).1 failed).2.1
    exact ⟨i, rfl, (normal.mem_preorder_iff root i).2 under⟩

/-- The failures about one node are those of the one root above it, whatever the order of the
roots. -/
theorem keyed_flatMap_perm {order : List Nat} (perm : order.Perm t.roots) (k : Int) :
    keyed k (order.flatMap fun r => (annotateSubtree t r host config).run.diagnostics) =
      keyed k (t.roots.flatMap fun r => (annotateSubtree t r host config).run.diagnostics) := by
  simp only [keyed, List.filter_flatMap]
  refine flatMap_perm_eq perm _ fun r mem r' mem' full full' => ?_
  have root := perm.mem_iff.1 mem
  have root' := perm.mem_iff.1 mem'
  -- a failure about `k` under each root: both are about node `k`
  obtain ⟨d, kept⟩ := List.exists_mem_of_ne_nil _ full
  obtain ⟨d', kept'⟩ := List.exists_mem_of_ne_nil _ full'
  rw [List.mem_filter, decide_eq_true_eq] at kept kept'
  obtain ⟨i, node, under⟩ := node_diagnostics_annotateSubtree normal host config root d kept.1
  obtain ⟨i', node', under'⟩ :=
    node_diagnostics_annotateSubtree normal host config root' d' kept'.1
  have same : i = i' := by
    have key := kept.2.trans kept'.2.symm
    simp only [Diagnostic.key, node, node'] at key
    exact Int.ofNat_inj.1 key
  exact normal.eq_of_mem_preorder root root' under (same ▸ under')

end Roots

/-! ### The roots in any order -/

/-- Writing the answers of the roots of a selection's tree in any order gives the same tree and,
once sorted by node, the same failures among any others; the answers do not depend on the
concurrency limit, nor on how a tool that answers each question the same way reaches its
answers (the order in which they complete, or any state it keeps). -/
theorem rootAnswers_order_independent (roots : List DesignNode) :
    ∃ tree diagnostics, normalizeRoots roots false = .ok (tree, diagnostics) ∧
      ∀ (iconSize : Float) (host : DesignHost Id) (config : RunConfig) (order : List Nat),
        order.Perm (classifyVectors tree iconSize).roots →
        let t := classifyVectors tree iconSize
        let answersIn := fun (rs : List Nat) (c : RunConfig) =>
          rs.map fun r => (r, (annotateSubtree t r host c).run)
        (writeAnswers t (answersIn order config)).1 =
          (writeAnswers t (answersIn t.roots config)).1 ∧
        (∀ pre post, sortByNode (pre ++ (writeAnswers t (answersIn order config)).2 ++ post) =
          sortByNode (pre ++ (writeAnswers t (answersIn t.roots config)).2 ++ post)) ∧
        (∀ k, answersIn t.roots { config with maxConcurrency := k } =
          answersIn t.roots config) ∧
        ∀ (σ : Type) (h : DesignHost (StateM σ)),
          (∀ v s, ((h.resolveVariable v).run s).run.1 = (host.resolveVariable v).run) →
          (∀ id s, ((h.exportVectorMarkup id).run s).run.1 = (host.exportVectorMarkup id).run) →
          ∀ r s, ((annotateSubtree t r h config).run s).run.1 =
            (annotateSubtree t r host config).run := by
  obtain ⟨tree, diagnostics, run, normal, -⟩ := normalizeRoots_unanswered roots
  refine ⟨tree, diagnostics, run, fun iconSize host config order perm => ?_⟩
  intro t answersIn
  have normal' : t.Normal := normal.of_sameSkeleton (classifyVectors_sameSkeleton tree iconSize)
  have distinct : t.roots.Nodup := normal'.wellFormed.rootsNodup
  have written : ∀ rs : List Nat, (writeAnswers t (answersIn rs config)).1 =
      rs.foldl (fun t' r => (applyAnnotations t' r (annotateSubtree t r host config).run).1) t := by
    intro rs
    simp only [answersIn, writeAnswers_eq, List.foldl_map]
  refine ⟨?_, fun pre post => ?_, fun k => rfl,
    fun σ h lookups exports r s => annotateSubtree_stateful t r host config h lookups exports s⟩
  · -- every node ends as the answers of the one root above it leave it
    rw [written, written]
    refine ext_get? ?_ fun i => ?_
    · have keeps := fun rs : List Nat =>
        SameSkeleton.foldl _ (fun t' r => applyAnnotations_sameSkeleton t' r
          (annotateSubtree t r host config).run) rs t
      rw [(keeps order).roots_eq, (keeps t.roots).roots_eq]
    rw [get?_foldl_roots normal' host config order (perm.nodup_iff.2 distinct)
        (fun r mem => perm.mem_iff.1 mem) t (.refl t) i,
      get?_foldl_roots normal' host config t.roots distinct (fun r mem => mem) t (.refl t) i,
      find?_perm_eq perm _ fun r mem r' mem' under under' =>
        normal'.eq_of_mem_preorder (perm.mem_iff.1 mem) (perm.mem_iff.1 mem')
          (by simpa using under) (by simpa using under')]
  · -- the failures about each node come in the same order
    refine sortByNode_eq_of_keyed fun k => ?_
    simp only [writeAnswers_eq, answersIn, List.flatMap_map, keyed, List.filter_append]
    rw [← keyed, ← keyed, keyed_flatMap_perm normal' host config perm k]


end Handoff
