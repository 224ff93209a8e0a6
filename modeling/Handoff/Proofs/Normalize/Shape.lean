/-
Module: Handoff.Proofs.Normalize.Shape
Purpose: The shape of the tree the pass builds. A laid-out forest links every node it shows to
  its parent and to its children, which come after it in increasing order, so the tree the pass
  builds is well formed and passes its structural check. Its nodes are numbered in preorder: the
  walks down from its roots, one after the other, list every id once and in order. And its
  unique names are those handed out, from fresh, to the nodes it shows in preorder.
Main exports: LinkedAt, LaidOut.linked, LaidOut.preorderFrom, Visited.wellFormed,
  Visited.preorder, Visited.uniqueNames.
-/
import Handoff.Proofs.Normalize.Run

namespace Handoff

/-- Node `i` sits in the slot of its id, and its children come after it, in increasing order,
and each names it as its parent. -/
def LinkedAt (t : AltTree) (i : Nat) : Prop :=
  ∃ n, t.get? i = some n ∧ n.id = i ∧ n.children.Pairwise (· < ·) ∧
    ∀ c ∈ n.children, i < c ∧ ∃ m, t.get? c = some m ∧ m.parent = some i

variable {t : AltTree}

/-- A laid-out forest links what it shows: its top nodes name the parent, and each node in its
stretch of ids is linked to its children. -/
theorem LaidOut.linked :
    ∀ (parent : Option ParentContext) (absorbed : Float) (k : Nat) (ns : List DesignNode),
      LaidOut t parent absorbed k ns →
      (∀ r ∈ shownRoots k ns, ∃ n, t.get? r = some n ∧ n.parent = parent.map ParentContext.id) ∧
      ∀ i, k ≤ i → i < k + (shown ns).length → LinkedAt t i
  | _, _, _, [], _ => ⟨by simp [shownRoots], fun i lo hi => by simp [shown] at hi; omega⟩
  | parent, absorbed, k, .mk a cs :: rest, laid => by
      by_cases hidden : (!a.isVisible) = true
      · simp only [LaidOut, shownRoots, shown, hidden, if_true] at laid ⊢
        exact LaidOut.linked parent absorbed k rest laid
      by_cases group : (a.kind == "GROUP") = true
      · simp only [LaidOut, shownRoots, shown, hidden, group, if_true, if_false,
          Bool.false_eq_true, List.length_append, List.mem_append] at laid ⊢
        have inner := LaidOut.linked parent _ k cs laid.1
        have outer := LaidOut.linked parent absorbed _ rest laid.2
        refine ⟨fun r mem => mem.elim (inner.1 r) (outer.1 r), fun i lo hi => ?_⟩
        by_cases early : i < k + (shown cs).length
        · exact inner.2 i lo early
        · exact outer.2 i (by omega) (by omega)
      simp only [LaidOut, shownRoots, shown, hidden, group, if_false, Bool.false_eq_true,
        List.length_cons, List.length_append, List.mem_cons] at laid ⊢
      obtain ⟨⟨u, placed⟩, kids, later⟩ := laid
      rw [← shown_visitedChildren]
      -- the children it holds name it and are linked in turn; it holds none otherwise
      have below : (∀ r ∈ shownRoots (k + 1) (visitedChildren a cs),
          ∃ n, t.get? r = some n ∧ n.parent = some k) ∧
          ∀ i, k + 1 ≤ i → i < k + 1 + (shown (visitedChildren a cs)).length → LinkedAt t i := by
        unfold visitedChildren
        split
        · exact LaidOut.linked _ 0.0 (k + 1) cs (kids ‹_›)
        · exact ⟨by simp [shownRoots], fun i lo hi => by simp [shown] at hi; omega⟩
      have outer := LaidOut.linked parent absorbed _ rest later
      refine ⟨fun r mem => ?_, fun i lo hi => ?_⟩
      · rcases mem with rfl | mem
        · exact ⟨_, placed, rfl⟩
        · exact outer.1 r mem
      by_cases atK : i = k
      · subst atK
        refine ⟨_, placed, rfl, shownRoots_sorted _ _, fun c mem => ⟨?_, below.1 c mem⟩⟩
        exact (shownRoots_bounds _ _ c mem).1
      by_cases inside : i < k + 1 + (shown (visitedChildren a cs)).length
      · exact below.2 i (by omega) inside
      · exact outer.2 i (by omega) (by omega)
termination_by _ _ _ ns => ns

/-- The walks down from the top nodes of a laid-out forest, one after the other, list its
stretch of ids in order, given as many levels as it has nodes. -/
theorem LaidOut.preorderFrom :
    ∀ (parent : Option ParentContext) (absorbed : Float) (k : Nat) (ns : List DesignNode),
      LaidOut t parent absorbed k ns → ∀ fuel, (shown ns).length ≤ fuel →
      (shownRoots k ns).flatMap (t.preorderFrom fuel) = List.range' k (shown ns).length
  | _, _, _, [], _, _, _ => by simp [shownRoots, shown]
  | parent, absorbed, k, .mk a cs :: rest, laid, fuel, enough => by
      by_cases hidden : (!a.isVisible) = true
      · simp only [LaidOut, shownRoots, shown, hidden, if_true] at laid enough ⊢
        exact LaidOut.preorderFrom parent absorbed k rest laid fuel enough
      by_cases group : (a.kind == "GROUP") = true
      · simp only [LaidOut, shownRoots, shown, hidden, group, if_true, if_false,
          Bool.false_eq_true, List.length_append, List.flatMap_append] at laid enough ⊢
        rw [LaidOut.preorderFrom parent _ k cs laid.1 fuel (by omega),
          LaidOut.preorderFrom parent absorbed _ rest laid.2 fuel (by omega), List.range'_append_1]
      simp only [LaidOut, shownRoots, shown, hidden, group, if_false, Bool.false_eq_true,
        List.length_cons, List.length_append, List.flatMap_cons] at laid enough ⊢
      obtain ⟨⟨u, placed⟩, kids, later⟩ := laid
      rw [← shown_visitedChildren] at enough ⊢
      obtain ⟨f, rfl⟩ : ∃ f, fuel = f + 1 := ⟨fuel - 1, by omega⟩
      -- below the node, its children's walks list the ids after it
      have below : (shownRoots (k + 1) (visitedChildren a cs)).flatMap (t.preorderFrom f) =
          List.range' (k + 1) (shown (visitedChildren a cs)).length := by
        unfold visitedChildren at enough ⊢
        split
        · exact LaidOut.preorderFrom _ 0.0 (k + 1) cs (kids ‹_›) f (by simp_all; omega)
        · simp [shownRoots, shown]
      have atK : t.preorderFrom (f + 1) k =
          k :: (shownRoots (k + 1) (visitedChildren a cs)).flatMap (t.preorderFrom f) := by
        simp [AltTree.preorderFrom, placed, placedNode]
      rw [atK, below, LaidOut.preorderFrom parent absorbed _ rest later (f + 1) (by omega),
        List.cons_append, List.range'_append_1, List.range'_succ]
termination_by _ _ _ ns => ns

/-! ### A whole pass -/

section WholePass

variable {roots : List DesignNode} {s : NormState}

theorem Visited.size_eq_length (visited : Visited none 0.0 roots NormState.start s) :
    s.tree.nodes.size = (shown roots).length := by
  simpa [NormState.start, AltTree.empty] using visited.toGrows.size_eq

theorem Visited.roots_eq_shownRoots (visited : Visited none 0.0 roots NormState.start s) :
    s.tree.roots = shownRoots 0 roots := by
  simpa [NormState.start, AltTree.empty] using Extends.roots_eq visited

theorem Visited.laidOut (visited : Visited none 0.0 roots NormState.start s) :
    LaidOut s.tree none 0.0 0 roots := by
  simpa [NormState.start, AltTree.empty] using visited.laid

/-- A whole pass links its roots and every node it builds. -/
theorem Visited.linked (visited : Visited none 0.0 roots NormState.start s) :
    (∀ r ∈ s.tree.roots, ∃ n, s.tree.get? r = some n ∧ n.parent = none) ∧
      ∀ i, i < s.tree.nodes.size → LinkedAt s.tree i := by
  have laid := LaidOut.linked none 0.0 0 roots visited.laidOut
  rw [visited.roots_eq_shownRoots, visited.size_eq_length]
  exact ⟨fun r mem => laid.1 r mem, fun i lt => laid.2 i (Nat.zero_le i) (by omega)⟩

/-- A whole pass builds a well-formed tree. -/
theorem Visited.wellFormed (visited : Visited none 0.0 roots NormState.start s) :
    s.tree.WellFormed := by
  obtain ⟨rootsLinked, nodesLinked⟩ := visited.linked
  have linkedAt : ∀ i n, s.tree.get? i = some n → LinkedAt s.tree i := fun i n atI =>
    nodesLinked i (AltTree.lt_size_of_get? atI)
  -- the node linked at `i` is the one found there
  have found : ∀ i n, s.tree.get? i = some n → n.id = i ∧ n.children.Pairwise (· < ·) ∧
      ∀ c ∈ n.children, i < c ∧ ∃ m, s.tree.get? c = some m ∧ m.parent = some i := by
    intro i n atI
    obtain ⟨n', atI', facts⟩ := linkedAt i n atI
    rw [atI] at atI'
    cases atI'
    exact facts
  exact {
    slot := fun i n atI => (found i n atI).1
    childLink := fun i n atI => (found i n atI).2.2
    childrenNodup := fun i n atI => (found i n atI).2.1.imp Nat.ne_of_lt
    rootLink := rootsLinked
    rootsNodup := by
      rw [visited.roots_eq_shownRoots]
      exact (shownRoots_sorted 0 roots).imp Nat.ne_of_lt }

/-- The walks down from the roots of the tree a whole pass builds, one after the other, list
every id once and in order: the pass numbers nodes in preorder. -/
theorem Visited.preorder (visited : Visited none 0.0 roots NormState.start s) :
    s.tree.roots.flatMap s.tree.preorder = List.range s.tree.nodes.size := by
  rw [List.range_eq_range', visited.size_eq_length, ← LaidOut.preorderFrom none 0.0 0 roots
    visited.laidOut
    (s.tree.nodes.size + 1) (by rw [visited.size_eq_length]; omega), visited.roots_eq_shownRoots]
  rfl

/-- The unique names of the tree a whole pass builds, by id, are those handed out from fresh to
the nodes the selection shows, in preorder. -/
theorem Visited.uniqueNames (visited : Visited none 0.0 roots NormState.start s) :
    (List.range s.tree.nodes.size).map (fun i => (s.tree.get? i).map AltNode.uniqueName) =
      (UniqueNames.empty.assignAll ((shown roots).map nameBaseOf)).map some := by
  have names := visited.toGrows.uniqueNames
  simp only [NormState.start, AltTree.empty, List.size_toArray, List.length_nil] at names
  rw [List.range_eq_range', visited.size_eq_length]
  exact names

/-- Every node a whole pass builds has a name. -/
theorem Visited.uniqueName_ne_empty (visited : Visited none 0.0 roots NormState.start s) :
    ∀ i n, s.tree.get? i = some n → n.uniqueName ≠ "" := by
  intro i n found
  have lt := AltTree.lt_size_of_get? found
  have names := congrArg (·[i]?) visited.uniqueNames
  simp only [List.getElem?_map, List.getElem?_range lt, found, Option.map_some] at names
  obtain ⟨name, at_, same⟩ := Option.map_eq_some_iff.1 names.symm
  rw [← Option.some.inj same]
  exact UniqueNames.assignAll_ne_empty _ _ (by simpa using fun a _ => nameBaseOf_ne_empty a) name
    (List.mem_of_getElem? at_)

/-- A whole pass reports only warnings, each about a node it built. -/
theorem Visited.issues (visited : Visited none 0.0 roots NormState.start s) :
    ∀ d ∈ s.diagnostics.toList, d.severity = .warning ∧
      ∃ i, d.node = some i ∧ i < s.tree.nodes.size := by
  obtain ⟨ds, diagnostics, about⟩ := visited.toGrows.issues
  simp only [NormState.start, List.nil_append, Array.toList_empty] at diagnostics
  intro d mem
  rw [diagnostics] at mem
  obtain ⟨warns, i, named, _, hi⟩ := about d mem
  exact ⟨warns, i, named, by rw [visited.size_eq_length]; simpa [NormState.start, AltTree.empty] using hi⟩

end WholePass

/-! ### Names -/

/-- Names handed out from fresh, one request after another, are pairwise distinct; each is its
request's base, bare or followed by an underscore and a positive counter written in decimal and
zero padded to at least two digits; and it is bare exactly when no earlier request asked for
that base and no earlier name is that text. A pass over a selection hands them out to the nodes
it builds in preorder, so the names of its tree, read in preorder, are those, and pairwise
distinct. -/
theorem uniqueNames_distinct_in_preorder :
    (∀ bases : List String,
      (UniqueNames.empty.assignAll bases).length = bases.length ∧
      (UniqueNames.empty.assignAll bases).Nodup ∧
      ∀ (i : Nat) (base name : String), bases[i]? = some base →
        (UniqueNames.empty.assignAll bases)[i]? = some name →
        (name = base ∨ ∃ k, 0 < k ∧ name.toList = base.toList ++
          '_' :: (List.replicate (2 - (Nat.toDigits 10 k).length) '0' ++ Nat.toDigits 10 k)) ∧
        (name = base ↔
          base ∉ bases.take i ∧ base ∉ (UniqueNames.empty.assignAll bases).take i)) ∧
    ∀ roots : List DesignNode, ∃ tree diagnostics,
      normalizeRoots roots false = .ok (tree, diagnostics) ∧
      (tree.roots.flatMap tree.preorder).map (fun i => (tree.get? i).map AltNode.uniqueName) =
        (UniqueNames.empty.assignAll ((shown roots).map nameBaseOf)).map some ∧
      ((tree.roots.flatMap tree.preorder).filterMap
        fun i => (tree.get? i).map AltNode.uniqueName).Nodup := by
  refine ⟨fun bases => ⟨UniqueNames.assignAll_length _ _,
    (UniqueNames.assignAll_nodup _ _).1, fun i base name atBase atName => ⟨?_, ?_⟩⟩, fun roots => ?_⟩
  · rcases UniqueNames.assignAll_shape _ bases i base name atBase atName with bare | ⟨k, pos, rfl⟩
    · exact .inl bare
    · exact .inr ⟨k, pos, by simp [zeroPadded_toList]⟩
  · rw [UniqueNames.assignAll_eq_base_iff _ bases i base name atBase atName]
    simp [show UniqueNames.empty.used = [] from rfl]
  · obtain ⟨s, run, visited⟩ := normalizeRoots_spec roots
    have names := visited.uniqueNames
    rw [← visited.preorder] at names
    refine ⟨s.tree, s.diagnostics.toList, run, names, ?_⟩
    -- every id has a name, so the names read are exactly those handed out
    have read : (s.tree.roots.flatMap s.tree.preorder).filterMap
        (fun i => (s.tree.get? i).map AltNode.uniqueName) =
        UniqueNames.empty.assignAll ((shown roots).map nameBaseOf) := by
      have viaMap : ∀ (l : List Nat) (g : Nat → Option String),
          l.filterMap g = (l.map g).filterMap id := fun l g => by rw [List.filterMap_map]; rfl
      rw [viaMap, names, List.filterMap_map]
      exact List.filterMap_some
    rw [read]
    exact (UniqueNames.assignAll_nodup _ _).1

end Handoff
