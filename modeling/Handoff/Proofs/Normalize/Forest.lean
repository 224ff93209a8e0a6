/-
Module: Handoff.Proofs.Normalize.Forest
Purpose: What the normalisation pass builds, read off the tool's tree. Hidden nodes vanish and
  groups dissolve, so the description holds the nodes a forest shows: `flat` lists them at one
  level, `shown` lists them at every level in preorder, and the pass numbers them in that
  order, so the nodes a forest shows from id `k` on take `k, k + 1, …`. `LaidOut` says that a
  tree holds them there, each exactly as the pass describes it, linked to its parent and to
  its children. `Extends` is what a stretch of the pass does to its state, and two stretches
  in a row compose (`Extends.seq`).
Main exports: holdsChildren, flat, shown, shownRoots, placedNode, contextOf, LaidOut,
  LaidOut.congr, Grows, Extends, Extends.seq.
-/
import Handoff.Normalize.Pass
import Handoff.Proofs.UniqueNames
import Handoff.Proofs.Tree.Arena

namespace Handoff

/-! ### The nodes a forest shows -/

/-- Whether a node of a tool type holds children in the description: containers, whether the
type is known or not, and boolean operations. -/
def holdsChildren (kind : String) : Bool :=
  let k := (mapKind kind).getD .container
  k == .container || k == .booleanOp

/-- The base of the unique name the pass asks for a tool node. -/
def nameBaseOf (a : NodeAttrs) : String := nameBase a ((mapKind a.kind).getD .container)

/-- Every base is a text: the trimmed name, or the kind's name when that is blank. -/
theorem nameBaseOf_ne_empty (a : NodeAttrs) : nameBaseOf a ≠ "" := by
  simp only [nameBaseOf, nameBase]
  split
  · cases (mapKind a.kind).getD .container <;> simp [NodeKind.name]
  · rename_i blank
    intro empty
    simp [empty] at blank

/-- The nodes a forest shows at its top level: hidden nodes dropped, and each visible group
replaced by what its children show. -/
def flat : List DesignNode → List DesignNode
  | [] => []
  | .mk a cs :: rest =>
      if !a.isVisible then flat rest
      else if a.kind == "GROUP" then flat cs ++ flat rest
      else .mk a cs :: flat rest

/-- The tool nodes a forest shows at every level, in preorder: below a shown node, the nodes
its children show when its kind holds children. -/
def shown : List DesignNode → List NodeAttrs
  | [] => []
  | .mk a cs :: rest =>
      if !a.isVisible then shown rest
      else if a.kind == "GROUP" then shown cs ++ shown rest
      else a :: ((if holdsChildren a.kind then shown cs else []) ++ shown rest)

/-- The ids of the nodes a forest shows at its top level, when its shown nodes are numbered in
preorder from `k`. -/
def shownRoots : Nat → List DesignNode → List Nat
  | _, [] => []
  | k, .mk a cs :: rest =>
      if !a.isVisible then shownRoots k rest
      else if a.kind == "GROUP" then shownRoots k cs ++ shownRoots (k + (shown cs).length) rest
      else
        k :: shownRoots (k + 1 + (if holdsChildren a.kind then shown cs else []).length) rest

/-- The children a node visits: its own when its kind holds children, none otherwise. -/
def visitedChildren (a : NodeAttrs) (cs : List DesignNode) : List DesignNode :=
  if holdsChildren a.kind then cs else []

theorem shown_visitedChildren (a : NodeAttrs) (cs : List DesignNode) :
    shown (visitedChildren a cs) = if holdsChildren a.kind then shown cs else [] := by
  unfold visitedChildren
  split <;> simp [shown]

/-- The ids of the top nodes of a forest lie in the stretch of ids its shown nodes take. -/
theorem shownRoots_bounds :
    ∀ (k : Nat) (ns : List DesignNode), ∀ i ∈ shownRoots k ns, k ≤ i ∧ i < k + (shown ns).length
  | _, [] => by simp [shownRoots]
  | k, .mk a cs :: rest => by
      intro i mem
      by_cases hidden : (!a.isVisible) = true
      · simp only [shownRoots, shown, hidden, if_true] at mem ⊢
        exact shownRoots_bounds k rest i mem
      · by_cases group : (a.kind == "GROUP") = true
        · simp only [shownRoots, shown, hidden, group, if_true, if_false, Bool.false_eq_true,
            List.mem_append, List.length_append] at mem ⊢
          rcases mem with inner | outer
          · have := shownRoots_bounds k cs i inner
            omega
          · have := shownRoots_bounds _ rest i outer
            omega
        · simp only [shownRoots, shown, hidden, group, if_false, Bool.false_eq_true,
            List.mem_cons, List.length_cons, List.length_append] at mem ⊢
          rcases mem with rfl | later
          · omega
          · have := shownRoots_bounds _ rest i later
            omega
termination_by _ ns => ns

/-- The top ids of a forest increase, so a parent never lists a child twice. -/
theorem shownRoots_sorted :
    ∀ (k : Nat) (ns : List DesignNode), (shownRoots k ns).Pairwise (· < ·)
  | _, [] => by simp [shownRoots]
  | k, .mk a cs :: rest => by
      by_cases hidden : (!a.isVisible) = true
      · simp only [shownRoots, hidden, if_true]
        exact shownRoots_sorted k rest
      · by_cases group : (a.kind == "GROUP") = true
        · simp only [shownRoots, hidden, group, if_true, if_false, Bool.false_eq_true]
          refine List.pairwise_append.2 ⟨shownRoots_sorted k cs, shownRoots_sorted _ rest, ?_⟩
          intro i inner j outer
          have := shownRoots_bounds k cs i inner
          have := shownRoots_bounds _ rest j outer
          omega
        · simp only [shownRoots, hidden, group, if_false, Bool.false_eq_true]
          refine List.pairwise_cons.2 ⟨fun j later => ?_, shownRoots_sorted _ rest⟩
          have := shownRoots_bounds _ rest j later
          omega
termination_by _ ns => ns

/-! ### How the pass leaves a node -/

/-- What the children of a node need from it; it does not depend on the node's name. -/
def contextOf (a : NodeAttrs) (parent : Option ParentContext) (absorbed : Float) (k : Nat) :
    ParentContext :=
  (describeNode a parent absorbed k "").2.1

/-- The node the pass leaves at id `k` for a tool node named `u`: its description under
`parent`, linked to its parent and to `children`, its flow marked by how those children are
placed. -/
def placedNode (t : AltTree) (parent : Option ParentContext) (absorbed : Float) (k : Nat)
    (a : NodeAttrs) (children : List Nat) (u : String) : AltNode :=
  let n := (describeNode a parent absorbed k u).1
  { n with
    id := k
    parent := parent.map ParentContext.id
    children := children
    layout := n.layout.map fun l =>
      markAbsoluteChildren l ((children.filterMap t.get?).map AltNode.positioning) }

/-- A placed node reads the tree only at its children. -/
theorem placedNode_congr {t t' : AltTree} {children : List Nat}
    (same : ∀ c ∈ children, t'.get? c = t.get? c) (parent : Option ParentContext)
    (absorbed : Float) (k : Nat) (a : NodeAttrs) (u : String) :
    placedNode t' parent absorbed k a children u = placedNode t parent absorbed k a children u := by
  have lookups : children.filterMap t'.get? = children.filterMap t.get? :=
    List.filterMap_congr same
  simp only [placedNode, lookups]

/-- The tree holds the nodes a forest shows from id `k` on, in preorder, each as the pass
describes it under `parent` with the rotation `absorbed` of the groups dissolved above it. -/
def LaidOut (t : AltTree) : Option ParentContext → Float → Nat → List DesignNode → Prop
  | _, _, _, [] => True
  | parent, absorbed, k, .mk a cs :: rest =>
      if !a.isVisible then LaidOut t parent absorbed k rest
      else if a.kind == "GROUP" then
        LaidOut t parent (absorbed + a.rotation) k cs ∧
          LaidOut t parent absorbed (k + (shown cs).length) rest
      else
        (∃ u, t.get? k =
          some (placedNode t parent absorbed k a (shownRoots (k + 1) (visitedChildren a cs)) u)) ∧
        (holdsChildren a.kind = true → LaidOut t (some (contextOf a parent absorbed k)) 0.0 (k + 1) cs) ∧
        LaidOut t parent absorbed (k + 1 + (shown (visitedChildren a cs)).length) rest

/-- Whether a laid-out forest holds depends only on the nodes in its stretch of ids. -/
theorem LaidOut.congr {t t' : AltTree} :
    ∀ (parent : Option ParentContext) (absorbed : Float) (k : Nat) (ns : List DesignNode),
      (∀ i, k ≤ i → i < k + (shown ns).length → t'.get? i = t.get? i) →
      LaidOut t parent absorbed k ns → LaidOut t' parent absorbed k ns
  | _, _, _, [], _, _ => by simp [LaidOut]
  | parent, absorbed, k, .mk a cs :: rest, same, laid => by
      by_cases hidden : (!a.isVisible) = true
      · simp only [LaidOut, shown, hidden, if_true] at laid same ⊢
        exact LaidOut.congr parent absorbed k rest same laid
      · by_cases group : (a.kind == "GROUP") = true
        · simp only [LaidOut, shown, hidden, group, if_true, if_false, Bool.false_eq_true,
            List.length_append] at laid same ⊢
          exact ⟨LaidOut.congr _ _ k cs (fun i lo hi => same i lo (by omega)) laid.1,
            LaidOut.congr _ _ _ rest (fun i lo hi => same i (by omega) (by omega)) laid.2⟩
        · simp only [LaidOut, shown, hidden, group, if_false, Bool.false_eq_true,
            List.length_cons, List.length_append] at laid same ⊢
          obtain ⟨⟨u, atK⟩, kids, later⟩ := laid
          have kidsSame : ∀ c ∈ shownRoots (k + 1) (visitedChildren a cs), t'.get? c = t.get? c := by
            intro c mem
            have := shownRoots_bounds _ _ c mem
            rw [shown_visitedChildren] at this
            exact same c (by omega) (by omega)
          refine ⟨⟨u, ?_⟩, fun holds => ?_, ?_⟩
          · rw [same k (Nat.le_refl k) (by omega), atK, placedNode_congr kidsSame]
          · refine LaidOut.congr _ _ _ cs (fun i lo hi => same i (by omega) ?_) (kids holds)
            simp only [holds, if_true]
            omega
          · refine LaidOut.congr _ _ _ rest (fun i lo hi => same i (by omega) ?_) later
            rw [shown_visitedChildren] at lo hi
            omega
termination_by _ _ _ ns => ns

/-! ### Stretches of the pass -/

/-- What a stretch of the pass does to its state `s`, ending in `s'`, when it shows the tool
nodes `attrs`, wherever it is placed: they take the next ids, their names are handed out in
preorder, and only warnings about them are reported. -/
structure Grows (attrs : List NodeAttrs) (s s' : NormState) : Prop where
  size_eq : s'.tree.nodes.size = s.tree.nodes.size + attrs.length
  names_eq : s'.names = s.names.assignMany (attrs.map nameBaseOf)
  uniqueNames : (List.range' s.tree.nodes.size attrs.length).map
      (fun i => (s'.tree.get? i).map AltNode.uniqueName) =
    (s.names.assignAll (attrs.map nameBaseOf)).map some
  issues : ∃ ds, s'.diagnostics.toList = s.diagnostics.toList ++ ds ∧
    ∀ d ∈ ds, d.severity = .warning ∧ ∃ i, d.node = some i ∧ s.tree.nodes.size ≤ i ∧
      i < s.tree.nodes.size + attrs.length

/-- Two stretches in a row grow the state by both, provided the second keeps the names of the
nodes the first added. -/
theorem Grows.trans {attrs₁ attrs₂ : List NodeAttrs} {s s₁ s₂ : NormState}
    (first : Grows attrs₁ s s₁) (second : Grows attrs₂ s₁ s₂)
    (kept : ∀ i, s.tree.nodes.size ≤ i → i < s.tree.nodes.size + attrs₁.length →
      (s₂.tree.get? i).map AltNode.uniqueName = (s₁.tree.get? i).map AltNode.uniqueName) :
    Grows (attrs₁ ++ attrs₂) s s₂ := by
  have size₁ := first.size_eq
  refine ⟨by rw [second.size_eq, size₁, List.length_append, Nat.add_assoc], ?_, ?_, ?_⟩
  · rw [second.names_eq, first.names_eq, List.map_append, UniqueNames.assignMany_append]
  · rw [List.length_append, ← List.range'_append_1, List.map_append, List.map_append,
      UniqueNames.assignAll_append, List.map_append, ← first.names_eq, ← size₁,
      ← second.uniqueNames, ← first.uniqueNames]
    congr 1
    exact List.map_congr_left fun i mem => by
      rw [List.mem_range'_1] at mem
      exact kept i mem.1 mem.2
  · obtain ⟨ds₁, diag₁, about₁⟩ := first.issues
    obtain ⟨ds₂, diag₂, about₂⟩ := second.issues
    refine ⟨ds₁ ++ ds₂, by rw [diag₂, diag₁, List.append_assoc], fun d mem => ?_⟩
    rw [List.length_append]
    rcases List.mem_append.1 mem with early | late
    · obtain ⟨warns, i, named, lo, hi⟩ := about₁ d early
      exact ⟨warns, i, named, lo, by omega⟩
    · obtain ⟨warns, i, named, lo, hi⟩ := about₂ d late
      exact ⟨warns, i, named, by omega, by omega⟩

/-- A stretch of the pass under `parent`: it grows the state, `laid` holds of the tree, the ids
`tops` are appended to the parent's children (or to the roots), and no earlier node changes
but the parent. -/
structure Extends (parent : Option ParentContext) (attrs : List NodeAttrs) (tops : List Nat)
    (laid : AltTree → Prop) (s s' : NormState) : Prop extends Grows attrs s s' where
  laid : laid s'.tree
  frame : ∀ i, i < s.tree.nodes.size → parent.map ParentContext.id ≠ some i →
    s'.tree.get? i = s.tree.get? i
  parentLink : ∀ p, parent = some p →
    s'.tree.get? p.id = (s.tree.get? p.id).map fun n => { n with children := n.children ++ tops }
  roots_eq : s'.tree.roots = s.tree.roots ++ (if parent.isNone then tops else [])

namespace Extends

variable {parent : Option ParentContext} {s s₁ s₂ : NormState}

/-- Two stretches of the pass in a row make one: the second only adds nodes after the first's
and changes no earlier node but the parent, so what the first laid out survives it. -/
theorem seq {attrs₁ attrs₂ : List NodeAttrs} {tops₁ tops₂ : List Nat}
    {laid₁ laid₂ : AltTree → Prop}
    (first : Extends parent attrs₁ tops₁ laid₁ s s₁)
    (second : Extends parent attrs₂ tops₂ laid₂ s₁ s₂)
    (local₁ : ∀ t t', (∀ i, s.tree.nodes.size ≤ i → i < s.tree.nodes.size + attrs₁.length →
      t'.get? i = t.get? i) → laid₁ t → laid₁ t')
    (below : ∀ p, parent = some p → p.id < s.tree.nodes.size) :
    Extends parent (attrs₁ ++ attrs₂) (tops₁ ++ tops₂) (fun t => laid₁ t ∧ laid₂ t) s s₂ := by
  have size₁ := first.size_eq
  -- the second stretch leaves every node of the first in place
  have kept : ∀ i, s.tree.nodes.size ≤ i → i < s.tree.nodes.size + attrs₁.length →
      s₂.tree.get? i = s₁.tree.get? i := by
    intro i lo hi
    refine second.frame i (by omega) fun atParent => ?_
    obtain ⟨p, atP, rfl⟩ := Option.map_eq_some_iff.1 atParent
    have := below p atP
    omega
  refine { toGrows := first.trans second.toGrows fun i lo hi => by rw [kept i lo hi],
           laid := ⟨local₁ _ _ kept first.laid, second.laid⟩,
           frame := fun i lt notParent => ?_, parentLink := fun p atP => ?_, roots_eq := ?_ }
  · rw [second.frame i (by omega) notParent, first.frame i lt notParent]
  · rw [second.parentLink p atP, first.parentLink p atP, Option.map_map]
    simp [Function.comp_def, List.append_assoc]
  · rw [second.roots_eq, first.roots_eq]
    split <;> simp

end Extends

end Handoff
