/-
Module: Handoff.Proofs.Tree.Subtree
Purpose: The walk down from a root of a tree as normalisation leaves it. The walk reads only the
  ids and links of the nodes, so it is the same in every arena with the same skeleton. In a well
  formed arena whose walks from its roots list every id once and in order (`AltTree.Normal`),
  the walk from a root lists exactly the subtree under it, each node once, and the subtrees of
  two roots share no node.
Main exports: SameSkeleton.size_eq, SameSkeleton.preorder_eq, AltTree.Normal,
  AltTree.Normal.mem_preorder_iff, AltTree.Normal.nodup_preorder,
  AltTree.Normal.eq_of_mem_preorder, AltTree.Normal.of_sameSkeleton, AltTree.ext_get?.
-/
import Handoff.Proofs.Tree.Arena

namespace Handoff

namespace AltTree

/-- Two arenas under the same roots with the same node in every slot are the same. -/
theorem ext_get? {t t' : AltTree} (roots : t.roots = t'.roots) (nodes : ∀ i, t.get? i = t'.get? i) :
    t = t' := by
  obtain ⟨nodes₁, roots₁⟩ := t
  obtain ⟨nodes₂, roots₂⟩ := t'
  have same : nodes₁ = nodes₂ := Array.ext_getElem? nodes
  simp only at roots
  rw [same, roots]

/-- A slot holds a node exactly when it is below the size. -/
theorem isSome_get?_iff (t : AltTree) (i : Nat) : (t.get? i).isSome ↔ i < t.nodes.size := by
  rw [get?, isSome_getElem?]

namespace SameSkeleton

variable {t t' : AltTree}

/-- Arenas with the same skeleton have a node in the same slots. -/
theorem isSome_get? (same : SameSkeleton t t') (i : Nat) :
    (t'.get? i).isSome = (t.get? i).isSome := by
  have skeleton := same.get?_skeleton i
  cases at' : t'.get? i <;> cases at_ : t.get? i <;> simp_all

theorem size_eq (same : SameSkeleton t t') : t'.nodes.size = t.nodes.size := by
  -- the slots holding a node are those below the size
  have below : ∀ i, i < t'.nodes.size ↔ i < t.nodes.size := fun i => by
    rw [← isSome_get?_iff, ← isSome_get?_iff, same.isSome_get? i]
  exact Nat.le_antisymm (Nat.not_lt.1 fun lt => Nat.lt_irrefl _ ((below _).1 lt))
    (Nat.not_lt.1 fun lt => Nat.lt_irrefl _ ((below _).2 lt))

/-- The skeleton fixes the children a slot lists. -/
theorem children_eq (same : SameSkeleton t t') (i : Nat) :
    (t'.get? i).map AltNode.children = (t.get? i).map AltNode.children := by
  have skeleton := congrArg (Option.map fun s => s.2.2.1) (same.get?_skeleton i)
  simpa [Option.map_map, Function.comp_def, AltNode.skeleton] using skeleton

/-- The walk down from a node reads only links, so the skeleton fixes it. -/
theorem preorderFrom_eq (same : SameSkeleton t t') :
    ∀ (fuel id : Nat), t'.preorderFrom fuel id = t.preorderFrom fuel id
  | 0, _ => rfl
  | fuel + 1, id => by
      have children := same.children_eq id
      cases at' : t'.get? id with
      | none =>
          cases at_ : t.get? id with
          | none => simp [preorderFrom, at', at_]
          | some n => simp [at', at_] at children
      | some n' =>
          cases at_ : t.get? id with
          | none => simp [at', at_] at children
          | some n =>
              simp only [at', at_, Option.map_some, Option.some.injEq] at children
              simp only [preorderFrom, at', at_, children]
              exact congrArg (id :: ·) (List.flatMap_congr fun c _ => preorderFrom_eq same fuel c)

theorem preorder_eq (same : SameSkeleton t t') (root : Nat) :
    t'.preorder root = t.preorder root := by
  rw [preorder, preorder, same.size_eq]
  exact same.preorderFrom_eq _ root

end SameSkeleton

/-- A tree as normalisation leaves it, in the two respects annotation relies on: it is well
formed, and the walks down from its roots, one after the other, list every id once and in
order. -/
structure Normal (t : AltTree) : Prop where
  wellFormed : t.WellFormed
  preorder : t.roots.flatMap t.preorder = List.range t.nodes.size

namespace Normal

variable {t : AltTree} (normal : t.Normal)
include normal

/-- A node lying under a node of the tree is in the tree. -/
theorem get?_of_reaches {x y : Nat} (reach : t.Reaches x y) (present : (t.get? x).isSome) :
    (t.get? y).isSome := by
  induction reach with
  | refl => exact present
  | tail _ step _ =>
      obtain ⟨m, atC, _⟩ := normal.wellFormed.parent_of_childOf step
      simp [atC]

/-- The walk from a root lists exactly the nodes under the root. -/
theorem mem_preorder_iff {r : Nat} (root : r ∈ t.roots) (i : Nat) :
    i ∈ t.preorder r ↔ t.Reaches r i := by
  constructor
  · exact reaches_of_mem_preorderFrom
  · intro below
    obtain ⟨n, atR, _⟩ := normal.wellFormed.rootLink r root
    have present := normal.get?_of_reaches below (by simp [atR])
    -- `i` is listed by the walk from some root, which holds it, so that root is `r`
    have listed : i ∈ t.roots.flatMap t.preorder := by
      rw [normal.preorder, List.mem_range, ← isSome_get?_iff]
      exact present
    obtain ⟨r', root', walk⟩ := List.mem_flatMap.1 listed
    by_cases same : r' = r
    · exact same ▸ walk
    · exact absurd below fun below =>
        normal.wellFormed.disjoint_roots root' root same (reaches_of_mem_preorderFrom walk) below

/-- The walk from a root lists no node twice. -/
theorem nodup_preorder {r : Nat} (root : r ∈ t.roots) : (t.preorder r).Nodup := by
  have distinct : (t.roots.flatMap t.preorder).Nodup := by
    rw [normal.preorder]
    exact List.nodup_range
  exact (List.nodup_flatMap.1 distinct).1 r root

/-- The walks from two roots share no node. -/
theorem eq_of_mem_preorder {r r' : Nat} (root : r ∈ t.roots) (root' : r' ∈ t.roots) {i : Nat}
    (mem : i ∈ t.preorder r) (mem' : i ∈ t.preorder r') : r = r' :=
  Classical.byContradiction fun ne => normal.wellFormed.disjoint_roots root root' ne
    ((normal.mem_preorder_iff root i).1 mem) ((normal.mem_preorder_iff root' i).1 mem')

/-- Changing what a node holds, but not its id, links or name, keeps a tree normal. -/
theorem of_sameSkeleton {t' : AltTree} (same : SameSkeleton t t') : t'.Normal where
  wellFormed := normal.wellFormed.of_sameSkeleton same
  preorder := by
    rw [same.roots_eq, same.size_eq]
    rw [← normal.preorder]
    exact List.flatMap_congr fun r _ => same.preorder_eq r

end Normal

end AltTree

end Handoff
