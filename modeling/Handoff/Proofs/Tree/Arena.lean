/-
Module: Handoff.Proofs.Tree.Arena
Purpose: What inserting and changing nodes does to an arena, and when an arena passes its own
  structural check. An arena is well formed when every node sits in the slot of its id, every
  child exists, has a larger id and names its parent, no node lists a child twice, and the roots
  exist, have no parent and are listed once. Then the subtrees under two siblings, or under two
  roots, share no node, so the check's walk meets every node at most once, never runs out of
  steps, and `validate` succeeds. Both the check and being well formed read only the nodes' ids,
  links and names, so passes that change other fields keep them (`SameSkeleton`).
Main exports: AltTree.get?_insert, AltTree.get?_modify, AltTree.ChildOf, AltTree.Reaches,
  AltTree.WellFormed, AltTree.WalkSafe, AltTree.validate_ok_of, AltTree.validate_ok,
  AltTree.SameSkeleton, AltTree.WellFormed.of_sameSkeleton.
-/
import Handoff.Tree.Arena
import Mathlib

namespace Handoff

/-- What the structural check and the naming check before emission read of a node: its id, its
links and its unique name. -/
def AltNode.skeleton (n : AltNode) : Nat × Option Nat × List Nat × String :=
  (n.id, n.parent, n.children, n.uniqueName)

theorem AltNode.skeleton_eq_iff {n n' : AltNode} :
    n'.skeleton = n.skeleton ↔
      n'.id = n.id ∧ n'.parent = n.parent ∧ n'.children = n.children ∧
        n'.uniqueName = n.uniqueName := by
  simp [AltNode.skeleton]

namespace AltTree

/-! ### Steps -/

theorem size_insert (t : AltTree) (node : AltNode) (parent : Option Nat) :
    (t.insert node parent).nodes.size = t.nodes.size + 1 := by
  cases parent <;> simp [insert, modify]

theorem roots_insert (t : AltTree) (node : AltNode) (parent : Option Nat) :
    (t.insert node parent).roots = t.roots ++ (if parent.isNone then [t.nodes.size] else []) := by
  cases parent <;> simp [insert, modify, nextId]

/-- Inserting under a parent that exists adds the new node at the next id and appends its id
to the parent's children; nothing else changes. -/
theorem get?_insert (t : AltTree) (node : AltNode) (parent : Option Nat)
    (below : ∀ p, parent = some p → p < t.nodes.size) (i : Nat) :
    (t.insert node parent).get? i =
      if i = t.nodes.size then some { node with id := i, parent := parent, children := [] }
      else if parent = some i then
        (t.get? i).map fun n => { n with children := n.children ++ [t.nodes.size] }
      else t.get? i := by
  cases parent with
  | none =>
      by_cases new : i = t.nodes.size
      · subst new
        simp [insert, get?, nextId]
      · simp [insert, get?, Array.getElem?_push, new]
  | some p =>
      have lt := below p rfl
      simp only [insert, get?, modify, nextId, Array.getElem?_modify, Array.getElem?_push,
        Option.some.injEq]
      by_cases new : i = t.nodes.size
      · subst new
        simp [Nat.ne_of_lt lt]
      · by_cases atParent : p = i
        · subst atParent
          simp [new]
        · simp [new, atParent]

theorem size_modify (t : AltTree) (id : Nat) (f : AltNode → AltNode) :
    (t.modify id f).nodes.size = t.nodes.size := by
  simp [modify]

theorem roots_modify (t : AltTree) (id : Nat) (f : AltNode → AltNode) :
    (t.modify id f).roots = t.roots := rfl

theorem get?_modify (t : AltTree) (id : Nat) (f : AltNode → AltNode) (i : Nat) :
    (t.modify id f).get? i = if id = i then (t.get? i).map f else t.get? i := by
  simp [modify, get?, Array.getElem?_modify]

/-! ### Well-formed arenas -/

/-- `c` is listed as a child of `x`. -/
def ChildOf (t : AltTree) (x c : Nat) : Prop := ∃ n, t.get? x = some n ∧ c ∈ n.children

/-- `y` lies in the subtree under `x`. -/
def Reaches (t : AltTree) : Nat → Nat → Prop := Relation.ReflTransGen t.ChildOf

/-- The structural promises of an arena, stated node by node. -/
structure WellFormed (t : AltTree) : Prop where
  slot : ∀ i n, t.get? i = some n → n.id = i
  childLink : ∀ i n, t.get? i = some n → ∀ c ∈ n.children,
    i < c ∧ ∃ m, t.get? c = some m ∧ m.parent = some i
  childrenNodup : ∀ i n, t.get? i = some n → n.children.Nodup
  rootLink : ∀ r ∈ t.roots, ∃ n, t.get? r = some n ∧ n.parent = none
  rootsNodup : t.roots.Nodup

theorem lt_size_of_get? {t : AltTree} {i : Nat} {n : AltNode} (h : t.get? i = some n) :
    i < t.nodes.size :=
  (Array.getElem?_eq_some_iff.1 h).1

/-- A list of distinct ids below `n` has at most `n` of them. -/
theorem length_le_of_nodup {ids : List Nat} {n : Nat} (distinct : ids.Nodup)
    (bound : ∀ i ∈ ids, i < n) : ids.length ≤ n := by
  have inRange : ids.toFinset ⊆ Finset.range n := fun i mem =>
    Finset.mem_range.2 (bound i (List.mem_toFinset.1 mem))
  calc ids.length = ids.toFinset.card := (List.toFinset_card_of_nodup distinct).symm
    _ ≤ (Finset.range n).card := Finset.card_le_card inRange
    _ = n := Finset.card_range n

/-- Below `x`, every node but `x` has its parent in the subtree under `x`. -/
theorem reaches_parent {t : AltTree} {x y : Nat} (h : t.Reaches x y) (ne : y ≠ x) :
    ∃ p, t.ChildOf p y ∧ t.Reaches x p := by
  rcases Relation.ReflTransGen.cases_tail h with same | ⟨p, above, step⟩
  · exact absurd same ne
  · exact ⟨p, step, above⟩

/-- Every id the walk down from `x` lists lies in the subtree under `x`. -/
theorem reaches_of_mem_preorderFrom {t : AltTree} :
    ∀ {fuel x y : Nat}, y ∈ t.preorderFrom fuel x → t.Reaches x y
  | 0, _, _, mem => by simp [preorderFrom] at mem
  | fuel + 1, x, y, mem => by
      unfold preorderFrom at mem
      split at mem
      · next n found =>
        rcases List.mem_cons.1 mem with rfl | below
        · exact .refl
        · obtain ⟨c, child, deeper⟩ := List.mem_flatMap.1 below
          exact .head ⟨n, found, child⟩ (reaches_of_mem_preorderFrom deeper)
      · cases mem

/-- When the walks down from the roots list every id, every node lies under a root. -/
theorem covered_of_preorder {t : AltTree}
    (listed : t.roots.flatMap t.preorder = List.range t.nodes.size) :
    ∀ i n, t.get? i = some n → ∃ r ∈ t.roots, t.Reaches r i := by
  intro i n found
  have mem : i ∈ t.roots.flatMap t.preorder := by
    rw [listed, List.mem_range]
    exact lt_size_of_get? found
  obtain ⟨r, root, below⟩ := List.mem_flatMap.1 mem
  exact ⟨r, root, reaches_of_mem_preorderFrom below⟩

namespace WellFormed

variable {t : AltTree} (wf : t.WellFormed)
include wf

theorem lt_of_childOf {x c : Nat} (h : t.ChildOf x c) : x < c := by
  obtain ⟨n, atX, mem⟩ := h
  exact (wf.childLink x n atX c mem).1

/-- A child names the node listing it as its parent. -/
theorem parent_of_childOf {x c : Nat} (h : t.ChildOf x c) :
    ∃ m, t.get? c = some m ∧ m.parent = some x := by
  obtain ⟨n, atX, mem⟩ := h
  exact (wf.childLink x n atX c mem).2

theorem childOf_unique {x x' c : Nat} (h : t.ChildOf x c) (h' : t.ChildOf x' c) : x = x' := by
  obtain ⟨m, atC, up⟩ := wf.parent_of_childOf h
  obtain ⟨m', atC', up'⟩ := wf.parent_of_childOf h'
  rw [atC] at atC'
  cases atC'
  exact Option.some.inj (up.symm.trans up')

/-- Ids grow down the tree. -/
theorem le_of_reaches {x y : Nat} (h : t.Reaches x y) : x ≤ y := by
  induction h with
  | refl => exact Nat.le_refl x
  | tail _ step below => exact Nat.le_trans below (wf.lt_of_childOf step).le

/-- Two subtrees that share a node are nested: the ancestors of a node form a chain. -/
theorem reaches_total : ∀ (y : Nat) {a b : Nat}, t.Reaches a y → t.Reaches b y →
    t.Reaches a b ∨ t.Reaches b a
  | y, a, b, fromA, fromB => by
    by_cases atA : y = a
    · subst atA
      exact .inr fromB
    by_cases atB : y = b
    · subst atB
      exact .inl fromA
    -- both reach `y` through its one parent, which is smaller than `y`
    obtain ⟨p, stepP, aboveA⟩ := reaches_parent fromA atA
    obtain ⟨p', stepP', aboveB⟩ := reaches_parent fromB atB
    have same := wf.childOf_unique stepP stepP'
    subst same
    have smaller := wf.lt_of_childOf stepP
    exact reaches_total p aboveA aboveB
termination_by y => y

/-- The subtrees under two children of one node share no node. -/
theorem disjoint_siblings {x c₁ c₂ z : Nat} (h₁ : t.ChildOf x c₁) (h₂ : t.ChildOf x c₂)
    (ne : c₁ ≠ c₂) (below₁ : t.Reaches c₁ z) (below₂ : t.Reaches c₂ z) : False := by
  -- if one subtree held the other sibling, it would hold their parent too, which is smaller
  have nested {c c' : Nat} (h : t.ChildOf x c) (h' : t.ChildOf x c') (ne : c' ≠ c)
      (reach : t.Reaches c c') : False := by
    obtain ⟨p, stepP, aboveP⟩ := reaches_parent reach ne
    have := wf.childOf_unique stepP h'
    subst this
    have := wf.le_of_reaches aboveP
    have := wf.lt_of_childOf h
    omega
  rcases wf.reaches_total z below₁ below₂ with reach | reach
  · exact nested h₁ h₂ (Ne.symm ne) reach
  · exact nested h₂ h₁ ne reach

/-- The subtrees under two roots share no node. -/
theorem disjoint_roots {r₁ r₂ z : Nat} (root₁ : r₁ ∈ t.roots) (root₂ : r₂ ∈ t.roots)
    (ne : r₁ ≠ r₂) (below₁ : t.Reaches r₁ z) (below₂ : t.Reaches r₂ z) : False := by
  -- a root inside another root's subtree would have a parent
  have nested {r r' : Nat} (root' : r' ∈ t.roots) (ne : r' ≠ r) (reach : t.Reaches r r') :
      False := by
    obtain ⟨p, stepP, _⟩ := reaches_parent reach ne
    obtain ⟨m, atR, up⟩ := wf.parent_of_childOf stepP
    obtain ⟨n, atR', noParent⟩ := wf.rootLink r' root'
    rw [atR] at atR'
    cases atR'
    rw [up] at noParent
    cases noParent
  rcases wf.reaches_total z below₁ below₂ with reach | reach
  · exact nested root₂ (Ne.symm ne) reach
  · exact nested root₁ ne reach

end WellFormed

/-! ### The check's walk -/

/-- A fold in `Except` that pushes every element on a stack pushes them all. -/
theorem foldlM_push {ε : Type} (f : List Nat → Nat → Except ε (List Nat)) :
    ∀ (cs stack : List Nat), (∀ c ∈ cs, ∀ stack, f stack c = .ok (c :: stack)) →
      cs.foldlM f stack = .ok (cs.reverse ++ stack)
  | [], _, _ => rfl
  | c :: cs, stack, pushes => by
      rw [List.foldlM_cons, pushes c (List.mem_cons_self ..) stack]
      simp only [List.reverse_cons, List.append_assoc, List.singleton_append]
      exact foldlM_push f cs (c :: stack) fun c' mem => pushes c' (List.mem_cons_of_mem _ mem)

/-- A fold in `Except` succeeds when every step does from an accumulator the invariant holds of,
and keeps it for the rest of the list; so does what follows it, when that always succeeds. -/
theorem foldlM_bind_ok {ε α β γ : Type} (f : α → β → Except ε α) (inv : List β → α → Prop)
    (step : ∀ x xs acc, inv (x :: xs) acc → ∃ acc', f acc x = .ok acc' ∧ inv xs acc')
    (k : α → Except ε γ) (c : γ) (done : ∀ a, k a = .ok c) :
    ∀ (xs : List β) (acc : α), inv xs acc → (xs.foldlM f acc >>= k) = .ok c
  | [], acc, _ => done acc
  | x :: xs, acc, holds => by
      obtain ⟨acc', stepped, holds'⟩ := step x xs acc holds
      rw [List.foldlM_cons, stepped]
      exact foldlM_bind_ok f inv step k c done xs acc' holds'

variable {t : AltTree}

/-- What the check's walk needs of the nodes it may meet, a set `S` closed under children: each
exists, its children exist and name it and are listed once, the subtrees under two of its
children share no node, and none of them holds it. -/
structure WalkSafe (t : AltTree) (S : Nat → Prop) : Prop where
  exists_of : ∀ x, S x → ∃ n, t.get? x = some n
  childLink : ∀ x n, S x → t.get? x = some n → ∀ c ∈ n.children,
    ∃ m, t.get? c = some m ∧ m.parent = some x
  closed : ∀ x c, S x → t.ChildOf x c → S c
  childrenNodup : ∀ x n, S x → t.get? x = some n → n.children.Nodup
  siblingsApart : ∀ x c₁ c₂, S x → t.ChildOf x c₁ → t.ChildOf x c₂ → c₁ ≠ c₂ →
    ∀ z, t.Reaches c₁ z → ¬t.Reaches c₂ z
  acyclic : ∀ x c, S x → t.ChildOf x c → ¬t.Reaches c x

/-- The check's walk succeeds from any stack of nodes of a safe set whose subtrees are disjoint
from each other and from what was visited, given one step per node not yet visited; and it
visits only what it had visited or what lies under the stack. The induction is on the steps
left; each step visits a node, pushes its children, and uses one step. -/
theorem validateWalk_ok_of {S : Nat → Prop} (safe : t.WalkSafe S) :
    ∀ (fuel : Nat) (stack visited : List Nat),
      t.nodes.size + 1 ≤ fuel + visited.length →
      visited.Nodup → (∀ v ∈ visited, v < t.nodes.size) →
      (∀ x ∈ stack, S x) →
      stack.Pairwise (fun x y => ∀ z, t.Reaches x z → ¬t.Reaches y z) →
      (∀ x ∈ stack, ∀ z, t.Reaches x z → z ∉ visited) →
      ∃ visited', t.validateWalk fuel stack visited = .ok visited' ∧ visited'.Nodup ∧
        (∀ v ∈ visited', v < t.nodes.size) ∧
        ∀ z ∈ visited', z ∈ visited ∨ ∃ x ∈ stack, t.Reaches x z
  | _, [], visited, _, distinct, bound, _, _, _ =>
      ⟨visited, by cases ‹Nat› <;> rfl, distinct, bound, fun z mem => .inl mem⟩
  | 0, x :: _, visited, steps, distinct, bound, _, _, _ => by
      have := length_le_of_nodup distinct bound
      omega
  | fuel + 1, x :: rest, visited, steps, distinct, bound, inSet, apart, fresh => by
      have unvisited : x ∉ visited := fresh x (List.mem_cons_self ..) x .refl
      have safeX := inSet x (List.mem_cons_self ..)
      obtain ⟨n, atX⟩ := safe.exists_of x safeX
      have childOf : ∀ c ∈ n.children, t.ChildOf x c := fun c mem => ⟨n, atX, mem⟩
      have apartX := (List.pairwise_cons.1 apart).1
      obtain ⟨visited', walk, distinct', bound', within⟩ :=
        validateWalk_ok_of safe fuel (n.children.reverse ++ rest) (x :: visited)
          (by simp only [List.length_cons]; omega)
          (List.nodup_cons.2 ⟨unvisited, distinct⟩)
          (by
            intro v mem
            rcases List.mem_cons.1 mem with rfl | old
            · exact lt_size_of_get? atX
            · exact bound v old)
          (by
            intro y mem
            rcases List.mem_append.1 mem with child | later
            · exact safe.closed x y safeX (childOf y (List.mem_reverse.1 child))
            · exact inSet y (List.mem_cons_of_mem _ later))
          (by
            refine List.pairwise_append.2 ⟨?_, (List.pairwise_cons.1 apart).2, ?_⟩
            · refine List.Pairwise.imp_of_mem ?_
                (List.nodup_reverse.2 (safe.childrenNodup x n safeX atX))
              intro c₁ c₂ mem₁ mem₂ ne z below₁ below₂
              exact safe.siblingsApart x c₁ c₂ safeX (childOf c₁ (List.mem_reverse.1 mem₁))
                (childOf c₂ (List.mem_reverse.1 mem₂)) ne z below₁ below₂
            · intro c mem y later z below₁ below₂
              exact apartX y later z (.head (childOf c (List.mem_reverse.1 mem)) below₁) below₂)
          (by
            intro y mem z below
            rcases List.mem_append.1 mem with child | later
            · have step := childOf y (List.mem_reverse.1 child)
              refine List.not_mem_cons_of_ne_of_not_mem ?_
                (fresh x (List.mem_cons_self ..) z (.head step below))
              rintro rfl
              exact safe.acyclic z y safeX step below
            · refine List.not_mem_cons_of_ne_of_not_mem ?_
                (fresh y (List.mem_cons_of_mem _ later) z below)
              rintro rfl
              exact apartX y later z .refl below)
      refine ⟨visited', ?_, distinct', bound', fun z mem => ?_⟩
      · simp only [validateWalk, List.contains_iff_mem, unvisited, atX, if_false]
        -- every child exists and names `x`, so all are pushed
        rw [foldlM_push _ n.children rest fun c mem stack => by
          obtain ⟨m, atC, up⟩ := safe.childLink x n safeX atX c mem
          simp [atC, up]]
        exact walk
      · rcases within z mem with old | ⟨y, onStack, below⟩
        · rcases List.mem_cons.1 old with rfl | old
          · exact .inr ⟨z, List.mem_cons_self .., .refl⟩
          · exact .inl old
        · rcases List.mem_append.1 onStack with child | later
          · exact .inr ⟨x, List.mem_cons_self .., .head (childOf y (List.mem_reverse.1 child)) below⟩
          · exact .inr ⟨y, List.mem_cons_of_mem _ later, below⟩

/-- An arena passes its structural check when its nodes sit in their slots, its roots exist,
have no parent and are listed once, their subtrees share no node, and they lie in a safe set. -/
theorem validate_ok_of {S : Nat → Prop} (safe : t.WalkSafe S)
    (slot : ∀ i n, t.get? i = some n → n.id = i)
    (rootLink : ∀ r ∈ t.roots, ∃ n, t.get? r = some n ∧ n.parent = none)
    (rootsNodup : t.roots.Nodup)
    (rootsApart : ∀ r₁ ∈ t.roots, ∀ r₂ ∈ t.roots, r₁ ≠ r₂ → ∀ z, t.Reaches r₁ z → ¬t.Reaches r₂ z)
    (rootsSafe : ∀ r ∈ t.roots, S r) : t.validate = .ok () := by
  simp only [validate]
  rw [show t.nodes.toList.zipIdx.find? _ = none from ?placed]
  case placed =>
    rw [List.find?_eq_none]
    rintro ⟨n, at_⟩ mem
    rw [List.mem_zipIdx_iff_getElem?] at mem
    have := slot at_ n (by simpa [get?] using mem)
    simp [this]
  -- roots in turn: each walk visits its own subtree, which no later root's subtree meets
  refine foldlM_bind_ok _ (fun rs visited => rs.Nodup ∧ (∀ r ∈ rs, r ∈ t.roots) ∧
      visited.Nodup ∧ (∀ v ∈ visited, v < t.nodes.size) ∧
      ∀ r ∈ rs, ∀ z, t.Reaches r z → z ∉ visited) ?step _ () (fun _ => rfl) t.roots []
    ⟨rootsNodup, fun r mem => mem, List.nodup_nil, by simp, by simp⟩
  rintro r rs visited ⟨distinct, roots, distinctVisited, bound, fresh⟩
  have root := roots r (List.mem_cons_self ..)
  obtain ⟨n, atR, noParent⟩ := rootLink r root
  obtain ⟨visited', walk, distinct', bound', within⟩ :=
    validateWalk_ok_of safe (t.nodes.size + 1) [r] visited (by omega) distinctVisited bound
      (by simpa using rootsSafe r root) (List.pairwise_singleton _ _)
      (fun x mem => by rw [List.mem_singleton.1 mem]; exact fresh r (List.mem_cons_self ..))
  refine ⟨visited', by simp [atR, noParent, walk], (List.nodup_cons.1 distinct).2,
    fun r' mem => roots r' (List.mem_cons_of_mem _ mem), distinct', bound', ?_⟩
  intro r' later z below seen
  rcases within z seen with old | ⟨x, mem, belowX⟩
  · exact fresh r' (List.mem_cons_of_mem _ later) z below old
  · rw [List.mem_singleton.1 mem] at belowX
    have ne : r ≠ r' := fun same => (List.nodup_cons.1 distinct).1 (same ▸ later)
    exact rootsApart r root r' (roots r' (List.mem_cons_of_mem _ later)) ne z belowX below

/-- In a well-formed arena every node is safe for the walk. -/
theorem WellFormed.walkSafe (wf : t.WellFormed) : t.WalkSafe fun x => ∃ n, t.get? x = some n where
  exists_of _ found := found
  childLink x n _ atX c mem := (wf.childLink x n atX c mem).2
  closed _ _ _ step := by
    obtain ⟨m, atC, -⟩ := wf.parent_of_childOf step
    exact ⟨m, atC⟩
  childrenNodup x n _ atX := wf.childrenNodup x n atX
  siblingsApart _ _ _ _ h₁ h₂ ne _ below₁ below₂ := wf.disjoint_siblings h₁ h₂ ne below₁ below₂
  acyclic _ _ _ step back := by
    have := wf.le_of_reaches back
    have := wf.lt_of_childOf step
    omega

/-- A well-formed arena passes its structural check. -/
theorem validate_ok (wf : t.WellFormed) : t.validate = .ok () :=
  validate_ok_of wf.walkSafe wf.slot wf.rootLink wf.rootsNodup
    (fun _ root₁ _ root₂ ne _ below₁ below₂ => wf.disjoint_roots root₁ root₂ ne below₁ below₂)
    fun r root => (wf.rootLink r root).imp fun _ found => found.1

/-! ### Arenas with the same structure -/

/-- Two arenas whose nodes have the same ids, links and names, under the same roots: what the
structural check and the naming check before emission read. -/
structure SameSkeleton (t t' : AltTree) : Prop where
  roots_eq : t'.roots = t.roots
  get?_skeleton : ∀ i, (t'.get? i).map AltNode.skeleton = (t.get? i).map AltNode.skeleton

namespace SameSkeleton

theorem refl (t : AltTree) : SameSkeleton t t := ⟨rfl, fun _ => rfl⟩

theorem trans {t t' t'' : AltTree} (first : SameSkeleton t t') (second : SameSkeleton t' t'') :
    SameSkeleton t t'' :=
  ⟨second.roots_eq.trans first.roots_eq,
    fun i => (second.get?_skeleton i).trans (first.get?_skeleton i)⟩

theorem symm {t t' : AltTree} (same : SameSkeleton t t') : SameSkeleton t' t :=
  ⟨same.roots_eq.symm, fun i => (same.get?_skeleton i).symm⟩

/-- Changing a node's other fields keeps the skeleton. -/
theorem modify (t : AltTree) (i : Nat) {f : AltNode → AltNode}
    (keeps : ∀ n, (f n).skeleton = n.skeleton) : SameSkeleton t (t.modify i f) := by
  refine ⟨roots_modify t i f, fun j => ?_⟩
  rw [get?_modify]
  split
  · rw [Option.map_map]
    exact Option.map_congr fun n _ => keeps n
  · rfl

/-- Steps that each keep the skeleton keep it over a whole fold. -/
theorem foldl {β : Type} (g : AltTree → β → AltTree) (keeps : ∀ t x, SameSkeleton t (g t x)) :
    ∀ (xs : List β) (t : AltTree), SameSkeleton t (xs.foldl g t)
  | [], t => refl t
  | x :: xs, t => (keeps t x).trans (foldl g keeps xs (g t x))

/-- A node of the second arena has a node of the first in its slot with the same skeleton. -/
theorem get?_eq_some {t t' : AltTree} (same : SameSkeleton t t') {i : Nat} {n' : AltNode}
    (at' : t'.get? i = some n') : ∃ n, t.get? i = some n ∧ n'.skeleton = n.skeleton := by
  have skeleton := same.get?_skeleton i
  rw [at', Option.map_some] at skeleton
  obtain ⟨n, at_, same⟩ := Option.map_eq_some_iff.1 skeleton.symm
  exact ⟨n, at_, same.symm⟩

/-- The skeleton fixes which node lists which as a child. -/
theorem childOf_iff {t t' : AltTree} (same : SameSkeleton t t') {x c : Nat} :
    t'.ChildOf x c ↔ t.ChildOf x c := by
  constructor
  · rintro ⟨n', at', mem⟩
    obtain ⟨n, at_, skeleton⟩ := same.get?_eq_some at'
    exact ⟨n, at_, (AltNode.skeleton_eq_iff.1 skeleton).2.2.1 ▸ mem⟩
  · rintro ⟨n, at_, mem⟩
    obtain ⟨n', at', skeleton⟩ := same.symm.get?_eq_some at_
    exact ⟨n', at', (AltNode.skeleton_eq_iff.1 skeleton).2.2.1 ▸ mem⟩

theorem reaches_iff {t t' : AltTree} (same : SameSkeleton t t') {x y : Nat} :
    t'.Reaches x y ↔ t.Reaches x y := by
  constructor <;> intro below
  · induction below with
    | refl => exact .refl
    | tail _ step above => exact .tail above (same.childOf_iff.1 step)
  · induction below with
    | refl => exact .refl
    | tail _ step above => exact .tail above (same.childOf_iff.2 step)

/-- Every node lying under a root survives every pass that keeps the skeleton. -/
theorem covered {t t' : AltTree} (same : SameSkeleton t t')
    (covered : ∀ i n, t.get? i = some n → ∃ r ∈ t.roots, t.Reaches r i) :
    ∀ i n, t'.get? i = some n → ∃ r ∈ t'.roots, t'.Reaches r i := by
  intro i n' found
  obtain ⟨n, found', -⟩ := same.get?_eq_some found
  obtain ⟨r, root, below⟩ := covered i n found'
  exact ⟨r, same.roots_eq ▸ root, same.reaches_iff.2 below⟩

/-- Names survive every pass that keeps the skeleton. -/
theorem named {t t' : AltTree} (same : SameSkeleton t t')
    (named : ∀ i n, t.get? i = some n → n.uniqueName ≠ "") :
    ∀ i n, t'.get? i = some n → n.uniqueName ≠ "" := by
  intro i n' found
  obtain ⟨n, found', skeleton⟩ := same.get?_eq_some found
  rw [(AltNode.skeleton_eq_iff.1 skeleton).2.2.2]
  exact named i n found'

end SameSkeleton

/-- Being well formed is a property of the skeleton. -/
theorem WellFormed.of_sameSkeleton {t t' : AltTree} (wf : t.WellFormed)
    (same : SameSkeleton t t') : t'.WellFormed where
  slot i n' at' := by
    obtain ⟨n, at_, skel⟩ := same.get?_eq_some at'
    rw [(AltNode.skeleton_eq_iff.1 skel).1]
    exact wf.slot i n at_
  childLink i n' at' c mem := by
    obtain ⟨n, at_, skel⟩ := same.get?_eq_some at'
    rw [(AltNode.skeleton_eq_iff.1 skel).2.2.1] at mem
    obtain ⟨lt, m, atC, up⟩ := wf.childLink i n at_ c mem
    obtain ⟨m', atC', skelC⟩ := same.symm.get?_eq_some atC
    refine ⟨lt, m', atC', ?_⟩
    rw [← (AltNode.skeleton_eq_iff.1 skelC).2.1, up]
  childrenNodup i n' at' := by
    obtain ⟨n, at_, skel⟩ := same.get?_eq_some at'
    rw [(AltNode.skeleton_eq_iff.1 skel).2.2.1]
    exact wf.childrenNodup i n at_
  rootLink r mem := by
    rw [same.roots_eq] at mem
    obtain ⟨n, at_, noParent⟩ := wf.rootLink r mem
    obtain ⟨n', at', skel⟩ := same.symm.get?_eq_some at_
    exact ⟨n', at', by rw [← (AltNode.skeleton_eq_iff.1 skel).2.1, noParent]⟩
  rootsNodup := same.roots_eq ▸ wf.rootsNodup

/-! ### Changing nodes one after another -/

section Changes

variable {β : Type}

section Views

variable (view : AltNode → β)

/-- Changing a node in a way a view does not see keeps that view of every node. -/
theorem get?_modify_view (t : AltTree) (id : Nat) {f : AltNode → AltNode}
    (keeps : ∀ n, view (f n) = view n) (i : Nat) :
    ((t.modify id f).get? i).map view = (t.get? i).map view := by
  rw [get?_modify]
  split
  · rw [Option.map_map]
    exact Option.map_congr fun n _ => keeps n
  · rfl

theorem get?_foldl_view {γ : Type} (g : AltTree → γ → AltTree)
    (keeps : ∀ t x i, ((g t x).get? i).map view = (t.get? i).map view) :
    ∀ (xs : List γ) (t : AltTree) (i : Nat),
      ((xs.foldl g t).get? i).map view = (t.get? i).map view
  | [], _, _ => rfl
  | x :: xs, t, i => (get?_foldl_view g keeps xs (g t x) i).trans (keeps t x i)

end Views

variable (key : β → Nat) (g : β → AltNode → AltNode)

/-- Changing the nodes at the keys of a list leaves a node at no key as it was. -/
theorem get?_foldl_modify_of_not_mem {i : Nat} :
    ∀ (xs : List β) (t : AltTree), (∀ x ∈ xs, key x ≠ i) →
      (xs.foldl (fun t x => t.modify (key x) (g x)) t).get? i = t.get? i
  | [], _, _ => rfl
  | x :: xs, t, away => by
      rw [List.foldl_cons,
        get?_foldl_modify_of_not_mem xs _ fun y mem => away y (List.mem_cons_of_mem x mem),
        get?_modify, if_neg (away x List.mem_cons_self)]

/-- Changing the nodes at the distinct keys of a list changes each once. -/
theorem get?_foldl_modify_of_mem :
    ∀ (xs : List β), (xs.map key).Nodup → ∀ (t : AltTree) x, x ∈ xs →
      (xs.foldl (fun t x => t.modify (key x) (g x)) t).get? (key x) = (t.get? (key x)).map (g x)
  | [], _, _, _, mem => absurd mem List.not_mem_nil
  | y :: xs, distinct, t, x, mem => by
      rw [List.map_cons, List.nodup_cons] at distinct
      obtain ⟨fresh, distinct'⟩ := distinct
      rw [List.foldl_cons]
      rcases List.mem_cons.1 mem with rfl | later
      · -- the first item holds the only change at its key
        rw [get?_foldl_modify_of_not_mem key g xs _
            fun z mem' same => fresh (List.mem_map.2 ⟨z, mem', same⟩),
          get?_modify, if_pos rfl]
      · have differ : key y ≠ key x := fun same =>
          fresh (List.mem_map.2 ⟨x, later, same.symm⟩)
        rw [get?_foldl_modify_of_mem xs distinct' _ x later, get?_modify, if_neg differ]

end Changes

end AltTree

end Handoff
