/-
Module: Handoff.Proofs.Tree.Forest
Purpose: The structural check of an arena accepts exactly the arenas whose part reachable from
  the roots is a forest under those roots: every node sits in the slot of its id, every root
  exists and has no parent, every child a reachable node lists exists and names that node, and
  no node is arrived at by two walks down from the roots. A walk is named by its address: the
  position of a root in the list of roots and the child positions taken below it, so a root
  listed twice, or a child listed twice, is arrived at twice.
  One way, the check's walk pops what it pushes: when it succeeds, the nodes it popped are,
  once each, the roots and the children of popped nodes (a census), so every walk arrives at a
  popped node and two walks to one node would list it twice. The other way, the nodes of a
  forest are safe for the walk in the sense of \x60AltTree.WalkSafe\x60.
  In a forest the nodes along one walk are distinct, so no walk is longer than the number of
  nodes, and emission from a root, which goes down one level per step, is done within that
  many steps: more steps give the same output.
Main exports: AltTree.Address, AltTree.arrive, AltTree.Forest, AltTree.Census,
  AltTree.validate_eq_ok_iff, AltTree.Forest.path_length_lt, emitNode_fuel_enough,
  validate_forest_emits.
-/
import Handoff.Proofs.Tree.Arena
import Handoff.Proofs.Emit.Contract
import Handoff.Proofs.Normalize.Vectors

namespace Handoff

namespace AltTree

/-! ### Walks down from the roots -/

/-- The ids a node lists as its children; none for a missing node. -/
def childIds (t : AltTree) (x : Nat) : List Nat :=
  match t.get? x with
  | some n => n.children
  | none => []

/-- Where a walk down from \x60x\x60 arrives when it takes, at each level, the child at the next
position of \x60path\x60. -/
def follow (t : AltTree) (x : Nat) : List Nat → Option Nat
  | [] => some x
  | k :: path => (t.childIds x)[k]?.bind fun c => t.follow c path

/-- A walk down from the roots: the position of the root it starts at, and the child positions
it takes below. -/
structure Address where
  root : Nat
  path : List Nat
  deriving DecidableEq

/-- The walk that goes on from \x60a\x60 along \x60more\x60. -/
def Address.extend (a : Address) (more : List Nat) : Address := ⟨a.root, a.path ++ more⟩

/-- Where the walk at an address arrives. -/
def arrive (t : AltTree) (a : Address) : Option Nat :=
  t.roots[a.root]?.bind fun r => t.follow r a.path

/-- A node some walk down from the roots arrives at. -/
def Reached (t : AltTree) (x : Nat) : Prop := ∃ a, t.arrive a = some x

/-- The part of an arena reachable from its roots is a forest under exactly those roots: nodes
sit in the slots of their ids, roots exist and have no parent, the children a reachable node
lists exist and name it, and no node is arrived at by two walks. -/
structure Forest (t : AltTree) : Prop where
  slot : ∀ i n, t.get? i = some n → n.id = i
  rootLink : ∀ r ∈ t.roots, ∃ n, t.get? r = some n ∧ n.parent = none
  childLink : ∀ x n, t.Reached x → t.get? x = some n → ∀ c ∈ n.children,
    ∃ m, t.get? c = some m ∧ m.parent = some x
  reachedOnce : ∀ a b y, t.arrive a = some y → t.arrive b = some y → a = b

variable {t : AltTree}

theorem childIds_of_get? {x : Nat} {n : AltNode} (found : t.get? x = some n) :
    t.childIds x = n.children := by
  simp [childIds, found]

theorem mem_childIds {x c : Nat} (mem : c ∈ t.childIds x) :
    ∃ n, t.get? x = some n ∧ c ∈ n.children := by
  unfold childIds at mem
  split at mem
  · exact ⟨_, ‹_›, mem⟩
  · cases mem

theorem follow_append (x : Nat) (p q : List Nat) :
    t.follow x (p ++ q) = (t.follow x p).bind fun z => t.follow z q := by
  induction p generalizing x with
  | nil => rfl
  | cons k p ih =>
      simp only [List.cons_append, follow, Option.bind_assoc]
      exact congrArg _ (funext fun c => ih c)

theorem follow_concat (x : Nat) (p : List Nat) (k : Nat) :
    t.follow x (p ++ [k]) = (t.follow x p).bind fun z => (t.childIds z)[k]? := by
  rw [follow_append]
  congr 1
  funext z
  simp [follow]

theorem arrive_extend (a : Address) (more : List Nat) :
    t.arrive (a.extend more) = (t.arrive a).bind fun z => t.follow z more := by
  simp only [arrive, Address.extend, follow_append, Option.bind_assoc]

theorem arrive_root (i : Nat) : t.arrive ⟨i, []⟩ = t.roots[i]? := by
  simp [arrive, follow]

theorem arrive_concat (i : Nat) (p : List Nat) (k : Nat) :
    t.arrive ⟨i, p ++ [k]⟩ = (t.arrive ⟨i, p⟩).bind fun z => (t.childIds z)[k]? := by
  simp only [arrive, follow_concat, Option.bind_assoc]

/-- A walk that arrives somewhere passed through somewhere at each of its prefixes. -/
theorem arrive_take_isSome {a : Address} {y : Nat} (arrived : t.arrive a = some y) (m : Nat) :
    (t.arrive ⟨a.root, a.path.take m⟩).isSome := by
  have whole := arrive_extend (t := t) ⟨a.root, a.path.take m⟩ (a.path.drop m)
  simp only [Address.extend, List.take_append_drop] at whole
  rw [show (⟨a.root, a.path⟩ : Address) = a from rfl, arrived] at whole
  cases before : t.arrive ⟨a.root, a.path.take m⟩ with
  | none => rw [before] at whole; cases whole
  | some z => rfl

/-- Going down through listed children from \x60x\x60 is a walk from \x60x\x60. -/
theorem follow_of_reaches {x z : Nat} (below : t.Reaches x z) : ∃ p, t.follow x p = some z := by
  induction below with
  | refl => exact ⟨[], rfl⟩
  | tail _ step ih =>
      obtain ⟨p, reach⟩ := ih
      obtain ⟨n, found, mem⟩ := step
      obtain ⟨k, atK⟩ := List.mem_iff_getElem?.1 mem
      exact ⟨p ++ [k], by simp [follow_concat, reach, childIds_of_get? found, atK]⟩

/-- A listed child is one step of a walk. -/
theorem follow_of_childOf {x c : Nat} (step : t.ChildOf x c) {p : List Nat} {z : Nat}
    (reach : t.follow c p = some z) : ∃ k, t.follow x (k :: p) = some z ∧
      (t.childIds x)[k]? = some c := by
  obtain ⟨n, found, mem⟩ := step
  obtain ⟨k, atK⟩ := List.mem_iff_getElem?.1 mem
  exact ⟨k, by simp [follow, childIds_of_get? found, atK, reach], by rw [childIds_of_get? found, atK]⟩

/-- Below a reached node, going down through listed children continues its walk. -/
theorem arrive_of_reaches {a : Address} {x z : Nat} (arrived : t.arrive a = some x)
    (below : t.Reaches x z) : ∃ p, t.arrive (a.extend p) = some z := by
  obtain ⟨p, reach⟩ := follow_of_reaches below
  exact ⟨p, by rw [arrive_extend, arrived, Option.bind_some, reach]⟩

/-! ### A forest is safe for the walk -/

namespace Forest

variable (forest : t.Forest)
include forest

/-- Two walks on from one address that arrive at one node took the same way. -/
theorem extend_inj {a : Address} {p q : List Nat} {y : Nat} (first : t.arrive (a.extend p) = some y)
    (second : t.arrive (a.extend q) = some y) : p = q := by
  have same := forest.reachedOnce _ _ y first second
  simp only [Address.extend, Address.mk.injEq, List.append_cancel_left_eq] at same
  exact same.2

theorem get?_of_arrive {a : Address} {x : Nat} (arrived : t.arrive a = some x) :
    ∃ n, t.get? x = some n := by
  obtain ⟨i, path⟩ := a
  rcases List.eq_nil_or_concat path with rfl | ⟨p, k, rfl⟩
  · rw [arrive_root] at arrived
    obtain ⟨n, found, -⟩ := forest.rootLink x (List.mem_of_getElem? arrived)
    exact ⟨n, found⟩
  · -- the walk's last step is from a reached node that lists \x60x\x60
    rw [List.concat_eq_append, arrive_concat] at arrived
    obtain ⟨z, atZ, child⟩ := Option.bind_eq_some_iff.1 arrived
    obtain ⟨n, found, mem⟩ := mem_childIds (List.mem_of_getElem? child)
    obtain ⟨m, foundX, -⟩ := forest.childLink z n ⟨_, atZ⟩ found x mem
    exact ⟨m, foundX⟩

/-- The nodes of a forest are safe for the check's walk. -/
theorem walkSafe : t.WalkSafe t.Reached where
  exists_of _ reached := forest.get?_of_arrive reached.choose_spec
  childLink x n reached found := forest.childLink x n reached found
  closed x c := by
    rintro ⟨a, arrived⟩ step
    obtain ⟨k, -, atK⟩ := follow_of_childOf step (p := []) rfl
    exact ⟨a.extend [k], by simp [arrive_extend, arrived, follow, atK]⟩
  childrenNodup x n := by
    rintro ⟨a, arrived⟩ found
    -- a child listed at two positions is arrived at by two walks
    refine List.nodup_iff_getElem?_ne_getElem?.2 fun i j before bound same => ?_
    have atI := List.getElem?_eq_getElem (Nat.lt_trans before bound)
    have walk : ∀ k c, n.children[k]? = some c → t.arrive (a.extend [k]) = some c :=
      fun k c atK => by simp [arrive_extend, arrived, follow, childIds_of_get? found, atK]
    have := forest.extend_inj (walk i _ atI) (walk j _ (same ▸ atI))
    simp only [List.cons.injEq, and_true] at this
    omega
  siblingsApart x c₁ c₂ := by
    rintro ⟨a, arrived⟩ step₁ step₂ ne z below₁ below₂
    obtain ⟨p₁, reach₁⟩ := follow_of_reaches below₁
    obtain ⟨p₂, reach₂⟩ := follow_of_reaches below₂
    obtain ⟨k₁, walk₁, atK₁⟩ := follow_of_childOf step₁ reach₁
    obtain ⟨k₂, walk₂, atK₂⟩ := follow_of_childOf step₂ reach₂
    have same := forest.extend_inj (a := a) (y := z)
      (by rw [arrive_extend, arrived, Option.bind_some, walk₁])
      (by rw [arrive_extend, arrived, Option.bind_some, walk₂])
    simp only [List.cons.injEq] at same
    rw [same.1, atK₂] at atK₁
    exact ne (Option.some.inj atK₁).symm
  acyclic x c := by
    rintro ⟨a, arrived⟩ step back
    -- going down to a child and back up to \x60x\x60 would be a second walk to \x60x\x60
    obtain ⟨p, reach⟩ := follow_of_reaches back
    obtain ⟨k, walk, -⟩ := follow_of_childOf step reach
    have := forest.extend_inj (a := a) (p := k :: p) (q := [])
      (by rw [arrive_extend, arrived, Option.bind_some, walk])
      (by rw [arrive_extend, arrived, Option.bind_some]; rfl)
    cases this

theorem rootsNodup : t.roots.Nodup := by
  refine List.nodup_iff_getElem?_ne_getElem?.2 fun i j before bound same => ?_
  have atI := List.getElem?_eq_getElem (Nat.lt_trans before bound)
  have := forest.reachedOnce ⟨i, []⟩ ⟨j, []⟩ _ (by rw [arrive_root, atI])
    (by rw [arrive_root, ← same, atI])
  simp only [Address.mk.injEq, and_true] at this
  omega

theorem rootsApart : ∀ r₁ ∈ t.roots, ∀ r₂ ∈ t.roots, r₁ ≠ r₂ → ∀ z,
    t.Reaches r₁ z → ¬t.Reaches r₂ z := by
  intro r₁ root₁ r₂ root₂ ne z below₁ below₂
  obtain ⟨i, atI⟩ := List.mem_iff_getElem?.1 root₁
  obtain ⟨j, atJ⟩ := List.mem_iff_getElem?.1 root₂
  obtain ⟨p, reach₁⟩ := arrive_of_reaches (a := ⟨i, []⟩) (by rw [arrive_root, atI]) below₁
  obtain ⟨q, reach₂⟩ := arrive_of_reaches (a := ⟨j, []⟩) (by rw [arrive_root, atJ]) below₂
  have same := forest.reachedOnce _ _ z reach₁ reach₂
  simp only [Address.extend, Address.mk.injEq] at same
  rw [same.1, atJ] at atI
  exact ne (Option.some.inj atI).symm

/-- An arena whose reachable part is a forest passes its structural check. -/
theorem validate_ok : t.validate = .ok () :=
  validate_ok_of forest.walkSafe forest.slot forest.rootLink forest.rootsNodup forest.rootsApart
    fun r root => by
      obtain ⟨i, atI⟩ := List.mem_iff_getElem?.1 root
      exact ⟨⟨i, []⟩, by rw [arrive_root, atI]⟩

end Forest

/-! ### What a successful check saw -/

/-- A node whose children exist and name it. -/
def LinksDown (t : AltTree) (x : Nat) : Prop :=
  ∃ n, t.get? x = some n ∧ ∀ c ∈ n.children, ∃ m, t.get? c = some m ∧ m.parent = some x

/-- What a walk from \x60stack\x60, after \x60visited\x60, popped: each node of \x60popped\x60 once, none
visited before, each linking down; and the nodes of the stack and the children of popped nodes,
each listed once, are the popped nodes. -/
structure Census (t : AltTree) (stack visited popped : List Nat) : Prop where
  perm : (stack ++ popped.flatMap t.childIds).Perm popped
  nodup : popped.Nodup
  fresh : ∀ p ∈ popped, p ∉ visited
  linksDown : ∀ p ∈ popped, t.LinksDown p

namespace Census

theorem nil (visited : List Nat) : t.Census [] visited [] :=
  ⟨by simp, List.nodup_nil, by simp, by simp⟩

/-- Popping \x60x\x60 and pushing its children. -/
theorem pop {x : Nat} {n : AltNode} {rest visited popped : List Nat} (found : t.get? x = some n)
    (unvisited : x ∉ visited) (links : t.LinksDown x)
    (after : t.Census (n.children.reverse ++ rest) (x :: visited) popped) :
    t.Census (x :: rest) visited (popped ++ [x]) where
  perm := by
    have counts := List.perm_iff_count.1 after.perm
    rw [List.perm_iff_count]
    intro y
    have := counts y
    simp only [List.flatMap_append, List.flatMap_singleton, childIds_of_get? found,
      List.count_append, List.count_cons, List.count_reverse, List.count_nil] at this ⊢
    omega
  nodup := by
    refine List.nodup_append.2 ⟨after.nodup, List.nodup_singleton x, ?_⟩
    intro p mem q same
    rw [List.mem_singleton.1 same]
    rintro rfl
    exact after.fresh p mem List.mem_cons_self
  fresh p mem := by
    rcases List.mem_append.1 mem with old | now
    · exact fun seen => after.fresh p old (List.mem_cons_of_mem _ seen)
    · rw [List.mem_singleton.1 now]
      exact unvisited
  linksDown p mem := by
    rcases List.mem_append.1 mem with old | now
    · exact after.linksDown p old
    · rw [List.mem_singleton.1 now]
      exact links

/-- One root's walk, then the walks of the roots after it. -/
theorem cons {r : Nat} {roots visited first later : List Nat}
    (walk : t.Census [r] visited first) (rest : t.Census roots (first ++ visited) later) :
    t.Census (r :: roots) visited (later ++ first) where
  perm := by
    have counts₁ := List.perm_iff_count.1 walk.perm
    have counts₂ := List.perm_iff_count.1 rest.perm
    rw [List.perm_iff_count]
    intro y
    have := counts₁ y
    have := counts₂ y
    simp only [List.flatMap_append, List.count_append, List.count_cons, List.cons_append,
      List.nil_append] at *
    omega
  nodup := by
    refine List.nodup_append.2 ⟨rest.nodup, walk.nodup, ?_⟩
    rintro p mem q seen rfl
    exact rest.fresh p mem (List.mem_append_left _ seen)
  fresh p mem := by
    rcases List.mem_append.1 mem with now | old
    · exact fun seen => rest.fresh p now (List.mem_append_right _ seen)
    · exact walk.fresh p old
  linksDown p mem := by
    rcases List.mem_append.1 mem with now | old
    · exact rest.linksDown p now
    · exact walk.linksDown p old

variable {stack visited popped : List Nat} (census : t.Census stack visited popped)
include census

theorem mem_of_stack {x : Nat} (mem : x ∈ stack) : x ∈ popped :=
  census.perm.subset (List.mem_append_left _ mem)

theorem mem_of_child {x c : Nat} (popped_x : x ∈ popped) (child : c ∈ t.childIds x) :
    c ∈ popped :=
  census.perm.subset (List.mem_append_right _ (List.mem_flatMap.2 ⟨x, popped_x, child⟩))

/-- Every walk from a popped node arrives at a popped node. -/
theorem mem_of_follow {x : Nat} (popped_x : x ∈ popped) :
    ∀ {path : List Nat} {y : Nat}, t.follow x path = some y → y ∈ popped := by
  intro path
  induction path using List.reverseRecOn with
  | nil => intro y reach; cases reach; exact popped_x
  | append_singleton path k ih =>
      intro y reach
      rw [follow_concat] at reach
      obtain ⟨z, atZ, child⟩ := Option.bind_eq_some_iff.1 reach
      exact census.mem_of_child (ih atZ) (List.mem_of_getElem? child)

/-- The stack and the children of popped nodes list no node twice. -/
theorem listed_nodup : (stack ++ popped.flatMap t.childIds).Nodup :=
  census.perm.nodup_iff.2 census.nodup

end Census

/-- The walk from the roots popped every node a walk arrives at. -/
theorem Census.mem_of_arrive {visited popped : List Nat} (census : t.Census t.roots visited popped)
    {a : Address} {y : Nat} (arrived : t.arrive a = some y) : y ∈ popped := by
  obtain ⟨r, atR, reach⟩ := Option.bind_eq_some_iff.1 arrived
  exact census.mem_of_follow (census.mem_of_stack (List.mem_of_getElem? atR)) reach

/-- No root is listed as the child of a node a walk arrives at. -/
theorem Census.root_not_child {visited popped : List Nat} (census : t.Census t.roots visited popped)
    {i y z k : Nat} {a : Address} (root : t.roots[i]? = some y) (atZ : t.arrive a = some z)
    (child : (t.childIds z)[k]? = some y) : False :=
  List.disjoint_of_nodup_append census.listed_nodup (List.mem_of_getElem? root)
    (List.mem_flatMap.2 ⟨z, census.mem_of_arrive atZ, List.mem_of_getElem? child⟩)

/-- A node is listed as a child once: by one node walks arrive at, at one position. -/
theorem Census.child_listed_once {visited popped : List Nat}
    (census : t.Census t.roots visited popped) {a b : Address} {z z' k k' y : Nat}
    (atZ : t.arrive a = some z) (atZ' : t.arrive b = some z')
    (child : (t.childIds z)[k]? = some y) (child' : (t.childIds z')[k']? = some y) :
    z = z' ∧ k = k' := by
  obtain ⟨childrenNodup, childrenApart⟩ :=
    List.nodup_flatMap.1 (List.Nodup.of_append_right census.listed_nodup)
  -- two distinct popped nodes list disjoint children
  have sameParent : z = z' := by
    by_contra differ
    have : Std.Symm (Function.onFun List.Disjoint t.childIds) := ⟨fun _ _ apart => apart.symm⟩
    exact childrenApart.forall (census.mem_of_arrive atZ) (census.mem_of_arrive atZ') differ
      (List.mem_of_getElem? child) (List.mem_of_getElem? child')
  subst sameParent
  exact ⟨rfl, (List.getElem?_inj (List.getElem?_eq_some_iff.1 child).1
    (childrenNodup z (census.mem_of_arrive atZ))).1 (child.trans child'.symm)⟩

/-- Each node the walk from the roots popped was listed once, as a root or as a child, so no
two walks arrive at it: the last steps of two walks to one node come from one listing of it. -/
theorem Census.reachedOnce {visited popped : List Nat} (census : t.Census t.roots visited popped) :
    ∀ a b y, t.arrive a = some y → t.arrive b = some y → a = b := by
  rintro ⟨i, p⟩ ⟨j, q⟩
  -- on the first walk from its last step up, splitting the second at its last step
  induction p using List.reverseRecOn generalizing j q with
  | nil =>
      intro y first second
      rw [arrive_root] at first
      rcases List.eq_nil_or_concat q with rfl | ⟨q, k, rfl⟩
      · -- two roots: the same position
        rw [arrive_root] at second
        have := (List.getElem?_inj (List.getElem?_eq_some_iff.1 first).1
          (List.Nodup.of_append_left census.listed_nodup)).1 (first.trans second.symm)
        rw [this]
      · rw [List.concat_eq_append, arrive_concat] at second
        obtain ⟨z, atZ, child⟩ := Option.bind_eq_some_iff.1 second
        exact (census.root_not_child first atZ child).elim
  | append_singleton p k ih =>
      intro y first second
      rw [arrive_concat] at first
      obtain ⟨z, atZ, child⟩ := Option.bind_eq_some_iff.1 first
      rcases List.eq_nil_or_concat q with rfl | ⟨q, k', rfl⟩
      · rw [arrive_root] at second
        exact (census.root_not_child second atZ child).elim
      · rw [List.concat_eq_append, arrive_concat] at second
        obtain ⟨z', atZ', child'⟩ := Option.bind_eq_some_iff.1 second
        obtain ⟨rfl, rfl⟩ := census.child_listed_once atZ atZ' child child'
        have := ih j q z atZ atZ'
        simp only [Address.mk.injEq] at this ⊢
        exact ⟨this.1, by rw [this.2, List.concat_eq_append]⟩

/-! ### The check's walk takes a census -/

theorem exists_of_bind_eq_ok {ε α β : Type} {x : Except ε α} {f : α → Except ε β} {b : β}
    (h : (x >>= f) = .ok b) : ∃ a, x = .ok a ∧ f a = .ok b := by
  cases x with
  | error e => cases h
  | ok a => exact ⟨a, rfl, h⟩

/-- A fold in `Except` each of whose steps, when it succeeds, pushes its element, after
checking it, pushes them all, each checked. -/
theorem foldlM_pushes_of_ok {ε : Type} {f : List Nat → Nat → Except ε (List Nat)} {P : Nat → Prop}
    (step : ∀ stack c stack', f stack c = .ok stack' → stack' = c :: stack ∧ P c) :
    ∀ {cs stack stack' : List Nat}, cs.foldlM f stack = .ok stack' →
      stack' = cs.reverse ++ stack ∧ ∀ c ∈ cs, P c
  | [], stack, stack', pushed => by
      cases pushed
      exact ⟨rfl, by simp⟩
  | c :: cs, stack, stack', pushed => by
      rw [List.foldlM_cons] at pushed
      obtain ⟨middle, first, rest⟩ := exists_of_bind_eq_ok pushed
      obtain ⟨rfl, checked⟩ := step stack c middle first
      obtain ⟨rfl, restChecked⟩ := foldlM_pushes_of_ok step rest
      refine ⟨by simp, fun c' mem => ?_⟩
      rcases List.mem_cons.1 mem with rfl | later
      · exact checked
      · exact restChecked c' later

/-- A successful walk popped, after what it had visited, a census of its stack. -/
theorem validateWalk_census : ∀ {fuel : Nat} {stack visited visited' : List Nat},
    t.validateWalk fuel stack visited = .ok visited' →
      ∃ popped, visited' = popped ++ visited ∧ t.Census stack visited popped
  | fuel, [], visited, visited', walk => by
      have done : visited' = visited := by
        cases fuel <;> (simp only [validateWalk] at walk; cases walk; rfl)
      exact ⟨[], done, Census.nil visited⟩
  | 0, x :: _, _, _, walk => by
      simp only [validateWalk] at walk
      cases walk
  | fuel + 1, x :: rest, visited, visited', walk => by
      simp only [validateWalk, List.contains_iff_mem] at walk
      split at walk
      · cases walk
      next unvisited =>
        split at walk
        · cases walk
        next n found =>
          -- the children are checked and pushed, then the walk goes on from them
          obtain ⟨stack', pushed, walk⟩ := exists_of_bind_eq_ok walk
          obtain ⟨rfl, linked⟩ := foldlM_pushes_of_ok (P := fun c =>
              ∃ m, t.get? c = some m ∧ m.parent = some x) (fun stack c stack' checked => by
            split at checked
            · cases checked
            · split at checked
              · next m foundC up =>
                cases checked
                exact ⟨rfl, m, foundC, by simpa using up⟩
              · cases checked) pushed
          obtain ⟨popped, rfl, census⟩ := validateWalk_census walk
          exact ⟨popped ++ [x], by simp, census.pop found unvisited ⟨n, found, linked⟩⟩

/-- A successful fold of root walks checked every root and popped a census of the roots. -/
theorem foldlM_roots_census {ε : Type} {f : List Nat → Nat → Except ε (List Nat)}
    (step : ∀ visited r visited', f visited r = .ok visited' →
      (∃ n, t.get? r = some n ∧ n.parent = none) ∧
        ∃ popped, visited' = popped ++ visited ∧ t.Census [r] visited popped) :
    ∀ {roots visited final : List Nat}, roots.foldlM f visited = .ok final →
      (∀ r ∈ roots, ∃ n, t.get? r = some n ∧ n.parent = none) ∧
        ∃ popped, final = popped ++ visited ∧ t.Census roots visited popped
  | [], visited, final, walks => by
      cases walks
      exact ⟨by simp, [], rfl, Census.nil visited⟩
  | r :: roots, visited, final, walks => by
      rw [List.foldlM_cons] at walks
      obtain ⟨middle, first, rest⟩ := exists_of_bind_eq_ok walks
      obtain ⟨root, popped, rfl, census⟩ := step visited r middle first
      obtain ⟨roots', later, rfl, census'⟩ := foldlM_roots_census step rest
      refine ⟨fun r' mem => ?_, later ++ popped, by simp, census.cons census'⟩
      rcases List.mem_cons.1 mem with rfl | other
      · exact root
      · exact roots' r' other

/-- What a passing check saw: nodes in their slots, roots that exist without a parent, and a
census of the roots. -/
theorem validate_census (ok : t.validate = .ok ()) :
    (∀ i n, t.get? i = some n → n.id = i) ∧
      (∀ r ∈ t.roots, ∃ n, t.get? r = some n ∧ n.parent = none) ∧
      ∃ popped, t.Census t.roots [] popped := by
  simp only [validate] at ok
  split at ok
  · cases ok
  next placed =>
    have slot : ∀ i n, t.get? i = some n → n.id = i := by
      intro i n found
      have listed : (n, i) ∈ t.nodes.toList.zipIdx :=
        List.mem_zipIdx_iff_getElem?.2 (by simpa [get?] using found)
      simpa using List.find?_eq_none.1 placed _ listed
    obtain ⟨final, walks, -⟩ := exists_of_bind_eq_ok ok
    obtain ⟨roots, popped, -, census⟩ := foldlM_roots_census (fun visited r visited' walk => by
      split at walk
      · cases walk
      · next n found =>
        split at walk
        · cases walk
        · next noParent =>
          exact ⟨⟨n, found, by simpa using noParent⟩, validateWalk_census walk⟩) walks
    exact ⟨slot, roots, popped, census⟩

/-- An arena passes its structural check exactly when its part reachable from the roots is a
forest under those roots. -/
theorem validate_eq_ok_iff : t.validate = .ok () ↔ t.Forest := by
  constructor
  · intro ok
    obtain ⟨slot, rootLink, popped, census⟩ := validate_census ok
    refine ⟨slot, rootLink, fun x n reached found => ?_, census.reachedOnce⟩
    -- a reached node was popped, and the walk checked the children of what it popped
    obtain ⟨a, arrived⟩ := reached
    obtain ⟨n', found', links⟩ := census.linksDown x (census.mem_of_arrive arrived)
    rw [found] at found'
    cases found'
    exact links
  · exact fun forest => forest.validate_ok

/-! ### How deep a forest goes -/

/-- In a forest no walk from a root is as long as the number of nodes: the nodes it passes
through, one per prefix of its path, are distinct. -/
theorem Forest.path_length_lt (forest : t.Forest) {a : Address} {y : Nat}
    (arrived : t.arrive a = some y) : a.path.length < t.nodes.size := by
  have passes : ∀ m, ∃ z, t.arrive ⟨a.root, a.path.take m⟩ = some z := fun m =>
    Option.isSome_iff_exists.1 (arrive_take_isSome arrived m)
  choose through arrives using passes
  have distinct : ((List.range (a.path.length + 1)).map through).Nodup := by
    refine List.Nodup.map_on (fun m mem m' mem' same => ?_) List.nodup_range
    -- two prefixes through one node are one prefix
    have prefixes := forest.reachedOnce _ _ _ (arrives m) (same ▸ arrives m')
    simp only [Address.mk.injEq, true_and] at prefixes
    have lengths := congrArg List.length prefixes
    simp only [List.length_take, List.mem_range] at lengths mem mem'
    omega
  have bound : ∀ z ∈ (List.range (a.path.length + 1)).map through, z < t.nodes.size := by
    simp only [List.mem_map]
    rintro z ⟨m, -, rfl⟩
    obtain ⟨n, found⟩ := forest.get?_of_arrive (arrives m)
    exact lt_size_of_get? found
  have := length_le_of_nodup distinct bound
  simp only [List.length_map, List.length_range] at this
  omega

end AltTree

/-! ### Emission goes no deeper than the walks -/

/-- Two steps that give the same in a scene, each followed by steps that give the same there. -/
theorem Emit.bind_congr_at {α β : Type} {scene : Scene} {m m' : Emit α} {k k' : α → Emit β}
    (first : m scene = m' scene) (rest : ∀ a, k a scene = k' a scene) :
    (m >>= k) scene = (m' >>= k') scene := by
  show (m scene >>= fun a => k a scene) = (m' scene >>= fun a => k' a scene)
  rw [first]
  exact congrArg _ (funext rest)

theorem Emit.filterMapM_congr_at {γ β : Type} {scene : Scene} {f g : γ → Emit (Option β)}
    {xs : List γ} (same : ∀ x ∈ xs, f x scene = g x scene) :
    xs.filterMapM f scene = xs.filterMapM g scene := by
  -- the loop behind \x60filterMapM\x60, from any list kept so far
  suffices loop : ∀ kept, List.filterMapM.loop f xs kept scene =
      List.filterMapM.loop g xs kept scene from loop []
  induction xs with
  | nil => exact fun kept => rfl
  | cons x rest ih =>
      have later : ∀ y ∈ rest, f y scene = g y scene := fun y mem =>
        same y (List.mem_cons_of_mem _ mem)
      intro kept
      refine Emit.bind_congr_at (same x List.mem_cons_self) fun found => ?_
      cases found with
      | none => exact ih later kept
      | some b => exact ih later (b :: kept)

/-- Emitting a node with more steps than any walk below it to a node is long gives what it gives
with just those steps. The induction is on the steps; a container emits each child with one
step less, and every walk below a child is one step shorter than the walk through it. -/
theorem emitNode_fuel_enough (target : Target) (scene : Scene) :
    ∀ (fuel x : Nat), (∀ p z n, scene.tree.follow x p = some z → scene.tree.get? z = some n →
      p.length < fuel) → ∀ k, emitNode target (fuel + k) x scene = emitNode target fuel x scene
  | 0, x, deep, k => by
      -- no walk of no steps arrives at a node, so `x` is missing
      have missing : scene.tree.get? x = none := by
        cases found : scene.tree.get? x with
        | none => rfl
        | some n => exact absurd (deep [] x n rfl found) (Nat.lt_irrefl 0)
      cases k with
      | zero => rfl
      | succ k =>
          rw [Nat.zero_add, emitNode.eq_2, Emit.read_bind]
          simp only [missing]
          rfl
  | fuel + 1, x, deep, k => by
      have children : ∀ n, scene.tree.get? x = some n → ∀ c ∈ n.children,
          emitNode target (fuel + k) c scene = emitNode target fuel c scene := by
        intro n found c mem
        refine emitNode_fuel_enough target scene fuel c (fun p z m reach found' => ?_) k
        obtain ⟨i, atI⟩ := List.mem_iff_getElem?.1 mem
        have := deep (i :: p) z m (by
          simp [AltTree.follow, AltTree.childIds_of_get? found, atI, reach]) found'
        simpa using this
      rw [show fuel + 1 + k = fuel + k + 1 by omega, emitNode, emitNode, Emit.read_bind,
        Emit.read_bind]
      cases found : scene.tree.get? x with
      | none => rfl
      | some n =>
        simp only
        -- only a container's children are emitted, each with one step less
        split
        · rfl
        · cases n.kind
          case container =>
            simp only
            refine Emit.bind_congr_at (Emit.filterMapM_congr_at fun c mem => ?_) fun _ => rfl
            exact Emit.bind_congr_at (children n found c mem) fun _ => rfl
          all_goals simp only

/-! ### The check and emission -/

/-- The structural check accepts exactly the arenas whose part reachable from the roots is a
forest under those roots; and on an arena it accepts no walk from a root is as long as the
number of nodes, so emitting a root with that many steps gives what any more steps give. -/
theorem validate_forest_emits (t : AltTree) :
    (t.validate = .ok () ↔ t.Forest) ∧
      (t.validate = .ok () →
        (∀ a y, t.arrive a = some y → a.path.length < t.nodes.size) ∧
        ∀ (target : Target) (scene : Scene), scene.tree = t → ∀ r ∈ t.roots, ∀ k,
          emitNode target (t.nodes.size + k) r scene = emitNode target t.nodes.size r scene) := by
  refine ⟨AltTree.validate_eq_ok_iff, fun ok => ?_⟩
  have forest := AltTree.validate_eq_ok_iff.1 ok
  refine ⟨fun a y arrived => forest.path_length_lt arrived,
    fun target scene tree r root k => ?_⟩
  subst tree
  obtain ⟨i, atI⟩ := List.mem_iff_getElem?.1 root
  refine emitNode_fuel_enough target scene _ r (fun p z n reach _ => ?_) k
  -- a walk down from a root is a walk from the roots
  exact forest.path_length_lt (a := ⟨i, p⟩) (y := z) (by simp [AltTree.arrive, atI, reach])

/-- An icon whose frame, its root, has a larger id than the path under it passes the check, so
its walks are shorter than its two nodes and its emission is done within two steps. -/
theorem pathFirstIcon_forest_emits :
    pathFirstIcon.validate = .ok () ∧
      ((∀ a y, pathFirstIcon.arrive a = some y → a.path.length < 2) ∧
        ∀ (target : Target) (scene : Scene), scene.tree = pathFirstIcon →
          ∀ r ∈ pathFirstIcon.roots, ∀ k, emitNode target (2 + k) r scene = emitNode target 2 r scene) := by
  have ok : pathFirstIcon.validate = .ok () := rfl
  exact ⟨ok, (validate_forest_emits pathFirstIcon).2 ok⟩

end Handoff
