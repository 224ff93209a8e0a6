/-
Module: Handoff.Tree.Arena
Purpose: The nodes of one run in an array indexed by id, with the roots listed. A node is
  inserted under its parent (or as a root) and takes the next id, so ids follow the order
  of insertion, which the normaliser makes a preorder.
  Consumers check the structure first: ids match their slots, roots have no parent, links
  are mutual, and the walk from the roots meets no node twice.
Main exports: AltTree, AltTree.insert, AltTree.get?, AltTree.modify, AltTree.preorder,
  AltTree.parentOf, ContractError, AltTree.validate.
-/
import Handoff.Tree.Node

namespace Handoff

/-- A broken promise of the tree's structure: a defect upstream, never a bad design. -/
inductive ContractError where
  | cycleDetected (id : Nat)
  | danglingNode (id : Nat)
  | misplacedNode (id slot : Nat)
  | rootHasParent (id : Nat)
  | brokenParentLink (id expected : Nat)
  /-- Emission was asked for a tree whose nodes are not all named. -/
  | notNormalized
  deriving DecidableEq, Repr

/-- The message of a broken promise; node ids print as `#n`. -/
def ContractError.message : ContractError → String
  | .cycleDetected id => "cycle detected at node #" ++ Nat.repr id
  | .danglingNode id => "node #" ++ Nat.repr id ++ " is referenced but not in the tree"
  | .misplacedNode id slot => "node #" ++ Nat.repr id ++ " is stored in slot " ++ Nat.repr slot
  | .rootHasParent id => "root #" ++ Nat.repr id ++ " has a parent"
  | .brokenParentLink id expected =>
      "node #" ++ Nat.repr id ++ " does not point back at its parent #" ++ Nat.repr expected
  | .notNormalized => "emission requested for a tree that was not normalized"

/-- The nodes of a run and its roots. -/
structure AltTree where
  nodes : Array AltNode
  roots : List Nat

namespace AltTree

/-- The tree without nodes. -/
def empty : AltTree := ⟨#[], []⟩

/-- The id the next insertion takes. -/
def nextId (t : AltTree) : Nat := t.nodes.size

/-- The node with an id. -/
def get? (t : AltTree) (id : Nat) : Option AltNode := t.nodes[id]?

/-- Changes the node with an id (nothing when there is none). -/
def modify (t : AltTree) (id : Nat) (f : AltNode → AltNode) : AltTree :=
  { t with nodes := t.nodes.modify id f }

/-- Appends a node under `parent`, or as a root, giving it the next id and no children. -/
def insert (t : AltTree) (node : AltNode) (parent : Option Nat) : AltTree :=
  let id := t.nextId
  let node := { node with id := id, parent := parent, children := [] }
  let t := { t with nodes := t.nodes.push node }
  match parent with
  | some p => t.modify p fun n => { n with children := n.children ++ [id] }
  | none => { t with roots := t.roots ++ [id] }

/-- The parent of a node. -/
def parentOf (t : AltTree) (id : Nat) : Option AltNode := do
  let n ← t.get? id
  let p ← n.parent
  t.get? p

/-- The children of a node, in paint order. -/
def childrenOf (t : AltTree) (id : Nat) : List AltNode :=
  match t.get? id with
  | some n => n.children.filterMap t.get?
  | none => []

/-- The ids of the subtree under `root` in preorder, at most `fuel` levels deep. -/
def preorderFrom (t : AltTree) : Nat → Nat → List Nat
  | 0, _ => []
  | fuel + 1, id =>
      match t.get? id with
      | some n => id :: n.children.flatMap (preorderFrom t fuel)
      | none => []

/-- The ids of the subtree under `root` in preorder. Children have larger ids than their
parent, so no path is longer than the number of nodes. -/
def preorder (t : AltTree) (root : Nat) : List Nat := preorderFrom t (t.nodes.size + 1) root

/-- The walk of `validate` over the ids on `stack` (the last pushed on top), with the ids
visited so far: a visited id again is a cycle, each child must exist and name its parent.
Every step visits an id of the tree not visited before or fails, so one more step than there
are nodes is never needed. -/
def validateWalk (t : AltTree) : Nat → List Nat → List Nat → Except ContractError (List Nat)
  | _, [], visited => .ok visited
  | 0, id :: _, _ => .error (.cycleDetected id)
  | fuel + 1, id :: stack, visited =>
      if visited.contains id then .error (.cycleDetected id)
      else
        match t.get? id with
        | none => .error (.danglingNode id)
        | some node => do
            let stack ← node.children.foldlM (fun stack child =>
              match t.get? child with
              | none => .error (.danglingNode child)
              | some c =>
                  if c.parent == some id then .ok (child :: stack)
                  else .error (.brokenParentLink child id)) stack
            validateWalk t fuel stack (id :: visited)

/-- The structural promises every consumer relies on: ids match their slots, every root exists
and has no parent, links are mutual, and no node is reached twice from the roots. -/
def validate (t : AltTree) : Except ContractError Unit := do
  match t.nodes.toList.zipIdx.find? (fun (n, slot) => n.id != slot) with
  | some (n, slot) => throw (.misplacedNode n.id slot)
  | none => pure ()
  let _ ← t.roots.foldlM (fun visited root =>
    match t.get? root with
    | none => .error (.danglingNode root)
    | some node =>
        if node.parent.isSome then .error (.rootHasParent root)
        else t.validateWalk (t.nodes.size + 1) [root] visited) []

end AltTree

end Handoff
