/-
Module: Handoff.Annotation
Purpose: What the design tool answers about a normalised subtree, and writing those answers
  into the tree. The tool is asked in a monad, since its answers arrive asynchronously; the
  answers come back in the order of the questions, however long each takes. Each variable id
  bound in the subtree is asked once, in the order of first use (preorder, fills before
  strokes), and a failure is reported at the first node using it. Markup is asked for the
  flattenable nodes whose parent is not flattenable; their descendants draw from it.
  Applying binds every paint whose variable resolved, with the paint's own solid colour (or
  the variable's value) as the fallback, and stores the exported markup on its node. The
  tool of a document answers from the document itself: its variables by id and its exported
  vector markup by node id.
Main exports: ResolvedVariable, HostError, DesignHost, staticHost, Annotations, variableRefs,
  vectorRoots, exportTargets, unresolvedWarning, exportFailedWarning, collectAnswers,
  annotateSubtree, AltNode.bindPaints, applyAnnotations.
-/
import Handoff.Tree.Arena
import Handoff.Design.Raw
import Handoff.Config
import Handoff.Diagnostic

namespace Handoff

/-- A variable as the tool resolves it: its symbolic name and literal value. -/
structure ResolvedVariable where
  name : String
  value : Color

/-- Why the design tool could not answer. -/
inductive HostError where
  | notFound (id : String)
  | unavailable (reason : String)
  | failed (reason : String)

/-- The text of a failure, as it appears in warnings. -/
def HostError.message : HostError → String
  | .notFound id => "'" ++ id ++ "' not found"
  | .unavailable reason => "host unavailable: " ++ reason
  | .failed reason => reason

/-- The design tool, answering in a monad `m`: a variable by id, and the markup of the subtree
under a node by the node's id in the tool. -/
structure DesignHost (m : Type → Type) where
  resolveVariable : String → m (Except HostError ResolvedVariable)
  exportVectorMarkup : String → m (Except HostError String)

/-- The tool's answers for one subtree. -/
structure Annotations where
  /-- Resolved variables, by variable id. -/
  resolved : List (String × ResolvedVariable)
  /-- Exported markup, by node id. -/
  vectors : List (Nat × String)
  /-- Failures met while asking. -/
  diagnostics : List Diagnostic

/-- Looks a key up in a table with one entry per key. -/
def lookupKey {α : Type} (key : String) (table : List (String × α)) : Option α :=
  (table.find? fun e => e.1 == key).map Prod.snd

/-- The tool of a document: it answers from the document's variables and exported markup, and
finds nothing else. -/
def staticHost (doc : RawDocument) : DesignHost Id where
  resolveVariable id :=
    match lookupKey id doc.variableTable with
    | some raw => .ok ⟨raw.name, raw.value⟩
    | none => .error (.notFound id)
  exportVectorMarkup sourceId :=
    match lookupKey sourceId doc.vectorMarkup with
    | some markup => .ok markup
    | none => .error (.notFound sourceId)

/-- Adds a key with a value unless the key is present. -/
def insertFirst {α : Type} (key : String) (value : α) (table : List (String × α)) :
    List (String × α) :=
  if table.any (fun e => e.1 == key) then table else table ++ [(key, value)]

/-- The variable ids bound in the nodes of `order`, each with the first node binding it. -/
def variableRefs (tree : AltTree) (order : List Nat) : List (String × Nat) :=
  order.foldl (fun refs id =>
    match tree.get? id with
    | some node =>
        node.paint.entries.foldl (fun refs entry =>
          match entry.variableRef with
          | some v => insertFirst v id refs
          | none => refs) refs
    | none => refs) []

/-- The flattenable nodes of `order` whose parent is not flattenable. -/
def vectorRoots (tree : AltTree) (order : List Nat) : List Nat :=
  order.filter fun id =>
    match tree.get? id with
    | some node =>
        node.canFlattenToVector &&
          !((tree.parentOf id).map AltNode.canFlattenToVector).getD false
    | none => false

/-- The nodes to export from `order`, each with its node: the flattenable ones whose parent is
not flattenable. -/
def exportTargets (tree : AltTree) (order : List Nat) : List (Nat × AltNode) :=
  (vectorRoots tree order).filterMap fun id => (tree.get? id).map fun node => (id, node)

/-- The warning for a variable the tool could not resolve, at the first node using it. -/
def unresolvedWarning (var : String) (node : Nat) (e : HostError) : Diagnostic :=
  Diagnostic.warning node
    ("could not resolve variable " ++ var ++ ": " ++ e.message ++ "; using the literal color")

/-- The warning for a node whose markup the tool could not export. -/
def exportFailedWarning (id : Nat) (node : AltNode) (e : HostError) : Diagnostic :=
  Diagnostic.warning id ("vector export failed for '" ++ node.name ++ "': " ++ e.message)

/-- The answers of the tool gathered into one subtree's annotations: the variables that
resolved, the markup that was exported, and a warning for each failure, lookups first, each at
the node its question came from. -/
def collectAnswers (lookups : List (String × Nat × Except HostError ResolvedVariable))
    (exports : List (Nat × AltNode × Except HostError String)) : Annotations where
  resolved := lookups.filterMap fun (var, _, answer) =>
    match answer with
    | .ok resolved => some (var, resolved)
    | .error _ => none
  vectors := exports.filterMap fun (id, _, answer) =>
    match answer with
    | .ok markup => some (id, markup)
    | .error _ => none
  diagnostics :=
    lookups.filterMap (fun (var, node, answer) =>
      match answer with
      | .ok _ => none
      | .error e => some (unresolvedWarning var node e)) ++
    exports.filterMap fun (id, node, answer) =>
      match answer with
      | .ok _ => none
      | .error e => some (exportFailedWarning id node e)

/-- The tool's answers for the subtree under `root`: its variables when they are used, then
the markup of its vector subtrees when they are embedded. -/
def annotateSubtree {m : Type → Type} [Monad m] (tree : AltTree) (root : Nat)
    (host : DesignHost m) (config : RunConfig) : m Annotations := do
  let order := tree.preorder root
  let lookups ←
    if config.useVariables then
      (variableRefs tree order).mapM fun (var, node) => do
        return (var, node, ← host.resolveVariable var)
    else pure []
  let exports ←
    if config.embedVectors then
      (exportTargets tree order).mapM fun (id, node) => do
        return (id, node, ← host.exportVectorMarkup node.sourceId)
    else pure []
  return collectAnswers lookups exports

/-- A paint with its resolved variable bound. -/
def bindPaint (table : List (String × ResolvedVariable)) (entry : PaintEntry) : PaintEntry :=
  match entry.variableRef.bind (lookupKey · table) with
  | some resolved =>
      let fallback := (entry.solidColor.getD resolved.value).toHex
      { entry with binding := some ⟨resolved.name, fallback⟩ }
  | none => entry

/-- A node with every paint whose variable resolved bound. -/
def AltNode.bindPaints (table : List (String × ResolvedVariable)) (n : AltNode) : AltNode :=
  { n with paint := ⟨n.paint.fills.map (bindPaint table), n.paint.strokes.map (bindPaint table)⟩ }

/-- The tree with one subtree's answers written in, and the failures to report. -/
def applyAnnotations (tree : AltTree) (root : Nat) (a : Annotations) :
    AltTree × List Diagnostic :=
  let tree :=
    if a.resolved.isEmpty then tree
    else (tree.preorder root).foldl (fun t id => t.modify id (AltNode.bindPaints a.resolved)) tree
  let tree := a.vectors.foldl (fun t (id, markup) =>
    t.modify id fun n => { n with embeddedVectorMarkup := some markup }) tree
  (tree, a.diagnostics)

end Handoff
