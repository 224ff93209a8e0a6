/-
Module: Handoff.Conversion
Purpose: A whole run from a design document to framework source. The selection is normalised
  (an empty result is refused), flattenable icon subtrees are marked, every root is annotated
  with the document's variables and vector markup, the answers are written into the tree, and
  the configured target emits the code. The run's warnings are those of normalisation, then
  of each root's annotation, then of emission, put in traversal order. The palette summary
  counts every solid fill and stroke and every gradient stop by colour and bound variable,
  most frequent first, ties in the order first met. A cancelled run stops before any work on
  a visible node. The roots are annotated against the same marked tree, each on its own, and
  one writer then applies their answers root after root.
Main exports: PaletteEntry, paletteSummary, ConversionOutput, BackendKind.target, writeAnswers,
  convert, convertDocument.
-/
import Handoff.Normalize.Pass
import Handoff.Normalize.Vectors
import Handoff.Annotation
import Handoff.Emit.Engine
import Handoff.Target.Html
import Handoff.Target.Tailwind
import Handoff.Target.Flutter
import Handoff.Target.SwiftUi
import Handoff.Target.Compose

namespace Handoff

/-- One distinct colour of a run. -/
structure PaletteEntry where
  /-- Lowercase `#rrggbb`, or `#rrggbbaa` when translucent. -/
  hex : String
  /-- The bound variable's name, if the colour came from one. -/
  variableName : Option String
  occurrences : Nat

/-- Counts one more use of a colour with a variable. -/
def countColor (hex : String) (variableName : Option String) :
    List PaletteEntry → List PaletteEntry
  | [] => [⟨hex, variableName, 1⟩]
  | e :: rest =>
      if e.hex == hex && e.variableName == variableName then
        { e with occurrences := e.occurrences + 1 } :: rest
      else e :: countColor hex variableName rest

/-- The colours a paint contributes: its own colour with its variable, or each stop of a
gradient with the paint's opacity folded in. -/
def paintColors (entry : PaintEntry) : List (String × Option String) :=
  match entry.kind with
  | .solid _ =>
      match entry.solidColor with
      | some c => [(c.toHex, entry.binding.map VariableBinding.name)]
      | none => []
  | .gradient g => g.stops.map fun s => ((s.effectiveColor.withOpacity entry.opacity).toHex, none)
  | .image _ => []

/-- The colours of every fill, stroke and gradient stop, most frequent first; ties keep the
order in which they were first met. -/
def paletteSummary (tree : AltTree) : List PaletteEntry :=
  let counted := tree.roots.foldl (fun acc root =>
    (tree.preorder root).foldl (fun acc id =>
      match tree.get? id with
      | some node =>
          (node.paint.entries.flatMap paintColors).foldl
            (fun acc (hex, v) => countColor hex v acc) acc
      | none => acc) acc) []
  counted.mergeSort fun a b => b.occurrences ≤ a.occurrences

/-- The result of a run. -/
structure ConversionOutput where
  code : String
  /-- Every recoverable issue, in traversal order. -/
  diagnostics : List Diagnostic
  /-- Colours used by the tree, most frequent first. -/
  palette : List PaletteEntry

/-- The target that emits code for a framework. -/
def BackendKind.target : BackendKind → Target
  | .tailwind => Tailwind.target
  | .flutter => Flutter.target
  | .swiftUi => SwiftUi.target
  | .compose => Compose.target
  | .html => Html.target

/-- Writes the answers of each root into the tree, root after root, collecting the warnings
that come with them. -/
def writeAnswers (tree : AltTree) (answers : List (Nat × Annotations)) :
    AltTree × List Diagnostic :=
  answers.foldl (fun (acc : AltTree × List Diagnostic) (root, a) =>
    let (t, ds) := applyAnnotations acc.1 root a
    (t, acc.2 ++ ds)) (tree, [])

/-- A run over a document's selection, with a design tool answering for its variables and
vector markup. -/
def convert (doc : RawDocument) (host : DesignHost Id) (config : RunConfig) (cancelled : Bool) :
    Except Failure ConversionOutput := do
  let (tree, normalizing) ← normalizeRoots doc.nodes cancelled
  if tree.roots.isEmpty then throw .emptySelection
  let tree := classifyVectors tree config.iconSizeThreshold
  if cancelled then throw .cancelled
  let answers := tree.roots.map fun root => (root, Id.run (annotateSubtree tree root host config))
  let (tree, annotating) := writeAnswers tree answers
  let (code, emitting) ←
    (emit config.backend.target ⟨tree, config, Palette.tailwind⟩).mapError .contract
  return ⟨code, sortByNode (normalizing ++ annotating ++ emitting), paletteSummary tree⟩

/-- A run over a document's selection, with the document answering for its variables and
vector markup. -/
def convertDocument (doc : RawDocument) (config : RunConfig) (cancelled : Bool) :
    Except Failure ConversionOutput :=
  convert doc (staticHost doc) config cancelled

end Handoff
