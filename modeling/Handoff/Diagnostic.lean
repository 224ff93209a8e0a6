/-
Module: Handoff.Diagnostic
Purpose: Recoverable issues met during a run, with their severity and the node they concern.
  A run's issues are reported in traversal order: sorted by node id (ids are given in
  preorder), issues about no node first, ties in the order they were found.
Main exports: Severity, Diagnostic, Diagnostic.warning, sortByNode.
-/

namespace Handoff

/-- How serious an issue is. -/
inductive Severity where
  | info
  | warning
  | error
  | fatal
  deriving DecidableEq, Repr

/-- The lowercase name of a severity. -/
def Severity.name : Severity → String
  | .info => "info"
  | .warning => "warning"
  | .error => "error"
  | .fatal => "fatal"

/-- An issue: its message, severity, and the node it concerns. -/
structure Diagnostic where
  message : String
  severity : Severity
  node : Option Nat

namespace Diagnostic

/-- A warning about a node. -/
def warning (node : Nat) (message : String) : Diagnostic := ⟨message, .warning, some node⟩

/-- The sort key: the node id, or minus one for no node. -/
def key (d : Diagnostic) : Int :=
  match d.node with
  | some n => n
  | none => -1

end Diagnostic

/-- Issues in traversal order, ties kept in the order given. -/
def sortByNode (ds : List Diagnostic) : List Diagnostic :=
  ds.mergeSort fun a b => a.key ≤ b.key

end Handoff
