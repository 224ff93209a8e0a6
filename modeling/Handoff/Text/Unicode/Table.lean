/-
Module: Handoff.Text.Unicode.Table
Purpose: Lookup structures for character property tables: a set of code points given by
  sorted disjoint inclusive ranges, a classification by ranges, and a case mapping given
  by runs of code points that move by a common offset (every code point, or every second
  one) together with a short list of one-to-many mappings.
Main exports: Unicode.lastAtMost, Unicode.RangeSet, Unicode.RangeSet.contains,
  Unicode.ClassTable, Unicode.ClassTable.classOf, Unicode.CaseTable, Unicode.CaseTable.apply.
-/
namespace Handoff.Unicode

/-- The index of the last entry whose key is at most `c`, for keys sorted increasingly,
found by halving the window `[lo, hi)`: every entry below `lo` has a key at most `c` and
none from `hi` on has. -/
def lastAtMost (key : Nat → Nat) (c : Nat) : Nat → Nat → Nat → Option Nat
  | 0, lo, _ => if lo = 0 then none else some (lo - 1)
  | fuel + 1, lo, hi =>
      if lo < hi then
        let mid := (lo + hi) / 2
        if key mid ≤ c then lastAtMost key c fuel (mid + 1) hi
        else lastAtMost key c fuel lo mid
      else if lo = 0 then none else some (lo - 1)

/-- A set of code points as sorted, disjoint, inclusive ranges. -/
structure RangeSet where
  ranges : Array (Nat × Nat)

/-- Whether a code point lies in one of the ranges. -/
def RangeSet.contains (s : RangeSet) (c : Nat) : Bool :=
  match lastAtMost (fun i => (s.ranges.getD i (0, 0)).1) c 64 0 s.ranges.size with
  | some i => c ≤ (s.ranges.getD i (0, 0)).2
  | none => false

/-- A classification of code points: sorted, disjoint, inclusive ranges, each with a class
number; code points outside every range have no class. -/
structure ClassTable where
  entries : Array (Nat × Nat × Nat)

/-- The class number of a code point, if it has one. -/
def ClassTable.classOf (t : ClassTable) (c : Nat) : Option Nat :=
  match lastAtMost (fun i => (t.entries.getD i (0, 0, 0)).1) c 64 0 t.entries.size with
  | some i =>
      let (_, hi, k) := t.entries.getD i (0, 0, 0)
      if c ≤ hi then some k else none
  | none => none

/-- A case mapping: runs `(lo, hi, stride, offset)` map each code point `lo + stride * k`
up to `hi` to itself plus `offset`; `many` lists the code points that map to several.
Code points in neither map to themselves. -/
structure CaseTable where
  runs : Array (Nat × Nat × Nat × Int)
  many : Array (Nat × List Nat)

/-- The single-code-point part of a case mapping. -/
def CaseTable.applyRuns (t : CaseTable) (c : Nat) : List Nat :=
  match lastAtMost (fun i => (t.runs.getD i (0, 0, 1, 0)).1) c 64 0 t.runs.size with
  | some i =>
      let (lo, hi, stride, offset) := t.runs.getD i (0, 0, 1, 0)
      if c ≤ hi && (c - lo) % stride == 0 then [((c : Int) + offset).toNat] else [c]
  | none => [c]

/-- The code points a code point maps to. -/
def CaseTable.apply (t : CaseTable) (c : Nat) : List Nat :=
  match lastAtMost (fun i => (t.many.getD i (0, [])).1) c 64 0 t.many.size with
  | some i =>
      let (k, image) := t.many.getD i (0, [])
      if k = c then image else t.applyRuns c
  | none => t.applyRuns c

end Handoff.Unicode
