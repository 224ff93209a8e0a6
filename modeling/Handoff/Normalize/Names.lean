/-
Module: Handoff.Normalize.Names
Purpose: Names unique within a run. A base name is handed out as itself the first time, then
  with `_01`, `_02`, … appended in call order; a candidate already handed out (a node may
  be literally called `Icon_01`) is skipped, so every name handed out is new.
Main exports: UniqueNames, UniqueNames.assign, UniqueNames.assignAll, zeroPadded.
-/

namespace Handoff

/-- A natural with at least two digits, zero padded. -/
def zeroPadded (n : Nat) : String := if n < 10 then "0" ++ Nat.repr n else Nat.repr n

/-- The names handed out so far, and the next suffix tried for each base. -/
structure UniqueNames where
  counters : List (String × Nat)
  used : List String

namespace UniqueNames

/-- No name handed out yet. -/
def empty : UniqueNames := ⟨[], []⟩

/-- The candidate for a base at a counter value. -/
def candidate (base : String) (counter : Nat) : String :=
  if counter == 0 then base else base ++ "_" ++ zeroPadded counter

/-- The first candidate from `counter` on that was not handed out, and the counter after
it; at most `fuel` candidates are tried. -/
def firstFree (used : List String) (base : String) : Nat → Nat → String × Nat
  | 0, counter => (candidate base counter, counter + 1)
  | fuel + 1, counter =>
      let c := candidate base counter
      if used.contains c then firstFree used base fuel (counter + 1) else (c, counter + 1)

/-- Sets the counter of a base. -/
def setCounter (base : String) (n : Nat) : List (String × Nat) → List (String × Nat)
  | [] => [(base, n)]
  | (b, m) :: rest => if b == base then (b, n) :: rest else (b, m) :: setCounter base n rest

/-- Hands out the next unique name for a base. Each skipped candidate was handed out
before, so trying one more candidate than names handed out always finds a new one. -/
def assign (u : UniqueNames) (base : String) : String × UniqueNames :=
  let counter := ((u.counters.find? fun e => e.1 == base).map Prod.snd).getD 0
  let (name, next) := firstFree u.used base (u.used.length + 1) counter
  (name, ⟨setCounter base next u.counters, name :: u.used⟩)

/-- Hands out names for the bases in order. -/
def assignAll (u : UniqueNames) : List String → List String
  | [] => []
  | b :: rest =>
      let (name, u') := u.assign b
      name :: assignAll u' rest

end UniqueNames

end Handoff
