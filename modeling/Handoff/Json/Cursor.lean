/-
Module: Handoff.Json.Cursor
Purpose: The reader's state and its elementary steps: a cursor over the UTF-8 bytes of a
  text with the nesting levels still allowed, peeking and consuming bytes, skipping
  blanks, and placing errors. An error is placed either at the cursor or one byte past it
  (where a peeked byte would end); a place is the line (one more than the line feeds
  before it) and the byte column (bytes since the last line feed).
Main exports: Json.Cursor, Json.Reader, Json.Cursor.positionOf, Json.Reader.peek,
  Json.Reader.eat, Json.Reader.skipBlanks, Json.Reader.fail, Json.Reader.failPeek,
  Json.Reader.place, Json.Reader.expectWord.
-/
import Handoff.Json.Error

namespace Handoff.Json

/-- The reader's state: the bytes, the next index, and the nesting levels still allowed. -/
structure Cursor where
  bytes : ByteArray
  index : Nat
  depth : Nat

/-- Nesting levels a text may open. -/
def nestingLimit : Nat := 128

/-- A cursor at the start of a text. -/
def Cursor.start (s : String) : Cursor := ⟨s.toUTF8, 0, nestingLimit⟩

/-- Reading steps: they advance a cursor or stop with an error, keeping the cursor where
the error was met. -/
abbrev Reader := EStateM ReadError Cursor

namespace Cursor

/-- The line and byte column of byte index `i`. -/
def positionOf (bytes : ByteArray) (i : Nat) : Position :=
  let before := (bytes.extract 0 i).toList
  let (lines, lineStart, _) :=
    before.foldl (fun (acc : Nat × Nat × Nat) (b : UInt8) =>
      let (lines, lineStart, k) := acc
      if b == 10 then (lines + 1, k + 1, k + 1) else (lines, lineStart, k + 1)) (0, 0, 0)
  ⟨lines + 1, i - lineStart⟩

/-- The byte at the cursor. -/
def peek (c : Cursor) : Option UInt8 :=
  if h : c.index < c.bytes.size then some (c.bytes[c.index]) else none

/-- The cursor after skipping spaces, tabs, line feeds and carriage returns. -/
def skipBlanks (c : Cursor) : Cursor :=
  if h : c.index < c.bytes.size then
    let b := c.bytes[c.index]
    if b == 32 || b == 10 || b == 9 || b == 13 then
      skipBlanks { c with index := c.index + 1 }
    else c
  else c
termination_by c.bytes.size - c.index

end Cursor

namespace Reader

/-- The byte at the cursor, if any. -/
def peek : Reader (Option UInt8) := do return (← get).peek

/-- The byte at the cursor, or zero at the end. -/
def peekOrNull : Reader UInt8 := do return ((← get).peek).getD 0

/-- Consumes one byte. -/
def eat : Reader Unit := modify fun c => { c with index := c.index + 1 }

/-- Consumes and returns the byte at the cursor, if any. -/
def next : Reader (Option UInt8) := do
  let b ← peek
  if b.isSome then eat
  return b

/-- Skips blanks and peeks at the byte after them. -/
def skipBlanks : Reader (Option UInt8) := do
  modify Cursor.skipBlanks
  peek

/-- The place of the cursor. -/
def position : Reader Position := do
  let c ← get
  return Cursor.positionOf c.bytes c.index

/-- The place one byte past the cursor (not past the end). -/
def peekPosition : Reader Position := do
  let c ← get
  return Cursor.positionOf c.bytes (min c.bytes.size (c.index + 1))

/-- Stops with a problem placed at the cursor. -/
def fail {α : Type} (p : Problem) : Reader α := do
  throw ⟨p, some (← position)⟩

/-- Stops with a problem placed one byte past the cursor. -/
def failPeek {α : Type} (p : Problem) : Reader α := do
  throw ⟨p, some (← peekPosition)⟩

/-- A malformed-text stop at the cursor. -/
def malformed {α : Type} (m : Malformed) : Reader α := fail (.malformed m)

/-- A malformed-text stop one byte past the cursor. -/
def malformedPeek {α : Type} (m : Malformed) : Reader α := failPeek (.malformed m)

/-- An error without a place gets the place of the cursor. -/
def place (e : ReadError) : Reader ReadError := do
  match e.position with
  | some _ => return e
  | none => return { e with position := some (← position) }

/-- Runs a step; an error it stops with is placed at the cursor if it has no place. -/
def placed {α : Type} (r : Reader α) : Reader α :=
  tryCatch r fun e => do throw (← place e)

/-- Consumes the expected bytes of a keyword after its first letter. -/
def expectWord : List UInt8 → Reader Unit
  | [] => return
  | b :: rest => do
      match ← next with
      | none => malformed .eofWhileParsingValue
      | some x => if x == b then expectWord rest else malformed .expectedSomeIdent

/-- The bytes of "ull". -/
def restOfNull : List UInt8 := [117, 108, 108]

/-- The bytes of "rue". -/
def restOfTrue : List UInt8 := [114, 117, 101]

/-- The bytes of "alse". -/
def restOfFalse : List UInt8 := [97, 108, 115, 101]

/-- Enters one nesting level, or stops when the limit is reached (placed one byte past the
cursor, before the opening bracket is consumed). -/
def enterLevel : Reader Unit := do
  let c ← get
  if c.depth ≤ 1 then malformedPeek .recursionLimitExceeded
  else set { c with depth := c.depth - 1 }

/-- Leaves a nesting level. -/
def leaveLevel : Reader Unit := modify fun c => { c with depth := c.depth + 1 }

/-- Bytes left after the cursor: a bound on the steps any reading can still take. -/
def remaining : Reader Nat := do
  let c ← get
  return c.bytes.size - c.index + 1

end Reader

end Handoff.Json
