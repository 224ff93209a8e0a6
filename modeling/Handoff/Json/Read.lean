/-
Module: Handoff.Json.Read
Purpose: Reading JSON text into a value, or under a shape into data, with the reader's
  errors and their places. Reading under a shape looks at the first byte of a value and
  either reads what the shape wants or reports the value met instead (reading it past
  when it is a scalar); a record takes a map of fields (unknown keys skipped, a repeated
  key refused, a missing field filled by its default or refused) or a sequence of field
  values in order. Brackets open at most 128 levels. A problem the shape finds gets the
  place where the reading of the enclosing value stopped: after its closing bracket when
  that bracket could be consumed.
Main exports: Json.parseValue, Json.readText, Json.Reader.readValue, Json.Reader.skipValue,
  Json.Reader.readShape.
-/
import Handoff.Json.Lexeme
import Handoff.Json.Shape

namespace Handoff.Json

namespace Reader

/-- Stops with a problem that the enclosing reading places. -/
def raise {α : Type} (p : Problem) : Reader α := throw ⟨p, none⟩

/-- Runs a step and returns its error or result, the cursor left where the step left it. -/
def attempt {α : Type} (r : Reader α) : Reader (Except ReadError α) :=
  tryCatch (do return .ok (← r)) fun e => return .error e

/-- Stops with the value met at the cursor where `expected` was wanted; a scalar is read
past first, and a text that is not JSON stops with its own error. -/
def invalidTypeHere {α : Type} (expected : String) : Reader α := do
  let b ← peekOrNull
  if b == 110 then
    eat; expectWord restOfNull; fail (.invalidType .null expected)
  else if b == 116 then
    eat; expectWord restOfTrue; fail (.invalidType (.bool true) expected)
  else if b == 102 then
    eat; expectWord restOfFalse; fail (.invalidType (.bool false) expected)
  else if b == 45 then
    eat
    let n ← readNumber false
    fail (.invalidType n.found expected)
  else if isDigitByte b then
    let n ← readNumber true
    fail (.invalidType n.found expected)
  else if b == 34 then
    eat
    let s ← readStringBody
    fail (.invalidType (.string s) expected)
  else if b == 91 then fail (.invalidType .sequence expected)
  else if b == 123 then fail (.invalidType .map expected)
  else malformedPeek .expectedSomeValue

/-- Finishes a bracketed value: the closing step runs even after the contents failed, and
the contents' error comes first. -/
def closing {α : Type} (contents : Except ReadError α) (close : Reader Unit) : Reader α := do
  let closed ← attempt close
  match contents, closed with
  | .ok v, .ok () => leaveLevel; return v
  | .error e, _ => throw e
  | .ok _, .error e => throw e

/-- The closing bracket of a sequence. -/
def endSequence : Reader Unit := do
  match ← skipBlanks with
  | some 93 => eat
  | some 44 =>
      eat
      match ← skipBlanks with
      | some 93 => malformedPeek .trailingComma
      | _ => malformedPeek .trailingCharacters
  | some _ => malformedPeek .trailingCharacters
  | none => malformedPeek .eofWhileParsingList

/-- The closing brace of a map. -/
def endMap : Reader Unit := do
  match ← skipBlanks with
  | some 125 => eat
  | some 44 => malformedPeek .trailingComma
  | some _ => malformedPeek .trailingCharacters
  | none => malformedPeek .eofWhileParsingObject

/-- Whether a sequence has another element, consuming the comma before it. -/
def hasNextElement (first : Bool) : Reader Bool := do
  match ← skipBlanks with
  | none => malformedPeek .eofWhileParsingList
  | some 93 => return false
  | some b =>
      if first then return true
      else if b == 44 then
        eat
        match ← skipBlanks with
        | some 93 => malformedPeek .trailingComma
        | some _ => return true
        | none => malformedPeek .eofWhileParsingValue
      else malformedPeek .expectedListCommaOrEnd

/-- Whether a map has another member, consuming the comma before it; the cursor is left
at the opening quote of its key. -/
def hasNextKey (first : Bool) : Reader Bool := do
  let start ← skipBlanks
  let atKey ← match start with
    | some 125 => pure none
    | some 44 =>
        if first then malformedPeek .keyMustBeAString
        else do eat; pure (some (← skipBlanks))
    | some b => if first then pure (some (some b)) else malformedPeek .expectedObjectCommaOrEnd
    | none => malformedPeek .eofWhileParsingObject
  match atKey with
  | none => return false
  | some (some 34) => return true
  | some (some 125) => malformedPeek .trailingComma
  | some (some _) => malformedPeek .keyMustBeAString
  | some none => malformedPeek .eofWhileParsingValue

/-- A key at its opening quote. -/
def readKey : Reader String := do
  eat
  readStringBody

/-- The colon between a key and its value. -/
def colon : Reader Unit := do
  match ← skipBlanks with
  | some 58 => eat
  | some _ => malformedPeek .expectedColon
  | none => malformedPeek .eofWhileParsingObject

/-- A scalar value's first byte read past: the keywords, numbers and strings. -/
def readScalar (b : UInt8) : Reader Value := do
  if b == 110 then eat; expectWord restOfNull; return .null
  else if b == 116 then eat; expectWord restOfTrue; return .bool true
  else if b == 102 then eat; expectWord restOfFalse; return .bool false
  else if b == 45 then eat; return .number (← readNumber false)
  else if isDigitByte b then return .number (← readNumber true)
  else if b == 34 then eat; return .string (← readStringBody)
  else malformedPeek .expectedSomeValue

mutual

/-- A JSON value, with at most `fuel` steps. -/
def readValue : Nat → Reader Value
  | 0 => malformedPeek .recursionLimitExceeded
  | fuel + 1 => placed do
      match ← skipBlanks with
      | none => malformedPeek .eofWhileParsingValue
      | some 91 =>
          enterLevel
          eat
          let items ← attempt (readItems fuel true [])
          closing (items.map fun xs => Value.array xs) endSequence
      | some 123 =>
          enterLevel
          eat
          let members ← attempt (readMembers fuel true [])
          closing (members.map fun ms => Value.object ms) endMap
      | some b => readScalar b

/-- The elements of a sequence after those in `acc` (reversed). -/
def readItems : Nat → Bool → List Value → Reader (List Value)
  | 0, _, acc => return acc.reverse
  | fuel + 1, first, acc => do
      if ← hasNextElement first then
        let v ← readValue fuel
        readItems fuel false (v :: acc)
      else return acc.reverse

/-- The members of a map after those in `acc`. -/
def readMembers : Nat → Bool → List (String × Value) → Reader (List (String × Value))
  | 0, _, acc => return acc
  | fuel + 1, first, acc => do
      if ← hasNextKey first then
        let key ← readKey
        colon
        let v ← readValue fuel
        readMembers fuel false (insertMember key v acc)
      else return acc

end

/-- Skips a scalar value's text from its first byte. -/
def skipScalar (b : UInt8) : Reader Unit := do
  if b == 110 then eat; expectWord restOfNull
  else if b == 116 then eat; expectWord restOfTrue
  else if b == 102 then eat; expectWord restOfFalse
  else if b == 45 then eat; skipNumber
  else if isDigitByte b then skipNumber
  else if b == 34 then eat; skipStringBody
  else malformedPeek .expectedSomeValue

/-- The error for a missing comma or closing bracket in the open bracket `frame`. -/
def commaOrEnd (frame : UInt8) : Malformed :=
  if frame == 91 then .expectedListCommaOrEnd else .expectedObjectCommaOrEnd

/-- The error for the end of the text inside the open bracket `frame`. -/
def endInside (frame : UInt8) : Malformed :=
  if frame == 91 then .eofWhileParsingList else .eofWhileParsingObject

mutual

/-- Skips a value inside the open brackets `frames` (innermost first), and the rest of
those brackets, checking only the form of the text; no nesting limit applies. -/
def skipIn : Nat → List UInt8 → Reader Unit
  | 0, _ => malformedPeek .eofWhileParsingValue
  | fuel + 1, frames => do
      match ← skipBlanks with
      | none => malformedPeek .eofWhileParsingValue
      | some b =>
          if b == 91 || b == 123 then
            eat
            afterItem fuel false b frames
          else
            skipScalar b
            match frames with
            | [] => return
            | f :: outer => afterItem fuel true f outer

/-- After an element of the bracket `frame` (or right after it opened when `accept` is
false): a comma, the closing bracket, or the next element. -/
def afterItem : Nat → Bool → UInt8 → List UInt8 → Reader Unit
  | 0, _, _, _ => malformedPeek .eofWhileParsingValue
  | fuel + 1, accept, frame, outer => do
      match ← skipBlanks with
      | none => malformedPeek (endInside frame)
      | some b =>
          if b == 44 && accept then
            eat
            startItem fuel frame outer
          else if (b == 93 && frame == 91) || (b == 125 && frame == 123) then
            eat
            match outer with
            | [] => return
            | f :: rest => afterItem fuel true f rest
          else if accept then malformedPeek (commaOrEnd frame)
          else startItem fuel frame outer

/-- The start of an element of `frame`: in a map its key and colon first. -/
def startItem : Nat → UInt8 → List UInt8 → Reader Unit
  | 0, _, _ => malformedPeek .eofWhileParsingValue
  | fuel + 1, frame, outer => do
      if frame == 123 then
        match ← skipBlanks with
        | some 34 => eat
        | some _ => malformedPeek .keyMustBeAString
        | none => malformedPeek .eofWhileParsingObject
        skipStringBody
        match ← skipBlanks with
        | some 58 => eat
        | some _ => malformedPeek .expectedColon
        | none => malformedPeek .eofWhileParsingObject
      skipIn fuel (frame :: outer)

end

/-- Skips one value. -/
def skipValue : Reader Unit := do skipIn (2 * (← remaining) + 8) []

/-- A string under a shape. -/
def readText (expected : String) : Reader Datum := placed do
  match ← skipBlanks with
  | none => malformedPeek .eofWhileParsingValue
  | some 34 => eat; return .text (← readStringBody)
  | some _ => invalidTypeHere expected

/-- A boolean under a shape. -/
def readFlag (expected : String) : Reader Datum := placed do
  match ← skipBlanks with
  | none => malformedPeek .eofWhileParsingValue
  | some 116 => eat; expectWord restOfTrue; return .flag true
  | some 102 => eat; expectWord restOfFalse; return .flag false
  | some _ => invalidTypeHere expected

/-- A number under a numeric shape. -/
def readNumeric (s : Shape) : Reader Datum := placed do
  let visit (n : Number) : Reader Datum :=
    match visitNumber s n with
    | .ok d => pure d
    | .error p => raise p
  match ← skipBlanks with
  | none => malformedPeek .eofWhileParsingValue
  | some 45 => eat; visit (← readNumber false)
  | some b => if isDigitByte b then visit (← readNumber true) else invalidTypeHere s.expected

/-- A variant name among `variants`, as a string. -/
def readVariant (variants : List String) : Reader Nat := placed do
  match ← skipBlanks with
  | none => malformedPeek .eofWhileParsingValue
  | some 34 =>
      eat
      let name ← readStringBody
      match variantIndex name variants with
      | some i => return i
      | none => raise (.unknownVariant name variants)
  | some _ => invalidTypeHere "variant identifier"

/-- The `null` of a unit variant written as a map. -/
def readUnit : Reader Unit := placed do
  match ← skipBlanks with
  | none => malformedPeek .eofWhileParsingValue
  | some 110 => eat; expectWord restOfNull
  | some _ => invalidTypeHere "unit"

/-- A unit variant: its name, or a map of its name to `null`. -/
def readChoice (variants : List String) : Reader Datum := do
  match ← skipBlanks with
  | some 34 => return .choice (← readVariant variants)
  | some 123 =>
      enterLevel
      eat
      let i ← readVariant variants
      colon
      readUnit
      leaveLevel
      match ← skipBlanks with
      | some 125 => eat; return .choice i
      | some _ => malformed .expectedSomeValue
      | none => malformed .eofWhileParsingObject
  | some _ => malformedPeek .expectedSomeValue
  | none => malformedPeek .eofWhileParsingValue

/-- A map key under the key shape: a text, or a variant name kept as its name. -/
def readMapKey (key : Shape) : Reader String := do
  match key with
  | .choice variants =>
      let i ← readVariant variants
      return variants.getD i ""
  | _ => readKey

/-- The value of a field left out of a map: its default, nothing for an optional field,
or a missing-field error. -/
def missingInMap (f : Field) : Except Problem Datum :=
  if f.defaulted then .ok .absent
  else match f.shape with
    | .optional _ => .ok .absent
    | _ => .error (.missingField f.key)

/-- The fields of a record read from a map, in field order. -/
def settleFields : List Field → List (Option Datum) → Except Problem (List Datum)
  | [], _ => .ok []
  | f :: fs, got =>
      let here : Except Problem Datum := match got.head? with
        | some (some d) => .ok d
        | _ => missingInMap f
      match here with
      | .error p => .error p
      | .ok d => (settleFields fs got.tail).map (d :: ·)

/-- Records a field's value. -/
def setSlot (slots : List (Option Datum)) (i : Nat) (d : Datum) : List (Option Datum) :=
  slots.set i (some d)

mutual

/-- A value under a shape, `root` standing for `recur`, with at most `fuel` steps. -/
def readShape (root : Shape) : Nat → Shape → Reader Datum
  | 0, _ => malformedPeek .recursionLimitExceeded
  | fuel + 1, s =>
      match s with
      | .text => readText s.expected
      | .flag => readFlag s.expected
      | .double => readNumeric s
      | .single => readNumeric s
      | .natural _ _ => readNumeric s
      | .optional inner => do
          match ← skipBlanks with
          | some 110 => eat; expectWord restOfNull; return .absent
          | _ => readShape root fuel inner
      | .list item => placed do
          match ← skipBlanks with
          | none => malformedPeek .eofWhileParsingValue
          | some 91 =>
              enterLevel
              eat
              let items ← attempt (readList root fuel item true [])
              closing (items.map Datum.list) endSequence
          | some _ => invalidTypeHere s.expected
      | .array n item => placed do
          match ← skipBlanks with
          | none => malformedPeek .eofWhileParsingValue
          | some 91 =>
              enterLevel
              eat
              let items ← attempt (readArray root fuel n item s.expected 0 true [])
              closing (items.map Datum.list) endSequence
          | some _ => invalidTypeHere s.expected
      | .map key value => placed do
          match ← skipBlanks with
          | none => malformedPeek .eofWhileParsingValue
          | some 123 =>
              enterLevel
              eat
              let members ← attempt (readEntries root fuel key value true [])
              closing (members.map Datum.map) endMap
          | some _ => invalidTypeHere s.expected
      | .record name fields => placed do
          match ← skipBlanks with
          | none => malformedPeek .eofWhileParsingValue
          | some 91 =>
              enterLevel
              eat
              let got ← attempt (readFieldSeq root fuel (recordLength name fields.length) fields 0
                true [])
              closing (got.map Datum.record) endSequence
          | some 123 =>
              enterLevel
              eat
              let got ← attempt (readFieldMap root fuel fields true (fields.map fun _ => none))
              closing (got.map Datum.record) endMap
          | some _ => invalidTypeHere s.expected
      | .choice variants => readChoice variants
      | .recur => readShape root fuel root

/-- The elements of a list after those in `acc` (reversed). -/
def readList (root : Shape) : Nat → Shape → Bool → List Datum → Reader (List Datum)
  | 0, _, _, acc => return acc.reverse
  | fuel + 1, item, first, acc => do
      if ← hasNextElement first then
        let d ← readShape root fuel item
        readList root fuel item false (d :: acc)
      else return acc.reverse

/-- The elements of a fixed-length array from index `i`. -/
def readArray (root : Shape) :
    Nat → Nat → Shape → String → Nat → Bool → List Datum → Reader (List Datum)
  | 0, _, _, _, _, _, acc => return acc.reverse
  | fuel + 1, n, item, expected, i, first, acc => do
      if i ≥ n then return acc.reverse
      else if ← hasNextElement first then
        let d ← readShape root fuel item
        readArray root fuel n item expected (i + 1) false (d :: acc)
      else raise (.invalidLength i expected)

/-- The members of a map after those in `acc`. -/
def readEntries (root : Shape) :
    Nat → Shape → Shape → Bool → List (String × Datum) → Reader (List (String × Datum))
  | 0, _, _, _, acc => return acc
  | fuel + 1, key, value, first, acc => do
      if ← hasNextKey first then
        let k ← readMapKey key
        colon
        let d ← readShape root fuel value
        readEntries root fuel key value false (setMember k d acc)
      else return acc

/-- The fields of a record read from a sequence, from field `i`. -/
def readFieldSeq (root : Shape) :
    Nat → String → List Field → Nat → Bool → List Datum → Reader (List Datum)
  | 0, _, _, _, _, acc => return acc.reverse
  | _ + 1, _, [], _, _, acc => return acc.reverse
  | fuel + 1, expected, f :: fs, i, first, acc => do
      if ← hasNextElement first then
        let d ← readShape root fuel f.shape
        readFieldSeq root fuel expected fs (i + 1) false (d :: acc)
      else if f.defaulted then readFieldSeq root fuel expected fs (i + 1) first (.absent :: acc)
      else raise (.invalidLength i expected)

/-- The fields of a record read from a map: every member read or skipped, then the left-out
fields settled. -/
def readFieldMap (root : Shape) :
    Nat → List Field → Bool → List (Option Datum) → Reader (List Datum)
  | 0, _, _, _ => raise (.malformed .eofWhileParsingObject)
  | fuel + 1, fields, first, slots => do
      if ← hasNextKey first then
        let k ← readKey
        match fieldIndex k fields with
        | some i =>
            if (slots.getD i none).isSome then raise (.duplicateField k)
            else
              colon
              let d ← readShape root fuel ((fields.getD i (required "" .text)).shape)
              readFieldMap root fuel fields false (setSlot slots i d)
        | none =>
            colon
            skipValue
            readFieldMap root fuel fields false slots
      else
        match settleFields fields slots with
        | .ok ds => return ds
        | .error p => raise p

end

/-- The end of the text: only blanks may follow the value. -/
def finish : Reader Unit := do
  match ← skipBlanks with
  | some _ => malformedPeek .trailingCharacters
  | none => return

end Reader

/-- Runs a reading over a whole text. -/
def runText {α : Type} (r : Reader α) (s : String) : Except ReadError α :=
  match (do let v ← r; Reader.finish; return v : Reader α).run (Cursor.start s) with
  | .ok v _ => .ok v
  | .error e _ => .error e

/-- A text read as one JSON value. -/
def parseValue (s : String) : Except ReadError Value :=
  runText (do Reader.readValue (2 * (← Reader.remaining) + 8)) s

/-- A text read as one value of `shape`, where `recur` stands for `root`. -/
def readText (root shape : Shape) (s : String) : Except ReadError Datum :=
  runText (do Reader.readShape root (2 * (← Reader.remaining) + 8) shape) s

end Handoff.Json
