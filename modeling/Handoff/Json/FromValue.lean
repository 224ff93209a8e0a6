/-
Module: Handoff.Json.FromValue
Purpose: Reading an already parsed JSON value under a shape. The rules are those of
  reading text, without places: a record takes the members of a map in key order (a map
  has no repeated keys) or the elements of a sequence in field order, and a sequence
  with elements left over is refused; a unit variant is a string or a map with a single
  member whose value is `null`.
Main exports: Json.Value.found, Json.readValueAs, Json.readAs.
-/
import Handoff.Json.Shape

namespace Handoff.Json

/-- How a value is named where another kind was expected. -/
def Value.found : Value → Found
  | .null => .null
  | .bool b => .bool b
  | .number n => n.found
  | .string s => .string s
  | .array _ => .sequence
  | .object _ => .map

/-- A unit variant named by `name`. -/
def variantOf (variants : List String) (name : String) : Except Problem Nat :=
  match variantIndex name variants with
  | some i => .ok i
  | none => .error (.unknownVariant name variants)

/-- A unit variant from a value. -/
def choiceOf (variants : List String) : Value → Except Problem Datum
  | .string name => (variantOf variants name).map Datum.choice
  | .object [(name, inner)] => do
      let i ← variantOf variants name
      match inner with
      | .null => .ok (.choice i)
      | other => .error (.invalidType other.found "unit")
  | .object _ => .error (.invalidValue .map "map with a single key")
  | other => .error (.invalidType other.found "string or map")

/-- The value of a field left out of a map. -/
def missingMember (f : Field) : Except Problem Datum :=
  if f.defaulted then .ok .absent
  else match f.shape with
    | .optional _ => .ok .absent
    | _ => .error (.missingField f.key)

/-- Records a field's value. -/
def fillSlot (slots : List (Option Datum)) (i : Nat) (d : Datum) : List (Option Datum) :=
  slots.set i (some d)

/-- The fields of a record from its filled slots, in field order. -/
def settleSlots : List Field → List (Option Datum) → Except Problem (List Datum)
  | [], _ => .ok []
  | f :: fs, got => do
      let here ← match got.head? with
        | some (some d) => pure d
        | _ => missingMember f
      let rest ← settleSlots fs got.tail
      return here :: rest

mutual

/-- A value under a shape, `root` standing for `recur`, with at most `fuel` steps. -/
def readValueAs (root : Shape) : Nat → Shape → Value → Except Problem Datum
  | 0, _, _ => .error (.malformed .recursionLimitExceeded)
  | fuel + 1, s, v =>
      match s, v with
      | .text, .string t => .ok (.text t)
      | .flag, .bool b => .ok (.flag b)
      | .double, .number n => visitNumber s n
      | .single, .number n => visitNumber s n
      | .natural _ _, .number n => visitNumber s n
      | .optional _, .null => .ok .absent
      | .optional inner, other => readValueAs root fuel inner other
      | .list item, .array xs => (readItemsAs root fuel item xs).map Datum.list
      | .array n item, .array xs => do
          let ds ← readFixedAs root fuel n item s.expected 0 xs
          if xs.length > n then .error (.invalidLength xs.length "fewer elements in array")
          else .ok (.list ds)
      | .map key value, .object ms => (readMembersAs root fuel key value ms []).map Datum.map
      | .record name fields, .array xs => do
          let ds ← readSeqFieldsAs root fuel (recordLength name fields.length) fields 0 xs
          if xs.length > fields.length then
            .error (.invalidLength xs.length "fewer elements in array")
          else .ok (.record ds)
      | .record _ fields, .object ms => do
          let slots ← readMapFieldsAs root fuel fields ms (fields.map fun _ => none)
          let ds ← settleSlots fields slots
          return .record ds
      | .choice variants, other => choiceOf variants other
      | .recur, other => readValueAs root fuel root other
      | other, w => .error (.invalidType w.found other.expected)

/-- Every element under the item shape. -/
def readItemsAs (root : Shape) : Nat → Shape → List Value → Except Problem (List Datum)
  | _, _, [] => .ok []
  | 0, _, _ :: _ => .error (.malformed .recursionLimitExceeded)
  | fuel + 1, item, x :: xs => do
      let d ← readValueAs root fuel item x
      let ds ← readItemsAs root fuel item xs
      return d :: ds

/-- The first `n - i` elements under the item shape. -/
def readFixedAs (root : Shape) :
    Nat → Nat → Shape → String → Nat → List Value → Except Problem (List Datum)
  | 0, _, _, _, _, _ => .error (.malformed .recursionLimitExceeded)
  | fuel + 1, n, item, expected, i, xs =>
      if i ≥ n then .ok []
      else match xs with
        | [] => .error (.invalidLength i expected)
        | x :: rest => do
            let d ← readValueAs root fuel item x
            let ds ← readFixedAs root fuel n item expected (i + 1) rest
            return d :: ds

/-- Members under the key and value shapes, after those in `acc`. -/
def readMembersAs (root : Shape) :
    Nat → Shape → Shape → List (String × Value) → List (String × Datum) →
      Except Problem (List (String × Datum))
  | _, _, _, [], acc => .ok acc
  | 0, _, _, _ :: _, _ => .error (.malformed .recursionLimitExceeded)
  | fuel + 1, key, value, (k, x) :: rest, acc => do
      let name ← match key with
        | .choice variants => (variantOf variants k).map fun i => variants.getD i ""
        | _ => pure k
      let d ← readValueAs root fuel value x
      readMembersAs root fuel key value rest (setMember name d acc)

/-- Record fields from the elements of a sequence, from field `i`. -/
def readSeqFieldsAs (root : Shape) :
    Nat → String → List Field → Nat → List Value → Except Problem (List Datum)
  | _, _, [], _, _ => .ok []
  | 0, _, _ :: _, _, _ => .error (.malformed .recursionLimitExceeded)
  | fuel + 1, expected, f :: fs, i, xs =>
      match xs with
      | x :: rest => do
          let d ← readValueAs root fuel f.shape x
          let ds ← readSeqFieldsAs root fuel expected fs (i + 1) rest
          return d :: ds
      | [] =>
          if f.defaulted then do
            let ds ← readSeqFieldsAs root fuel expected fs (i + 1) []
            return .absent :: ds
          else .error (.invalidLength i expected)

/-- Record fields from the members of a map, in key order; unknown keys are ignored. -/
def readMapFieldsAs (root : Shape) :
    Nat → List Field → List (String × Value) → List (Option Datum) →
      Except Problem (List (Option Datum))
  | _, _, [], slots => .ok slots
  | 0, _, _ :: _, _ => .error (.malformed .recursionLimitExceeded)
  | fuel + 1, fields, (k, x) :: rest, slots =>
      match fieldIndex k fields with
      | some i => do
          let d ← readValueAs root fuel (fields.getD i (required "" .text)).shape x
          readMapFieldsAs root fuel fields rest (fillSlot slots i d)
      | none => readMapFieldsAs root fuel fields rest slots

end

mutual

/-- The number of nodes of a value: a bound on the steps reading it takes. -/
def Value.weight : Value → Nat
  | .array xs => 1 + itemsWeight xs
  | .object ms => 1 + membersWeight ms
  | _ => 1

/-- The nodes of a list of values. -/
def itemsWeight : List Value → Nat
  | [] => 0
  | x :: xs => x.weight + itemsWeight xs

/-- The nodes of the values of members. -/
def membersWeight : List (String × Value) → Nat
  | [] => 0
  | (_, x) :: ms => x.weight + membersWeight ms

end

/-- A value read under `shape`, where `recur` stands for `root`. -/
def readAs (root shape : Shape) (v : Value) : Except Problem Datum :=
  readValueAs root (2 * v.weight + 8) shape v

end Handoff.Json
