/-
Module: Handoff.Json.Shape
Purpose: Shapes that say what JSON a record type accepts, and the data read under them.
  A shape is a text, a boolean, a double, a single, a bounded natural, an optional value,
  a list, an array of fixed length, a map, a record of named fields, or a choice among
  unit variants; `recur` stands for the shape being read at the top, for trees of
  records. A field that may be left out yields `absent` and the record builder puts in
  its default. Reading text and reading an already parsed value both produce the same
  data, so a record type is described once.
Main exports: Json.Shape, Json.Field, Json.Datum, Json.Shape.expected.
-/
import Handoff.Json.Error
import Handoff.Json.Value

namespace Handoff.Json

mutual

/-- What a JSON value must look like to be read as a value of some type. -/
inductive Shape where
  /-- A string. -/
  | text
  /-- `true` or `false`. -/
  | flag
  /-- A number read as a double. -/
  | double
  /-- A number read as a single. -/
  | single
  /-- A natural below `2^bits`, called `name` in messages. -/
  | natural (bits : Nat) (name : String)
  /-- `null` for nothing, or a value of the inner shape. -/
  | optional (inner : Shape)
  /-- Any number of values. -/
  | list (item : Shape)
  /-- Exactly `length` values. -/
  | array (length : Nat) (item : Shape)
  /-- Members with keys of `key` (a text or a choice) and values of `value`. -/
  | map (key : Shape) (value : Shape)
  /-- A record of named fields, called `name` in messages. -/
  | record (name : String) (fields : List Field)
  /-- One of the named unit variants. -/
  | choice (variants : List String)
  /-- The shape being read at the top. -/
  | recur

/-- A named field of a record shape. -/
inductive Field where
  /-- The key, the shape of the value, and whether the field may be left out. -/
  | mk (key : String) (shape : Shape) (defaulted : Bool)

end

namespace Field

/-- The key of a field. -/
def key : Field → String
  | mk k _ _ => k

/-- The shape of a field's value. -/
def shape : Field → Shape
  | mk _ s _ => s

/-- Whether a field may be left out. -/
def defaulted : Field → Bool
  | mk _ _ d => d

end Field

/-- A field that must be given (an optional one may still be left out of a map). -/
def required (key : String) (shape : Shape) : Field := .mk key shape false

/-- A field with a default. -/
def defaulted (key : String) (shape : Shape) : Field := .mk key shape true

/-- How a shape is named where another value was found. -/
def Shape.expected : Shape → String
  | .text => "a string"
  | .flag => "a boolean"
  | .double => "f64"
  | .single => "f32"
  | .natural _ name => name
  | .optional _ => "option"
  | .list _ => "a sequence"
  | .array n _ => "an array of length " ++ Nat.repr n
  | .map _ _ => "a map"
  | .record name _ => "struct " ++ name
  | .choice _ => "enum"
  | .recur => "a value"

/-- How a record read from a sequence names the length it wanted. -/
def recordLength (name : String) (count : Nat) : String :=
  "struct " ++ name ++ " with " ++ Nat.repr count ++
    (if count == 1 then " element" else " elements")

/-- Data read under a shape. -/
inductive Datum where
  | text (s : String)
  | flag (b : Bool)
  | double (x : Float)
  | single (x : Float32)
  | natural (n : Nat)
  /-- A left-out field or a `null` optional value. -/
  | absent
  | list (items : List Datum)
  /-- Members in the order of their first key, each with its last value. -/
  | map (members : List (String × Datum))
  /-- Field values in the order of the record's fields. -/
  | record (fields : List Datum)
  /-- The index of a variant. -/
  | choice (index : Nat)
  deriving Inhabited

/-- Sets the value of a key in members kept in first-key order. -/
def setMember (key : String) (d : Datum) : List (String × Datum) → List (String × Datum)
  | [] => [(key, d)]
  | (k, e) :: rest => if k == key then (k, d) :: rest else (k, e) :: setMember key d rest

/-- The index of a key among field keys. -/
def fieldIndex (key : String) : List Field → Option Nat
  | [] => none
  | f :: rest => if f.key == key then some 0 else (fieldIndex key rest).map (· + 1)

/-- The index of a name among variants. -/
def variantIndex (name : String) : List String → Option Nat
  | [] => none
  | v :: rest => if v == name then some 0 else (variantIndex name rest).map (· + 1)

namespace Datum

/-- The text of a datum, or a fallback. -/
def textOr (fallback : String) : Datum → String
  | text s => s
  | _ => fallback

/-- The boolean of a datum, or a fallback. -/
def flagOr (fallback : Bool) : Datum → Bool
  | flag b => b
  | _ => fallback

/-- The double of a datum, or a fallback. -/
def doubleOr (fallback : Float) : Datum → Float
  | double x => x
  | _ => fallback

/-- The single of a datum, or a fallback. -/
def singleOr (fallback : Float32) : Datum → Float32
  | single x => x
  | _ => fallback

/-- The natural of a datum, or a fallback. -/
def naturalOr (fallback : Nat) : Datum → Nat
  | natural n => n
  | _ => fallback

/-- The items of a list datum (none for any other). -/
def items : Datum → List Datum
  | list xs => xs
  | _ => []

/-- The members of a map datum (none for any other). -/
def members : Datum → List (String × Datum)
  | map ms => ms
  | _ => []

/-- The field values of a record datum (none for any other). -/
def fields : Datum → List Datum
  | record fs => fs
  | _ => []

/-- The value of the `i`-th field of a record datum (`absent` when there is none). -/
def field (d : Datum) (i : Nat) : Datum := d.fields.getD i absent

/-- An optional datum: nothing when absent. -/
def toOption : Datum → Option Datum
  | absent => none
  | d => some d

/-- An optional text. -/
def optText (d : Datum) : Option String := d.toOption.map (textOr "")

/-- An optional boolean. -/
def optFlag (d : Datum) : Option Bool := d.toOption.map (flagOr false)

/-- An optional double. -/
def optDouble (d : Datum) : Option Float := d.toOption.map (doubleOr 0.0)

/-- An optional natural. -/
def optNatural (d : Datum) : Option Nat := d.toOption.map (naturalOr 0)

end Datum

namespace Number

/-- How a number is named where another value was expected. -/
def found : Number → Found
  | natural n => .unsigned n
  | negative n => .signed n
  | double x => .float x

/-- The single a number stands for: integers are rounded to the nearest single directly,
fractions through the nearest double. -/
def toSingle : Number → Float32
  | natural n => Float32.ofNatNearest n
  | negative n => Float32.ofIntNearest n
  | double x => x.toBinary32

end Number

/-- A number read under a shape: doubles and singles take any number; a bounded natural
rejects negative and too large integers as values and fractions as the wrong type. -/
def visitNumber (s : Shape) (n : Number) : Except Problem Datum :=
  match s, n with
  | .double, _ => .ok (.double n.toFloat)
  | .single, _ => .ok (.single n.toSingle)
  | .natural bits name, .natural k =>
      if k < 2 ^ bits then .ok (.natural k) else .error (.invalidValue (.unsigned k) name)
  | .natural _ name, .negative k => .error (.invalidValue (.signed k) name)
  | .natural _ name, .double x => .error (.invalidType (.float x) name)
  | other, _ => .error (.invalidType n.found other.expected)

end Handoff.Json
