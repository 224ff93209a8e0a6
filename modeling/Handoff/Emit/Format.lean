/-
Module: Handoff.Emit.Format
Purpose: How values are spelled in generated code. Numbers get at most two decimals
  (rounded half away from zero, then written in their shortest positional form, zero and
  non-finite values as `0`) or a fixed number of decimals with trailing zeros trimmed.
  Colours are `#rrggbb` when opaque and `rgba(…)` otherwise for CSS, `0xAARRGGBB` for the
  native toolkits. Token names become kebab-case identifiers; texts are escaped for markup
  attributes, CSS strings and double-quoted literals.
Main exports: num, fixed, px, percent, cssString, cssColor, argbHex, tokenIdent, cssSolid,
  cssGradient, topPaint, topSolid, hasImage, escapeHtml, escapeLiteral.
-/
import Handoff.Tree.Node
import Handoff.Float.Decimal
import Handoff.Text.Words
import Handoff.Text.Quote

namespace Handoff

/-- A number with at most two decimals and no trailing zeros; `0` for zero and for values
that are not finite. -/
def num (value : Float) : String :=
  let rounded := (value * 100.0).roundHalfAway / 100.0
  if rounded == 0.0 || !rounded.isFinite then "0" else rounded.plainText

/-- Trailing zeros, then a trailing point, removed from a decimal text. -/
def trimDecimal (s : String) : String :=
  let chars := s.toList.reverse.dropWhile (· == '0')
  let chars := chars.dropWhile (· == '.')
  String.ofList chars.reverse

/-- A number with at most `places` decimals and no trailing zeros. -/
def fixed (value : Float) (places : Nat) : String :=
  let formatted := value.fixedText places
  if !formatted.contains '.' then formatted
  else
    match trimDecimal formatted with
    | "" | "-" | "-0" => "0"
    | trimmed => trimmed

/-- Pixels. -/
def px (value : Float) : String := num value ++ "px"

/-- A fraction as a percentage. -/
def percent (fraction : Float) : String := num (fraction * 100.0) ++ "%"

/-- A single-quoted CSS string: quotes, backslashes, markup characters and line feeds as
hexadecimal escapes followed by a space. -/
def cssString (value : String) : String :=
  let escape (c : Char) : String :=
    if c == '\'' || c == '"' || c == '\\' || c == '<' || c == '>' || c == '&' || c == '\n' then
      "\\" ++ Text.hexDigits c.toNat ++ " "
    else String.singleton c
  "'" ++ String.join (value.toList.map escape) ++ "'"

/-- A CSS colour: `#rrggbb` when opaque, `rgba(r, g, b, alpha)` otherwise. -/
def cssColor (c : Color) : String :=
  let (r, g, b, a) := c.toRgba8
  if a == 255 then c.toHexRgb
  else
    "rgba(" ++ Nat.repr r ++ ", " ++ Nat.repr g ++ ", " ++ Nat.repr b ++ ", " ++
      num (Float.ofNat a / 255.0) ++ ")"

/-- A colour as the native toolkits spell it: `0xAARRGGBB`. -/
def argbHex (c : Color) : String :=
  let (r, g, b, a) := c.toRgba8
  "0x" ++ hexPairCased true a ++ hexPairCased true r ++ hexPairCased true g ++ hexPairCased true b

/-- A design-token name as a kebab-case identifier: characters other than ASCII letters
and digits separate words. -/
def tokenIdent (name : String) : String :=
  Text.kebabCase (String.map (fun c => if c.isAlphanum then c else ' ') name)

/-- The CSS value of a solid paint: a custom property with the literal as fallback when a
variable is bound and variables are used. -/
def cssSolid (entry : PaintEntry) (useVariables : Bool) : Option String :=
  match entry.solidColor with
  | none => none
  | some color =>
      match entry.binding with
      | some b =>
          if useVariables then some ("var(--" ++ tokenIdent b.name ++ ", " ++ cssColor color ++ ")")
          else some (cssColor color)
      | none => some (cssColor color)

/-- Gradient stops as CSS colour stops. -/
def cssStops (stops : List GradientStop) : String :=
  ", ".intercalate (stops.map fun s => cssColor s.effectiveColor ++ " " ++ percent s.offset)

/-- A CSS gradient. -/
def cssGradient : Gradient → String
  | .linear angle stops => "linear-gradient(" ++ num angle ++ "deg, " ++ cssStops stops ++ ")"
  | .radial cx cy rx ry stops =>
      "radial-gradient(" ++ percent rx ++ " " ++ percent ry ++ " at " ++ percent cx ++ " " ++
        percent cy ++ ", " ++ cssStops stops ++ ")"
  | .angular cx cy start stops =>
      "conic-gradient(from " ++ num start ++ "deg at " ++ percent cx ++ " " ++ percent cy ++ ", " ++
        cssStops stops ++ ")"

/-- The paint on top: paints are listed bottom to top. -/
def topPaint (entries : List PaintEntry) : Option PaintEntry := entries.getLast?

/-- The colour of the topmost solid paint. -/
def topSolid (entries : List PaintEntry) : Option Color :=
  entries.reverse.findSome? PaintEntry.solidColor

/-- Whether some paint is an image. -/
def hasImage (entries : List PaintEntry) : Bool :=
  entries.any fun e => match e.kind with
    | .image _ => true
    | _ => false

/-- A text with `&`, `<`, `>` and `"` written as character references. -/
def escapeHtml (text : String) : String :=
  let escape (c : Char) : String :=
    if c == '&' then "&amp;"
    else if c == '<' then "&lt;"
    else if c == '>' then "&gt;"
    else if c == '"' then "&quot;"
    else String.singleton c
  String.join (text.toList.map escape)

/-- The body of a double-quoted literal: backslash, quote and line feed escaped, and the
dollar sign too for languages that interpolate it. -/
def escapeLiteral (text : String) (escapeDollar : Bool) : String :=
  let escape (c : Char) : String :=
    if c == '\\' then "\\\\"
    else if c == '"' then "\\\""
    else if c == '\n' then "\\n"
    else if c == '$' && escapeDollar then "\\$"
    else String.singleton c
  String.join (text.toList.map escape)

end Handoff
