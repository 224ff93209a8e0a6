/-
Module: Handoff.Emit.Markup
Purpose: Writing fragments as HTML or JSX markup, shared by the inline-style and the
  utility-class targets. An element is written on one line when it has no children and at
  most one content line; otherwise its content lines and children follow on lines indented
  two more spaces, and the closing tag stands on its own line. An empty element is closed at
  once in HTML and self-closed in JSX. Styles become a `style` attribute of declarations or a
  class list; in JSX the inline styles become an object with camel-cased keys. Layer comments
  precede their element, except before the returned root of a JSX component, where a comment
  cannot stand. Vector markup is inlined line by line in HTML and passed as a template
  literal in JSX, where exported attributes are not valid. A document is the roots one after
  another, or a default-exported component returning them.
Main exports: StyleAttr, Markup.render, Markup.jsxProperty, Markup.escapeText,
  Markup.vectorFragment, Markup.document.
-/
import Handoff.Emit.Fragment
import Handoff.Emit.Format
import Handoff.Emit.Template
import Handoff.Config

namespace Handoff

/-- How the styles of a fragment become attributes. -/
inductive StyleAttr where
  /-- Declarations in a style attribute. -/
  | inline
  /-- Utility classes in a class attribute. -/
  | classes
  deriving DecidableEq

namespace Markup

/-- A CSS property as a JSX style key: a hyphen is dropped and the next character
uppercased, except a hyphen that is the whole property. -/
def jsxProperty (property : String) : String :=
  let long := property.utf8ByteSize > 1
  let step (acc : List Char × Bool × Nat) (c : Char) : List Char × Bool × Nat :=
    let (out, upper, i) := acc
    if c == '-' then (out, i > 0 || long, i + 1)
    else if upper then (c.toUpper :: out, false, i + 1)
    else (c :: out, false, i + 1)
  let (out, _, _) := property.toList.foldl step ([], false, 0)
  String.ofList out.reverse

/-- A style value inside a JSX string: backslashes doubled, double quotes made single. -/
def jsxStyleValue (value : String) : String :=
  String.join (value.toList.map fun c =>
    if c == '\\' then "\\\\" else if c == '"' then "'" else String.singleton c)

/-- The attributes of a fragment: styles first, then arguments in order. -/
def attributes (f : Fragment) (mode : MarkupMode) (attr : StyleAttr) : String :=
  let styles :=
    if f.styles.isEmpty then ""
    else match attr, mode with
      | .classes, .html => " class=\"" ++ f.classList ++ "\""
      | .classes, .jsx => " className=\"" ++ f.classList ++ "\""
      | .inline, .html =>
          " style=\"" ++ "; ".intercalate (f.styles.map fun (p, v) => p ++ ": " ++ v) ++ "\""
      | .inline, .jsx =>
          " style=\x7b\x7b " ++
            ", ".intercalate (f.styles.map fun (p, v) =>
              jsxProperty p ++ ": \"" ++ jsxStyleValue v ++ "\"") ++ " \x7d\x7d"
  let arg (entry : String × String) : String :=
    let (name, value) := entry
    let name :=
      if mode == .jsx && name == "class" then "className"
      else if mode == .jsx && name == "for" then "htmlFor"
      else name
    if mode == .jsx && value.startsWith "\x7b" then " " ++ name ++ "=" ++ value
    else " " ++ name ++ "=\"" ++ value ++ "\""
  styles ++ String.join (f.args.map arg)

/-- The comment line before an element, if any. -/
def commentLines (mode : MarkupMode) (indent : Nat) : Option String → List String
  | none => []
  | some c =>
      match mode with
      | .html => [Text.spaces indent ++ "<!-- " ++ c ++ " -->"]
      | .jsx => if indent > 0 then [Text.spaces indent ++ "\x7b/* " ++ c ++ " */\x7d"] else []

mutual

/-- The lines of an element indented by `indent` spaces. -/
def elementLines (mode : MarkupMode) (attr : StyleAttr) (indent : Nat) : Fragment → List String
  | ⟨element, args, styles, modifiers, children, content, comment⟩ =>
      let f : Fragment := ⟨element, args, styles, modifiers, children, content, comment⟩
      let pad := Text.spaces indent
      let opening := pad ++ "<" ++ element ++ attributes f mode attr
      let closing := "</" ++ element ++ ">"
      let body :=
        match children, content with
        | [], [] =>
            match mode with
            | .html => [opening ++ ">" ++ closing]
            | .jsx => [opening ++ " />"]
        | [], [line] => [opening ++ ">" ++ line ++ closing]
        | _, _ =>
            [opening ++ ">"] ++ content.map (fun line => indentBlock line (indent + 2)) ++
              childLines mode attr (indent + 2) children ++ [pad ++ closing]
      commentLines mode indent comment ++ body

/-- The lines of children, one after another. -/
def childLines (mode : MarkupMode) (attr : StyleAttr) (indent : Nat) : List Fragment → List String
  | [] => []
  | c :: rest => elementLines mode attr indent c ++ childLines mode attr indent rest

end

/-- The source text of a root fragment. -/
def render (f : Fragment) (mode : MarkupMode) (attr : StyleAttr) : String :=
  "\n".intercalate (elementLines mode attr 0 f)

/-- Text content escaped for the flavour: markup characters as references, braces too in
JSX, and line feeds as line breaks. -/
def escapeText (text : String) (mode : MarkupMode) : String :=
  let escaped := escapeHtml text
  let escaped :=
    match mode with
    | .html => escaped
    | .jsx => String.join (escaped.toList.map fun c =>
        if c == '\x7b' then "&#123;" else if c == '\x7d' then "&#125;" else String.singleton c)
  String.join (escaped.toList.map fun c => if c == '\n' then "<br />" else String.singleton c)

/-- A text inside a template literal: backslashes and backquotes escaped, and the opening
of an interpolation too. -/
def templateLiteral : List Char → List Char
  | [] => []
  | '\\' :: rest => '\\' :: '\\' :: templateLiteral rest
  | '\x60' :: rest => '\\' :: '\x60' :: templateLiteral rest
  | '$' :: '\x7b' :: rest => '\\' :: '$' :: '\x7b' :: templateLiteral rest
  | c :: rest => c :: templateLiteral rest

/-- Vector markup: its lines that are not blank inside a `div` in HTML, an inner-HTML
argument in JSX. -/
def vectorFragment (markup : String) (mode : MarkupMode) : Fragment :=
  match mode with
  | .html => ((Text.lines markup).filter fun l => !Text.isBlank l).foldl Fragment.withContent
      (Fragment.new "div")
  | .jsx =>
      let literal := String.ofList (templateLiteral markup.toList)
      (Fragment.new "div").withArg "dangerouslySetInnerHTML"
        ("\x7b\x7b __html: \x60" ++ literal ++ "\x60 \x7d\x7d")

/-- The roots as plain markup, or as a default-exported component. -/
def document (name : String) (bodies : List String) (mode : MarkupMode) : String :=
  match mode with
  | .html => "\n".intercalate bodies
  | .jsx =>
      let body :=
        match bodies with
        | [] => "null"
        | [single] => single
        | many => "<>\n" ++ indentBlock ("\n".intercalate many) 2 ++ "\n</>"
      "export default function " ++ toPascalCase name ++ "() \x7b\n  return (\n" ++
        indentBlock body 4 ++ "\n  );\n\x7d\n"

end Markup

end Handoff
