/-
Module: Handoff.Emit.Fragment
Purpose: The framework-neutral description of one emitted element that every target builds
  and renders: the element's name, its arguments (attributes, constructor arguments), its
  style properties (declarations or utility classes), an ordered chain of modifiers, its
  children, literal content lines, and a comment. Arguments and styles are tables kept in
  insertion order in which a repeated key keeps its first place and takes the last value;
  modifiers may repeat. A fragment with an empty element name stands for nothing, and adding
  it as a child changes nothing.
Main exports: setEntry, Fragment, Fragment.new, Fragment.empty, Fragment.isEmpty,
  Fragment.withArg, Fragment.withStyle, Fragment.withClass, Fragment.withModifier,
  Fragment.withChild, Fragment.withChildren, Fragment.withContent, Fragment.withComment,
  Fragment.classList.
-/

namespace Handoff

/-- Sets a key in a table kept in insertion order: a new key goes last, a present key keeps
its place and takes the new value. -/
def setEntry (key value : String) : List (String × String) → List (String × String)
  | [] => [(key, value)]
  | (k, v) :: rest => if k == key then (k, value) :: rest else (k, v) :: setEntry key value rest

/-- One emitted element, before it is written out. -/
structure Fragment where
  /-- Tag, widget or view name; empty for a fragment that emits nothing. -/
  element : String
  /-- Attributes or named arguments, in insertion order. -/
  args : List (String × String)
  /-- Style declarations or utility classes, in insertion order. -/
  styles : List (String × String)
  /-- Modifiers or wrappers, innermost first. -/
  modifiers : List (String × String)
  children : List Fragment
  /-- Literal lines emitted as the element's content. -/
  content : List String
  /-- A layer name or other note written as a comment. -/
  comment : Option String

namespace Fragment

/-- An element with nothing else. -/
def new (element : String) : Fragment := ⟨element, [], [], [], [], [], none⟩

/-- The fragment that emits nothing. -/
def empty : Fragment := new ""

/-- Whether a fragment emits nothing. -/
def isEmpty (f : Fragment) : Bool := f.element.isEmpty

/-- Sets an argument. -/
def withArg (f : Fragment) (name value : String) : Fragment :=
  { f with args := setEntry name value f.args }

/-- Sets a style property; a later value for the same property wins. -/
def withStyle (f : Fragment) (property value : String) : Fragment :=
  { f with styles := setEntry property value f.styles }

/-- Adds a utility class: a style property with an empty value. -/
def withClass (f : Fragment) (cls : String) : Fragment := f.withStyle cls ""

/-- Appends a modifier. -/
def withModifier (f : Fragment) (name args : String) : Fragment :=
  { f with modifiers := f.modifiers ++ [(name, args)] }

/-- Appends a child, unless it emits nothing. -/
def withChild (f : Fragment) (child : Fragment) : Fragment :=
  if child.isEmpty then f else { f with children := f.children ++ [child] }

/-- Appends children in order, skipping those that emit nothing. -/
def withChildren (f : Fragment) (children : List Fragment) : Fragment :=
  children.foldl withChild f

/-- Appends a content line. -/
def withContent (f : Fragment) (line : String) : Fragment :=
  { f with content := f.content ++ [line] }

/-- Sets the comment. -/
def withComment (f : Fragment) (comment : String) : Fragment := { f with comment := some comment }

/-- The style keys separated by spaces: the class list of a fragment styled by classes. -/
def classList (f : Fragment) : String := " ".intercalate (f.styles.map Prod.fst)

end Fragment

end Handoff
