/-
Module: Handoff.Proofs.Emit.DesignStrings
Purpose: What the native targets write from design strings. A layer name is written as a
  comment line before its fragment; the line stays a line, from the fragment that carries it
  through every enclosing call, list, stack and content lambda, and through the document that
  indents, hangs or joins the bodies, as long as the name itself is on one line. Together with
  the reading of literals and raw strings, this gives what a run keeps of its design strings.
Main exports: lineEnd_enclosed, BackendKind.Shows.lift, Flutter.commentLine_in_widget,
  Flutter.commentLine_in_document, SwiftUi.commentLine_in_view,
  SwiftUi.commentLine_in_document, Compose.commentLine_in_composable,
  Compose.commentLine_in_document, commentLine_written, Flutter.vector_raw,
  native_design_text_confined.
-/
import Handoff.Proofs.Emit.ComposeImports
import Handoff.Proofs.Emit.Literals

namespace Handoff

/-! ### Lines inside printed blocks -/

/-- A line of a block written out indented, and closed on the line after it, stays a line of
the enclosing text. -/
theorem lineEnd_enclosed {p : List Char} (inline : Text.Inline p) {content : String} (n : Nat)
    (h : p ++ ['\n'] <:+: content.toList) (before after : String) :
    p ++ ['\n'] <:+: (before ++ indentBlock content n ++ ("\n" ++ after)).toList := by
  have block : p ++ ['\n'] <:+: (indentBlock content n ++ "\n").toList :=
    Text.lineEnd_indentBlock inline n h
  simp only [String.toList_append] at block ⊢
  exact block.trans ⟨before.toList, after.toList, by simp⟩

/-- A run of a text stays a run of the text with anything put after it. -/
theorem infix_before {q : List Char} {s : String} (h : q <:+: s.toList) (after : String) :
    q <:+: (s ++ after).toList := by
  rw [String.toList_append]
  exact h.trans (List.prefix_append _ _).isInfix

/-- A run of a piece stays a run of any text the piece is spliced into. -/
theorem infix_spliced {q : List Char} {piece : String} (h : q <:+: piece.toList)
    (before after : String) : q <:+: (before ++ piece ++ after).toList := by
  rw [String.toList_append, String.toList_append]
  exact h.trans (List.infix_append _ _ _)

/-- A run of a text stays a run of the text after anything put before it. -/
theorem infix_after {q : List Char} {s : String} (h : q <:+: s.toList) (before : String) :
    q <:+: (before ++ s).toList := by
  rw [String.toList_append]
  exact h.trans (List.suffix_append _ _).isInfix

/-- A line end that is not the last character of a text is followed by another one. -/
theorem lineEnd_followed {p l : List Char} {y : Char} (h : p ++ ['\n'] <:+: l ++ [y])
    (last : y ≠ '\n') : ∃ x, p ++ ['\n', x] <:+: l ++ [y] := by
  obtain ⟨a, b, eq⟩ := h
  cases b with
  | nil =>
      have ends := congrArg List.getLast? eq
      simp at ends
      exact absurd ends.symm last
  | cons x b => exact ⟨x, a, b, by simpa using eq⟩

/-- The comment line of a name on one line is a run that stays on one line. -/
theorem inline_comment {c : String} (noFeed : '\n' ∉ c.toList) (noReturn : '\r' ∉ c.toList) :
    Text.Inline ("// " ++ c).toList where
  noFeed := by simpa using noFeed
  noReturn := by simpa using noReturn
  visible := ⟨'/', by simp, by decide⟩

/-- A property that passes from each written-out child to its parent passes from any fragment
written out inside `f` to `f`. -/
theorem BackendKind.Shows.lift {b : BackendKind} {P : Fragment → Prop}
    (step : ∀ {f g}, g ∈ b.printedChildren f → P g → P f) {f g : Fragment}
    (shows : b.Shows f g) (holds : P g) : P f := by
  induction shows using Relation.ReflTransGen.head_induction_on with
  | refl => exact holds
  | head printed _ below => exact step printed below

namespace Flutter

theorem widgets_eq_map : ∀ fs, widgets fs = fs.map widget
  | [] => rfl
  | f :: rest => by rw [widgets, widgets_eq_map rest, List.map_cons]

/-- A call ends with its closing parenthesis. -/
theorem invocation_closes (name : String) (parts : List String) :
    ∃ s, invocation name parts = s ++ ")" := by
  simp only [invocation]
  split
  · exact ⟨name ++ "(" ++ ", ".intercalate parts, rfl⟩
  · exact ⟨name ++ "(\n" ++ indentBlock ("\n".intercalate (parts.map (· ++ ","))) 2 ++ "\n",
      by simp only [String.append_assoc]; rfl⟩

/-- A run of an item stays a run of the items written one to a line with their commas. -/
theorem infix_items {q : List Char} {items : List String} {item : String} (mem : item ∈ items)
    (h : q <:+: item.toList) : q <:+: ("\n".intercalate (items.map (· ++ ","))).toList := by
  have comma : q <:+: (item ++ ",").toList := by
    rw [String.toList_append]
    exact h.trans (List.prefix_append _ _).isInfix
  exact comma.trans (Text.infix_intercalate "\n" (List.mem_map_of_mem mem))

section

variable {p : List Char} (inline : Text.Inline p)
include inline

/-- A line of one of the parts of a call stays a line of the call. -/
theorem lineEnd_invocation (name : String) {parts : List String} {part : String}
    (mem : part ∈ parts) (h : p ++ ['\n'] <:+: part.toList) :
    p ++ ['\n'] <:+: (invocation name parts).toList := by
  simp only [invocation]
  split
  · -- on one line, the parts stand between the parentheses
    exact infix_spliced (h.trans (Text.infix_intercalate ", " mem)) (name ++ "(") ")"
  · -- one part to a line
    have closing : "\n)" = "\n" ++ ")" := rfl
    rw [closing]
    exact lineEnd_enclosed inline 2 (infix_items mem h) (name ++ "(\n") ")"

/-- A line of an item stays a line of the list. -/
theorem lineEnd_list {items : List String} {item : String} (mem : item ∈ items)
    (h : p ++ ['\n'] <:+: item.toList) : p ++ ['\n'] <:+: (list items).toList := by
  have filled : items.isEmpty = false := List.isEmpty_eq_false_iff_exists_mem.2 ⟨item, mem⟩
  have closing : "\n]" = "\n" ++ "]" := rfl
  rw [list, filled, if_neg Bool.false_ne_true, closing]
  exact lineEnd_enclosed inline 2 (infix_items mem h) "[\n" "]"

/-- A line of a child that a widget writes out stays a line of the widget. -/
theorem lineEnd_widget_of_printed {f g : Fragment}
    (printed : g ∈ BackendKind.flutter.printedChildren f)
    (h : p ++ ['\n'] <:+: (widget g).toList) : p ++ ['\n'] <:+: (widget f).toList := by
  obtain ⟨element, args, styles, modifiers, children, content, comment⟩ := f
  simp -zeta -zetaHave only [widget]
  lift_lets
  intro childParts call wrapped
  -- the child is in the list of a multi-child widget, and the one child of any other
  have inPart : ∃ part ∈ childParts, p ++ ['\n'] <:+: part.toList := by
    simp only [childParts]
    split
    · rename_i many
      have held : g ∈ children := by
        simpa [BackendKind.printedChildren, BackendKind.printsAll, List.contains_iff_mem.1 many]
          using printed
      have listed := lineEnd_list inline (widgets_eq_map children ▸ List.mem_map_of_mem held) h
      exact ⟨_, List.mem_singleton_self _, infix_after listed "children: "⟩
    · rename_i single
      have held : g ∈ children.take 1 := by
        simp only [List.contains_iff_mem] at single
        simpa [BackendKind.printedChildren, BackendKind.printsAll, single] using printed
      cases children with
      | nil => exact absurd held List.not_mem_nil
      | cons first rest =>
          obtain rfl : g = first := by simpa using held
          exact ⟨_, List.mem_singleton_self _, infix_after h "child: "⟩
  obtain ⟨part, mem, within⟩ := inPart
  have inCall : p ++ ['\n'] <:+: call.toList :=
    lineEnd_invocation inline element (List.mem_append_right _ mem) within
  -- each wrapper takes the widget inside it as its child
  have inWrapped : p ++ ['\n'] <:+: wrapped.toList :=
    List.foldlRecOn (motive := fun out : String => p ++ ['\n'] <:+: out.toList) modifiers _ inCall
      fun out kept wrapper _ => by
      obtain ⟨name, margs⟩ := wrapper
      exact lineEnd_invocation inline name (List.mem_append_right _ (List.mem_singleton_self _))
        (infix_after kept "child: ")
  cases comment with
  | none => exact inWrapped
  | some c => exact infix_after inWrapped _

end

/-- A widget ends with the closing parenthesis of its outermost call. -/
theorem widget_closes (f : Fragment) : ∃ s, widget f = s ++ ")" := by
  obtain ⟨element, args, styles, modifiers, children, content, comment⟩ := f
  simp -zeta -zetaHave only [widget]
  lift_lets
  intro childParts call wrapped
  obtain ⟨s, closed⟩ : ∃ s, wrapped = s ++ ")" :=
    List.foldlRecOn (motive := fun out : String => ∃ s, out = s ++ ")") modifiers _
      (invocation_closes element _) fun out _ wrapper _ => by
      obtain ⟨name, margs⟩ := wrapper
      exact invocation_closes name _
  cases comment with
  | none => exact ⟨s, closed⟩
  | some c => exact ⟨"// " ++ c ++ "\n" ++ s, by rw [closed, String.append_assoc]⟩

/-- A widget with a comment starts with the comment's line. -/
theorem commentLine_widget {f : Fragment} {c : String} (commented : f.comment = some c) :
    ("// " ++ c).toList ++ ['\n'] <+: (widget f).toList := by
  obtain ⟨element, args, styles, modifiers, children, content, comment⟩ := f
  obtain rfl : comment = some c := commented
  simp -zeta -zetaHave only [widget]
  lift_lets
  intro childParts call wrapped
  exact ⟨wrapped.toList, by simp⟩

/-- A run of the body stays a run of the widget class that returns it. -/
theorem infix_statelessTemplate {q : List Char} {body : String} (h : q <:+: body.toList)
    (header name : String) : q <:+: (statelessTemplate header name body).toList := by
  unfold statelessTemplate
  exact infix_spliced h _ _

section

variable {c : String} (noFeed : '\n' ∉ c.toList) (noReturn : '\r' ∉ c.toList)
include noFeed noReturn

/-- The comment line of every widget written out inside `f` is a line of the widget of `f`. -/
theorem commentLine_in_widget {f g : Fragment} (shows : BackendKind.flutter.Shows f g)
    (commented : g.comment = some c) : ("// " ++ c).toList ++ ['\n'] <:+: (widget f).toList :=
  shows.lift (lineEnd_widget_of_printed (inline_comment noFeed noReturn))
    (commentLine_widget commented).isInfix

/-- A comment line of a body stays a line of the document. In a widget class or an application
the body is indented and hung after its return; it ends with a call, so the comment line is
never its last. -/
theorem commentLine_in_document (config : RunConfig) (name : String) {bodies : List String}
    {body : String} (mem : body ∈ bodies) (closes : ∀ b ∈ bodies, ∃ s, b = s ++ ")")
    (h : ("// " ++ c).toList ++ ['\n'] <:+: body.toList) :
    ("// " ++ c).toList ++ ['\n'] <:+: (document config name bodies).toList := by
  have inline := inline_comment noFeed noReturn
  unfold document
  split
  · exact h.trans (Text.infix_intercalate "\n\n" mem)
  · lift_lets
    intro main imports imports' header hung
    -- the document's body is the one widget, or a column of them
    have inMain : ("// " ++ c).toList ++ ['\n'] <:+: main.toList ∧ ∃ s, main = s ++ ")" := by
      simp only [main]
      split
      · exact absurd mem List.not_mem_nil
      · obtain rfl := List.mem_singleton.1 mem
        exact ⟨h, closes _ mem⟩
      · refine ⟨lineEnd_invocation inline "Column" (List.mem_cons_of_mem _ (List.mem_singleton_self _))
          (infix_after (lineEnd_list inline mem h) "children: "), invocation_closes _ _⟩
    obtain ⟨inMain, s, closed⟩ := inMain
    have ends : ("// " ++ c).toList ++ ['\n'] <:+: s.toList ++ [')'] := by
      simpa [closed] using inMain
    obtain ⟨x, followed⟩ := lineEnd_followed ends (by decide)
    have indented : ("// " ++ c).toList ++ ['\n'] <:+: (indentBlock main 4).toList :=
      Text.lineEnd_indentBlock_of_more inline 4 (by simpa [closed] using followed)
    have inHung : ("// " ++ c).toList ++ ['\n'] <:+: hung.toList :=
      Text.infix_trimStart indented (by simp; decide)
    split
    · unfold appTemplate
      exact infix_after (infix_statelessTemplate inHung _ _) _
    · exact infix_statelessTemplate inHung _ _

end

end Flutter

namespace SwiftUi

theorem views_eq_map : ∀ fs, views fs = fs.map view
  | [] => rfl
  | f :: rest => by rw [views, views_eq_map rest, List.map_cons]

/-- Each view of a stack is written indented on the lines after the view before it, and the
stack closes on the line after the last. -/
theorem infix_stacked {v : String} : ∀ {vs : List String}, v ∈ vs →
    (indentBlock v 4 ++ "\n").toList <:+:
      (String.join (vs.map fun v => "\n" ++ indentBlock v 4) ++ "\n\x7d").toList
  | [], mem => absurd mem List.not_mem_nil
  | w :: rest, mem => by
      rw [List.map_cons, String.join_cons, String.append_assoc]
      rcases List.mem_cons.1 mem with rfl | later
      · -- what follows, the next view or the closing brace, starts with a line break
        obtain ⟨t, opens⟩ : ∃ t, String.join (rest.map fun v => "\n" ++ indentBlock v 4) ++
            "\n\x7d" = "\n" ++ t := by
          cases rest with
          | nil => exact ⟨"\x7d", rfl⟩
          | cons u rest =>
              exact ⟨_, by rw [List.map_cons, String.join_cons, String.append_assoc,
                String.append_assoc]⟩
        rw [opens]
        exact ⟨"\n".toList, t.toList, by simp⟩
      · exact infix_after (infix_stacked later) _

section

variable {p : List Char} (inline : Text.Inline p)
include inline

/-- A line of a view that a stack writes out stays a line of the stack. -/
theorem lineEnd_view_of_printed {f g : Fragment}
    (printed : g ∈ BackendKind.swiftUi.printedChildren f)
    (h : p ++ ['\n'] <:+: (view g).toList) : p ++ ['\n'] <:+: (view f).toList := by
  obtain ⟨element, args, styles, modifiers, children, content, comment⟩ := f
  obtain ⟨stack, held⟩ : element ∈ stackViews ∧ g ∈ children := by
    simpa [BackendKind.printedChildren, BackendKind.printsAll] using printed
  simp -zeta -zetaHave only [view]
  lift_lets
  intro isStack parts head body pad chain out
  have stacked : isStack = true := List.contains_iff_mem.2 stack
  have inBody : p ++ ['\n'] <:+: body.toList := by
    simp only [body, stacked, if_true, views_eq_map]
    exact (Text.lineEnd_indentBlock inline 4 h).trans (infix_stacked (List.mem_map_of_mem held))
  have inOut : p ++ ['\n'] <:+: out.toList := infix_spliced inBody head chain
  cases comment with
  | none => exact inOut
  | some c => exact infix_after inOut _

end

/-- A view with a comment starts with the comment's line. -/
theorem commentLine_view {f : Fragment} {c : String} (commented : f.comment = some c) :
    ("// " ++ c).toList ++ ['\n'] <+: (view f).toList := by
  obtain ⟨element, args, styles, modifiers, children, content, comment⟩ := f
  obtain rfl : comment = some c := commented
  simp -zeta -zetaHave only [view]
  lift_lets
  intro isStack parts head body pad chain out
  exact ⟨out.toList, by simp⟩

section

variable {c : String} (noFeed : '\n' ∉ c.toList) (noReturn : '\r' ∉ c.toList)
include noFeed noReturn

/-- The comment line of every view written out inside `f` is a line of the view of `f`. -/
theorem commentLine_in_view {f g : Fragment} (shows : BackendKind.swiftUi.Shows f g)
    (commented : g.comment = some c) : ("// " ++ c).toList ++ ['\n'] <:+: (view f).toList :=
  shows.lift (lineEnd_view_of_printed (inline_comment noFeed noReturn))
    (commentLine_view commented).isInfix

/-- A comment line of a body stays a line of the document: the bodies stand one after another,
or indented in the view's body, in a leading stack when there are several. -/
theorem commentLine_in_document (config : RunConfig) (name : String) {bodies : List String}
    {body : String} (mem : body ∈ bodies) (h : ("// " ++ c).toList ++ ['\n'] <:+: body.toList) :
    ("// " ++ c).toList ++ ['\n'] <:+: (document config name bodies).toList := by
  have inline := inline_comment noFeed noReturn
  unfold document
  split
  · exact h.trans (Text.infix_intercalate "\n\n" mem)
  · lift_lets
    intro main typeName viewStruct
    have inMain : ("// " ++ c).toList ++ ['\n'] <:+: main.toList := by
      simp only [main]
      split
      · exact absurd mem List.not_mem_nil
      · obtain rfl := List.mem_singleton.1 mem
        exact h
      · have closing : "\n\x7d" = "\n" ++ "\x7d" := rfl
        rw [closing]
        exact lineEnd_enclosed inline 4 (h.trans (Text.infix_intercalate "\n" mem)) _ _
    have inStruct : ("// " ++ c).toList ++ ['\n'] <:+: viewStruct.toList := by
      have closing : "\n    \x7d\n\x7d\n" = "\n" ++ "    \x7d\n\x7d\n" := rfl
      simp only [viewStruct]
      rw [closing]
      exact lineEnd_enclosed inline 8 inMain _ _
    split
    · -- a preview follows the view
      rw [String.append_assoc, String.append_assoc]
      exact infix_before inStruct _
    · exact inStruct

end

end SwiftUi

namespace Compose

section

variable {p : List Char} (inline : Text.Inline p)
include inline

/-- A line of a child that a composable writes out stays a line of its content lambda. -/
theorem lineEnd_composable_of_printed {f g : Fragment}
    (printed : g ∈ BackendKind.compose.printedChildren f)
    (h : p ++ ['\n'] <:+: (composable g).toList) : p ++ ['\n'] <:+: (composable f).toList := by
  obtain ⟨layout, held⟩ : f.element ∈ containers ∧ g ∈ f.children := by
    simpa [BackendKind.printedChildren, BackendKind.printsAll] using printed
  obtain ⟨pre, lambda⟩ := composable_lambda f layout (List.ne_nil_of_mem held)
  have closing : "\n\x7d" = "\n" ++ "\x7d" := rfl
  rw [lambda, closing]
  exact lineEnd_enclosed inline 4
    (h.trans (Text.infix_intercalate "\n" (List.mem_map_of_mem held))) _ _

end

/-- A composable with a comment starts with the comment's line. -/
theorem commentLine_composable {f : Fragment} {c : String} (commented : f.comment = some c) :
    ("// " ++ c).toList ++ ['\n'] <+: (composable f).toList := by
  obtain ⟨element, args, styles, modifiers, children, content, comment⟩ := f
  obtain rfl : comment = some c := commented
  simp -zeta -zetaHave only [composable]
  lift_lets
  intro positional chain named parts head out
  exact ⟨out.toList, by simp⟩

section

variable {c : String} (noFeed : '\n' ∉ c.toList) (noReturn : '\r' ∉ c.toList)
include noFeed noReturn

/-- The comment line of every composable written out inside `f` is a line of the composable
of `f`. -/
theorem commentLine_in_composable {f g : Fragment} (shows : BackendKind.compose.Shows f g)
    (commented : g.comment = some c) :
    ("// " ++ c).toList ++ ['\n'] <:+: (composable f).toList :=
  shows.lift (lineEnd_composable_of_printed (inline_comment noFeed noReturn))
    (commentLine_composable commented).isInfix

/-- A comment line of a body stays a line of the document: the bodies stand one after another,
or indented in the composable function, in a column when there are several. -/
theorem commentLine_in_document (config : RunConfig) (name : String) {bodies : List String}
    {body : String} (mem : body ∈ bodies) (h : ("// " ++ c).toList ++ ['\n'] <:+: body.toList) :
    ("// " ++ c).toList ++ ['\n'] <:+: (document config name bodies).toList := by
  have inline := inline_comment noFeed noReturn
  unfold document
  split
  · exact h.trans (Text.infix_intercalate "\n\n" mem)
  · lift_lets
    intro main scanned needed header
    have inMain : ("// " ++ c).toList ++ ['\n'] <:+: main.toList := by
      simp only [main]
      split
      · exact absurd mem List.not_mem_nil
      · obtain rfl := List.mem_singleton.1 mem
        exact h
      · have closing : "\n\x7d" = "\n" ++ "\x7d" := rfl
        rw [closing]
        exact lineEnd_enclosed inline 4 (h.trans (Text.infix_intercalate "\n" mem)) _ _
    have closing : "\n\x7d\n" = "\n" ++ "\x7d\n" := rfl
    rw [closing]
    exact lineEnd_enclosed inline 4 inMain _ _

end

end Compose

/-! ### Runs of a whole document -/

/-- The text of every root whose fragment emits something is one of the bodies of the run. -/
theorem render_mem_bodies {target : Target} (steady : target.Steady) (scene : Scene) {r : Nat}
    (root : r ∈ scene.tree.roots)
    (emitted : ((emitNode target (scene.tree.nodes.size + 1) r scene).run #[]).1.isEmpty = false) :
    target.render scene.config ((emitNode target (scene.tree.nodes.size + 1) r scene).run #[]).1 ∈
      ((emitRoots target scene).run #[]).1 := by
  rw [(emitRoots_bodies steady scene).gives #[]]
  refine List.mem_flatMap.2 ⟨r, root, ?_⟩
  simp only [emitted]
  exact List.mem_singleton_self _

/-- Every body of a Flutter run is a widget, so ends with a call. -/
theorem Flutter.bodies_close (scene : Scene) :
    ∀ b ∈ ((emitRoots Flutter.target scene).run #[]).1, ∃ s, b = s ++ ")" := by
  have steady : Flutter.target.Steady := (BackendKind.target_closed .flutter).steady
  rw [(emitRoots_bodies steady scene).gives #[]]
  intro b mem
  obtain ⟨r, -, listed⟩ := List.mem_flatMap.1 mem
  simp only at listed
  split at listed
  · exact absurd listed List.not_mem_nil
  · obtain rfl := List.mem_singleton.1 listed
    exact Flutter.widget_closes _

/-- The comment of a layer written out under a root of a native target stays on its own line of
the code, when the layer's name is on one line. -/
theorem commentLine_written {b : BackendKind}
    (native : b ∈ [BackendKind.flutter, .swiftUi, .compose]) (scene : Scene) {r : Nat}
    (root : r ∈ scene.tree.roots)
    (emitted : ((emitNode b.target (scene.tree.nodes.size + 1) r scene).run #[]).1.isEmpty = false)
    {g : Fragment} {c : String}
    (shows : b.Shows ((emitNode b.target (scene.tree.nodes.size + 1) r scene).run #[]).1 g)
    (commented : g.comment = some c) (noFeed : '\n' ∉ c.toList) (noReturn : '\r' ∉ c.toList) :
    ("// " ++ c ++ "\n").toList <:+: (emitTree b.target scene).1.toList := by
  have line : ("// " ++ c ++ "\n").toList = ("// " ++ c).toList ++ ['\n'] := by simp
  obtain ⟨name, document⟩ := emitTree_document b.target scene
  have body := render_mem_bodies (BackendKind.target_steady b) scene root emitted
  rw [line, document]
  simp only [List.mem_cons, List.not_mem_nil, or_false] at native
  rcases native with rfl | rfl | rfl
  · exact Flutter.commentLine_in_document noFeed noReturn _ _ body (Flutter.bodies_close scene)
      (Flutter.commentLine_in_widget noFeed noReturn shows commented)
  · exact SwiftUi.commentLine_in_document noFeed noReturn _ _ body
      (SwiftUi.commentLine_in_view noFeed noReturn shows commented)
  · exact Compose.commentLine_in_document noFeed noReturn _ _ body
      (Compose.commentLine_in_composable noFeed noReturn shows commented)

/-! ### The raw string of vector markup -/

namespace Flutter

/-- Sizing sets only the width and the height, so keeps the positional argument. -/
theorem lookup_sized (f : Fragment) (node : AltNode) (scene : Scene) :
    (sized f node scene).args.lookup "" = f.args.lookup "" := by
  unfold sized
  split
  refine List.foldlRecOn (motive := fun g : Fragment => g.args.lookup "" = f.args.lookup "")
    _ _ rfl fun g kept entry mem => ?_
  obtain ⟨name, dim, horizontal⟩ := entry
  have named : "" ≠ name := by
    simp only [List.mem_cons, List.not_mem_nil, or_false, Prod.mk.injEq] at mem
    rcases mem with ⟨rfl, -⟩ | ⟨rfl, -⟩ <;> decide
  dsimp only
  split
  · simp [Fragment.withArg, lookup_setEntry, named, kept]
  · split
    · simp [Fragment.withArg, lookup_setEntry, named, kept]
    · exact kept
  · exact kept

/-- Wrapping a widget leaves its arguments as they are. -/
theorem positionStyles_args (scene : Scene) (node : AltNode) (g : Fragment) :
    Yields scene (·.args = g.args) (positionStyles node g) := by
  unfold positionStyles
  refine Yields.reads_bind ?_
  repeat' first
    | refine Yields.ite (fun _ => ?_) (fun _ => ?_)
    | exact Yields.pure (by simp)

/-- The positional argument of an SVG picture is the markup, trimmed, in a raw string. -/
theorem vector_raw (scene : Scene) (node : AltNode) (markup : String) :
    Yields scene (·.args.lookup "" = some ("r'''" ++ Text.trim markup ++ "'''"))
      (vector node markup) := by
  unfold vector
  refine Yields.reads_bind ((positionStyles_args scene node _).mono fun f same => ?_)
  rw [same, lookup_sized]
  simp [Fragment.withArg, Fragment.new, lookup_setEntry]

end Flutter

/-- What a run of a native target writes from design strings keeps to the strings. The body
`escapeLiteral` writes holds no raw line feed and is read back, under the escapes of the
language, up to the quote after it as exactly its text, unless the text holds a carriage
return, which stays raw; every quoted literal of a run is such a body between quotes. The
comment line of a layer written out under a root of the run keeps the whole name on one line of
the code when the name is on one line. The raw string of an SVG picture reads back as the
trimmed markup exactly when the markup holds no three single quotes in a row and does not end
with one. -/
theorem native_design_text_confined (scene : Scene) :
    (∀ (dollar : Bool) (s : String) (rest : List Char),
      '\n' ∉ (escapeLiteral s dollar).toList ∧
        Literal.read dollar ('"' :: (escapeLiteral s dollar).toList ++ '"' :: rest) =
          if '\r' ∈ s.toList then none else some (s.toList, rest)) ∧
    (∀ b ∈ [BackendKind.flutter, .swiftUi, .compose], ∀ r ∈ scene.tree.roots,
      let f := ((emitNode b.target (scene.tree.nodes.size + 1) r scene).run #[]).1
      f.isEmpty = false → ∀ g c, b.Shows f g → g.comment = some c →
        '\n' ∉ c.toList → '\r' ∉ c.toList →
          ("// " ++ c ++ "\n").toList <:+: (emitTree b.target scene).1.toList) ∧
    ∀ (node : AltNode) (markup : String),
      Yields scene (fun f => ∃ raw, f.args.lookup "" = some raw ∧
        (Literal.readRaw raw.toList = some ((Text.trim markup).toList, []) ↔
          ¬Literal.tripleQuote <:+: (Text.trim markup).toList ∧
            (Text.trim markup).toList.getLast? ≠ some '\''))
        (Flutter.vector node markup) := by
  refine ⟨fun dollar s rest => ⟨Literal.feed_not_mem_escapeLiteral s dollar,
    Literal.read_escapeLiteral dollar s rest⟩, ?_, ?_⟩
  · intro b native r root f emitted g c shows commented noFeed noReturn
    exact commentLine_written native scene root emitted shows commented noFeed noReturn
  · intro node markup
    exact (Flutter.vector_raw scene node markup).mono fun f raw =>
      ⟨_, raw, Literal.readRaw_closing _⟩

end Handoff
