/-
Module: Handoff.Proofs.Emit.ComposeImports
Purpose: The imports of a composable function. A Compose fragment is written as its name and
  the parenthesis of its call, or, for a layout composable with children and no arguments or
  modifiers, as its bare name and the brace of its content lambda (`Compose.opening`). The
  opening of every fragment written out under a root stands, unbroken, in the text of that
  root, however deep it is nested; the root's text is a body of the document, and the document
  imports every entry of the import table that looks for a text its body holds. So every
  element whose opening is one of the needles of its entry is imported. Boxes, rows and columns
  are looked for both as calls and as bare lambdas, texts and images are never bare, so these
  are always imported; flow rows and flow columns are looked for only as calls, so a bare one
  is imported only if a call of it stands elsewhere.
Main exports: Compose.opening, Compose.opening_in_composable, Compose.infix_of_shows,
  Compose.document_imports, emitRoots_bodies, Compose.opening_imported,
  composable_imports_cover_elements.
-/
import Handoff.Proofs.Text.Infix
import Handoff.Proofs.Emit.Layouts
import Handoff.Proofs.Emit.Steady

namespace Handoff

namespace Compose

/-! ### How a fragment opens -/

/-- Whether a fragment is written as its bare name before its content lambda: a layout
composable with children and no arguments or modifiers. -/
def bare (f : Fragment) : Bool :=
  containers.contains f.element && !f.children.isEmpty && f.args.isEmpty && f.modifiers.isEmpty

/-- The text a fragment's composable starts with, after its comment: the name and the brace of
the content lambda for a bare one, the name and the parenthesis of the call otherwise. -/
def opening (f : Fragment) : String := if bare f then f.element ++ " \x7b" else f.element ++ "("

example : opening ((Fragment.new "FlowRow").withChildren [Fragment.new "Box"]) = "FlowRow \x7b" := by
  decide

theorem invocation_opens (name : String) (parts : List String) :
    ∃ rest, invocation name parts = name ++ "(" ++ rest := by
  simp only [invocation]
  split
  · exact ⟨", ".intercalate parts ++ ")", by simp only [String.append_assoc]⟩
  · exact ⟨"\n" ++ indentBlock ("\n".intercalate (parts.map (· ++ ","))) 4 ++ "\n)", by
      simp only [String.append_assoc]; rfl⟩

theorem modifierChain_eq_none_iff (modifiers : List (String × String)) :
    modifierChain modifiers = none ↔ modifiers = [] := by
  unfold modifierChain
  split
  · simp_all
  · simp only [List.isEmpty_iff] at *
    split <;> simp_all

theorem composables_eq_map : ∀ fs, composables fs = fs.map composable
  | [] => rfl
  | f :: rest => by rw [composables, composables_eq_map rest, List.map_cons]

/-- A composable starts, after its comment, with its opening. -/
theorem opening_in_composable (f : Fragment) : (opening f).toList <:+: (composable f).toList := by
  obtain ⟨element, args, styles, modifiers, children, content, comment⟩ := f
  simp -zeta -zetaHave only [composable]
  lift_lets
  intro positional chain named parts head out
  -- the call has no arguments exactly when the fragment has none and no modifiers
  have noParts : parts = [] ↔ args = [] ∧ modifiers = [] := by
    have noChain : chain = [] ↔ modifiers = [] := by
      rw [← modifierChain_eq_none_iff]
      simp only [chain]
      split <;> simp_all
    simp only [parts, positional, named, List.append_eq_nil_iff, List.map_eq_nil_iff,
      List.filter_eq_nil_iff, noChain]
    constructor
    · rintro ⟨⟨unnamed, none⟩, named⟩
      refine ⟨List.eq_nil_iff_forall_not_mem.2 fun a mem => ?_, none⟩
      have := named a mem
      simp_all
    · rintro ⟨rfl, rfl⟩
      simp
  have opens : ∃ rest,
      out = opening ⟨element, args, styles, modifiers, children, content, comment⟩ ++ rest := by
    simp only [opening, bare, out]
    by_cases layout : (containers.contains element && !children.isEmpty) = true
    · by_cases empty : parts = []
      · obtain ⟨noArgs, noModifiers⟩ := noParts.1 empty
        refine ⟨"\n" ++ indentBlock ("\n".intercalate (composables children)) 4 ++ "\n\x7d", ?_⟩
        simp only [layout, head, empty, noArgs, noModifiers, List.isEmpty_nil, Bool.and_true,
          if_true, String.append_assoc]
        rfl
      · have called : (args.isEmpty && modifiers.isEmpty) = false := by
          simpa [noParts] using empty
        obtain ⟨rest, opens⟩ := invocation_opens element parts
        refine ⟨rest ++ " \x7b\n" ++ indentBlock ("\n".intercalate (composables children)) 4 ++
          "\n\x7d", ?_⟩
        simp only [layout, head, List.isEmpty_iff, empty, if_false, if_true, Bool.and_assoc,
          called, Bool.and_false, Bool.false_eq_true, opens, String.append_assoc]
    · obtain ⟨rest, opens⟩ := invocation_opens element parts
      refine ⟨rest, ?_⟩
      simp only [Bool.not_eq_true] at layout
      simp only [layout, Bool.false_and, opens, if_false, Bool.false_eq_true]
  obtain ⟨rest, called⟩ := opens
  have within : (opening ⟨element, args, styles, modifiers, children, content, comment⟩).toList <:+:
      out.toList := by
    rw [called, String.toList_append]
    exact List.infix_append_left
  cases comment with
  | none => exact within
  | some c =>
      simp only [String.toList_append]
      exact List.infix_append_of_infix_right within

/-- The opening of a fragment whose name has no line break stays on one line, and its
parenthesis or brace keeps that line from being blank. -/
theorem inline_opening {g : Fragment} (noFeed : '\n' ∉ g.element.toList)
    (noReturn : '\r' ∉ g.element.toList) : Text.Inline (opening g).toList := by
  unfold opening
  split
  · exact ⟨by simp [noFeed], by simp [noReturn], ⟨'{', by simp, by decide⟩⟩
  · exact ⟨by simp [noFeed], by simp [noReturn], ⟨'(', by simp, by decide⟩⟩

/-! ### Nesting -/

/-- A layout composable with children ends with its content lambda: the composables of its
children, indented. -/
theorem composable_lambda (f : Fragment) (layout : f.element ∈ containers)
    (held : f.children ≠ []) : ∃ pre, composable f =
      pre ++ " \x7b\n" ++ indentBlock ("\n".intercalate (f.children.map composable)) 4 ++ "\n\x7d" := by
  obtain ⟨element, args, styles, modifiers, children, content, comment⟩ := f
  simp -zeta -zetaHave only [composable]
  lift_lets
  intro positional chain named parts head out
  have lambda : out = head ++ " \x7b\n" ++
      indentBlock ("\n".intercalate (children.map composable)) 4 ++ "\n\x7d" := by
    have opened : (containers.contains element && !children.isEmpty) = true := by
      simpa [List.isEmpty_iff] using ⟨layout, held⟩
    simp only [out, opened, if_true, composables_eq_map]
  cases comment with
  | none => exact ⟨head, lambda⟩
  | some c => exact ⟨"// " ++ c ++ "\n" ++ head, by simp only [lambda, String.append_assoc]⟩

/-- An inline run of a written-out child's text stands in its parent's text. -/
theorem infix_of_printed {p : List Char} (inline : Text.Inline p) {f c : Fragment}
    (printed : c ∈ BackendKind.compose.printedChildren f) (within : p <:+: (composable c).toList) :
    p <:+: (composable f).toList := by
  obtain ⟨layout, held⟩ : f.element ∈ containers ∧ c ∈ f.children := by
    simpa [BackendKind.printedChildren, BackendKind.printsAll] using printed
  obtain ⟨pre, lambda⟩ := composable_lambda f layout (List.ne_nil_of_mem held)
  have listed := Text.infix_intercalate "\n" (List.mem_map_of_mem (f := composable) held)
  have indented := Text.infix_indentBlock inline 4 (within.trans listed)
  rw [lambda]
  simp only [String.toList_append]
  exact List.infix_append_of_infix_left (List.infix_append_of_infix_right indented)

/-- An inline run of the text of a fragment written out anywhere inside `f` stands in the text
of `f`. -/
theorem infix_of_shows {p : List Char} (inline : Text.Inline p) {f g : Fragment}
    (shows : BackendKind.compose.Shows f g) (within : p <:+: (composable g).toList) :
    p <:+: (composable f).toList := by
  -- from the innermost fragment out, one written-out child at a time
  induction shows using Relation.ReflTransGen.head_induction_on with
  | refl => exact within
  | head printed _ below => exact infix_of_printed inline printed below

/-- Only a fragment that emits something writes out children. -/
theorem isEmpty_of_shows {f g : Fragment} (shows : BackendKind.compose.Shows f g)
    (named : g.isEmpty = false) : f.isEmpty = false := by
  rcases Relation.ReflTransGen.cases_head shows with rfl | ⟨c, printed, -⟩
  · exact named
  · obtain ⟨layout, -⟩ : f.element ∈ containers ∧ c ∈ f.children := by
      simpa [BackendKind.printedChildren, BackendKind.printsAll] using printed
    have unnamed : "" ∉ containers := by decide
    have named' : f.element ≠ "" := fun empty => unnamed (empty ▸ layout)
    simpa [Fragment.isEmpty] using named'

/-! ### The document -/

/-- A composable function starts with import lines and a blank line. Every entry of the import
table one of whose needles is an inline run of one of the bodies is among them. -/
theorem document_imports (config : RunConfig) (mode : config.composeMode = .composable)
    (name : String) (bodies : List String) :
    ∃ lines rest, document config name bodies = String.join lines ++ "\n@Composable\nfun " ++ rest ∧
      (∀ l ∈ lines, ∃ path, l = "import " ++ path ++ "\n") ∧
      ∀ b ∈ bodies, ∀ needles path, (needles, path) ∈ imports → ∀ x ∈ needles,
        Text.Inline x.toList → x.toList <:+: b.toList → "import " ++ path ++ "\n" ∈ lines := by
  have composing : (config.composeMode == .snippet) = false := by rw [mode]; rfl
  unfold document
  rw [composing, if_neg Bool.false_ne_true]
  lift_lets
  intro body scanned needed header
  -- whatever the number of bodies, an inline run of one of them is one of the body
  have inBody : ∀ b ∈ bodies, ∀ x, Text.Inline x → x <:+: b.toList → x <:+: body.toList := by
    intro b mem x inline within
    simp only [body]
    split
    · exact absurd mem List.not_mem_nil
    · rw [List.mem_singleton.1 mem] at within
      exact within
    · rw [String.toList_append, String.toList_append]
      exact List.infix_append_of_infix_left (List.infix_append_of_infix_right
        (Text.infix_indentBlock inline 4 (within.trans (Text.infix_intercalate "\n" mem))))
  refine ⟨needed.map fun x => "import " ++ x.2 ++ "\n",
    toPascalCase name ++ "() \x7b\n" ++ indentBlock body 4 ++ "\n\x7d\n", ?_, ?_, ?_⟩
  · simp only [header, String.append_assoc]
    rfl
  · intro l mem
    obtain ⟨entry, -, rfl⟩ := List.mem_map.1 mem
    exact ⟨entry.2, rfl⟩
  · intro b mem needles path entry x needle inline within
    have found : Text.includes scanned x = true := by
      rw [Text.includes_iff]
      simp only [scanned, String.toList_append]
      exact List.infix_append_of_infix_left (List.infix_append_of_infix_right
        (inBody b mem x.toList inline within))
    exact List.mem_map.2
      ⟨(needles, path), List.mem_filter.2 ⟨entry, List.any_eq_true.2 ⟨x, needle, found⟩⟩, rfl⟩

/-- Boxes, rows and columns are looked for as bare content lambdas as well as calls; texts and
images are never bare. -/
theorem imports_bare_needles : ∀ entry ∈ imports, ∀ e ∈ ["Box", "Row", "Column", "Text", "Image"],
    e ∈ containers → e ++ "(" ∈ entry.1 → e ++ " \x7b" ∈ entry.1 := by
  decide

/-- Flow rows and flow columns are looked for only as calls. -/
theorem imports_flow_needles : ∀ entry ∈ imports, ∀ e ∈ ["FlowRow", "FlowColumn"],
    e ++ " \x7b" ∉ entry.1 := by
  decide

theorem elements_named : ∀ e ∈ ["Box", "Row", "Column", "Text", "Image"] ++ ["FlowRow", "FlowColumn"],
    e ≠ "" ∧ '\n' ∉ e.toList ∧ '\r' ∉ e.toList := by
  decide

end Compose

/-! ### The bodies of a run -/

theorem Steady.yields {α : Type} {scene : Scene} {m : Emit α} (steady : Steady scene m) :
    Yields scene (· = ((m scene).run #[]).1) m :=
  ⟨steady.result⟩

/-- A loop whose step appends to the list it has what the member gives. -/
theorem Yields.forIn_append {β γ : Type} {scene : Scene} {xs : List γ} {init : List β}
    {body : γ → List β → Emit (ForInStep (List β))} (out : γ → List β)
    (each : ∀ x acc, Yields scene (· = .yield (acc ++ out x)) (body x acc)) :
    Yields scene (· = init ++ xs.flatMap out) (ForIn.forIn xs init body) := by
  induction xs generalizing init with
  | nil => exact Yields.pure (List.append_nil init).symm
  | cons x rest ih =>
      rw [List.forIn_cons]
      refine Yields.bind (each x init) fun r stepped => ?_
      subst stepped
      exact ih.mono fun bodies grown => by rw [grown, List.flatMap_cons, List.append_assoc]

/-- The bodies of a run are the texts of the roots' fragments, in root order, leaving out the
roots that emit nothing. -/
theorem emitRoots_bodies {target : Target} (steady : target.Steady) (scene : Scene) :
    Yields scene (· = scene.tree.roots.flatMap fun r =>
        let f := ((emitNode target (scene.tree.nodes.size + 1) r scene).run #[]).1
        if f.isEmpty then [] else [target.render scene.config f])
      (emitRoots target) := by
  unfold emitRoots
  refine Yields.reads_bind (Yields.bind (Yields.forIn_append _ fun root acc => ?_)
    fun bodies listed => Yields.pure (by rw [listed, List.nil_append]))
  refine Yields.bind (emitNode_steady steady scene _ root).yields fun f emitted => ?_
  subst emitted
  split
  · rename_i shown
    exact Yields.pure (by simp_all)
  · rename_i hidden
    exact Yields.pure (by simp_all)

/-- The code of a run is the target's document of the bodies of its roots. -/
theorem emitTree_document (target : Target) (scene : Scene) : ∃ name,
    (emitTree target scene).1 =
      target.document scene.config name ((emitRoots target scene).run #[]).1 := by
  unfold emitTree
  split
  rename_i run
  exact ⟨_, by rw [run]⟩

/-- In a composable function, every entry of the import table one of whose needles is the
opening of a fragment written out under a root is imported, when the fragment's name is on one
line. -/
theorem Compose.opening_imported (scene : Scene) (mode : scene.config.composeMode = .composable) :
    ∃ lines rest, (emitTree Compose.target scene).1 =
        String.join lines ++ "\n@Composable\nfun " ++ rest ∧
      (∀ l ∈ lines, ∃ path, l = "import " ++ path ++ "\n") ∧
      ∀ r ∈ scene.tree.roots, ∀ g, BackendKind.compose.Shows
          ((emitNode Compose.target (scene.tree.nodes.size + 1) r scene).run #[]).1 g →
        g.element ≠ "" → '\n' ∉ g.element.toList → '\r' ∉ g.element.toList →
        ∀ needles path, (needles, path) ∈ Compose.imports → Compose.opening g ∈ needles →
          "import " ++ path ++ "\n" ∈ lines := by
  obtain ⟨name, document⟩ := emitTree_document Compose.target scene
  obtain ⟨lines, rest, shaped, imported, covers⟩ :=
    Compose.document_imports scene.config mode name ((emitRoots Compose.target scene).run #[]).1
  refine ⟨lines, rest, document.trans shaped, imported, ?_⟩
  intro r root g shows named noFeed noReturn needles path entry needle
  have opened := Compose.inline_opening noFeed noReturn
  -- the root's fragment emits something, so its text is one of the bodies
  have emitted : Compose.composable
      ((emitNode Compose.target (scene.tree.nodes.size + 1) r scene).run #[]).1 ∈
      ((emitRoots Compose.target scene).run #[]).1 := by
    have steady : Compose.target.Steady := (BackendKind.target_closed .compose).steady
    rw [(emitRoots_bodies steady scene).gives #[]]
    refine List.mem_flatMap.2 ⟨r, root, ?_⟩
    simp only [Compose.isEmpty_of_shows shows (by simpa [Fragment.isEmpty] using named)]
    exact List.mem_singleton_self _
  exact covers _ emitted needles path entry _ needle opened
    (Compose.infix_of_shows opened shows (Compose.opening_in_composable g))

/-- In a composable function for any tree, under any configuration, each box, row, column,
text and image written out under a root, and each flow row and flow column written out as a
call, has the import of its entry of the import table (the entry that looks for its call). -/
theorem composable_imports_cover_elements (tree : AltTree) (config : RunConfig)
    (palette : Palette) :
    let scene : Scene := ⟨tree, { config with composeMode := .composable }, palette⟩
    ∃ lines rest, (emitTree Compose.target scene).1 =
        String.join lines ++ "\n@Composable\nfun " ++ rest ∧
      (∀ l ∈ lines, ∃ path, l = "import " ++ path ++ "\n") ∧
      ∀ r ∈ tree.roots, ∀ g, BackendKind.compose.Shows
          ((emitNode Compose.target (tree.nodes.size + 1) r scene).run #[]).1 g →
        g.element ∈ ["Box", "Row", "Column", "Text", "Image"] ∨
          g.element ∈ ["FlowRow", "FlowColumn"] ∧ Compose.bare g = false →
        ∀ needles path, (needles, path) ∈ Compose.imports → g.element ++ "(" ∈ needles →
          "import " ++ path ++ "\n" ∈ lines := by
  intro scene
  obtain ⟨lines, rest, shaped, imported, covers⟩ := Compose.opening_imported scene rfl
  refine ⟨lines, rest, shaped, imported, ?_⟩
  intro r root g shows element needles path entry called
  obtain ⟨named, noFeed, noReturn⟩ :=
    Compose.elements_named _ (List.mem_append.2 (element.imp id And.left))
  refine covers r root g shows named noFeed noReturn needles path entry ?_
  unfold Compose.opening
  split
  · -- only boxes, rows and columns are written bare, and their entries look for that too
    rename_i bare
    have layout : g.element ∈ Compose.containers := by
      simp only [Compose.bare, Bool.and_eq_true, List.contains_iff_mem] at bare
      exact bare.1.1.1
    rcases element with always | ⟨-, called'⟩
    · exact Compose.imports_bare_needles _ entry _ always layout called
    · simp [bare] at called'
  · exact called

end Handoff
