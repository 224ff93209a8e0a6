/-
Module: Handoff.Proofs.Emit.Confinement
Purpose: The markup targets keep design strings where they belong. A fragment is confined when
  each style entry fits its attribute (a declaration with no double quote, or a class that is a
  word), each argument has no double quote unless it passes exported vector markup to JSX, and
  each content line is escaped text or a line of a node's exported vector markup. Every
  styling step adds only entries that fit, so every fragment the inline-style and utility-class
  targets write out is confined, as long as the strings they write bare (image references, and
  for classes font families and scale tokens) keep to what their attribute allows.
Main exports: StyleAttr.Fits, Markup.Escaped, Scene.Exports, Markup.innerHtml, Confined,
  ConfinedBelow.
-/
import Handoff.Proofs.Emit.ClassWords
import Handoff.Proofs.Emit.Layouts
import Handoff.Proofs.Emit.Steady

namespace Handoff

open Text

/-- A style entry its attribute can carry: a declaration whose property and value hold no double
quote, or a class that is a word, with no value. -/
def StyleAttr.Fits : StyleAttr → String × String → Prop
  | .inline, e => Quoteless e.1 ∧ Quoteless e.2
  | .classes, e => ClassWord e.1 ∧ e.2 = ""

instance (attr : StyleAttr) : DecidablePred attr.Fits := fun e =>
  match attr with
  | .inline => inferInstanceAs (Decidable (Quoteless e.1 ∧ Quoteless e.2))
  | .classes => inferInstanceAs (Decidable (ClassWord e.1 ∧ e.2 = ""))

@[simp] theorem StyleAttr.fits_inline {p v : String} :
    StyleAttr.inline.Fits (p, v) ↔ Quoteless p ∧ Quoteless v := Iff.rfl

@[simp] theorem StyleAttr.fits_classes {c v : String} :
    StyleAttr.classes.Fits (c, v) ↔ ClassWord c ∧ v = "" := Iff.rfl

/-- Text content as markup escaping writes it: line breaks, and characters other than an opening
angle bracket and, in JSX, other than braces. -/
inductive Markup.Escaped (mode : MarkupMode) : List Char → Prop
  | nil : Markup.Escaped mode []
  | lineBreak {rest : List Char} : Markup.Escaped mode rest →
      Markup.Escaped mode ("<br />".toList ++ rest)
  | char {c : Char} {rest : List Char} (notOpen : c ≠ '<')
      (notBrace : mode = .jsx → c ≠ '\x7b' ∧ c ≠ '\x7d') :
      Markup.Escaped mode rest → Markup.Escaped mode (c :: rest)

/-- Vector markup that a node of the scene exports. -/
def Scene.Exports (scene : Scene) (markup : String) : Prop :=
  ∃ i n, scene.tree.get? i = some n ∧ n.embeddedVectorMarkup = some markup

/-- The argument through which JSX takes exported vector markup as inner HTML, in a template
literal. -/
def Markup.innerHtml (markup : String) : String × String :=
  ("dangerouslySetInnerHTML",
    "\x7b\x7b __html: \x60" ++ String.ofList (Markup.templateLiteral markup.toList) ++ "\x60 \x7d\x7d")

/-- A markup fragment that keeps the design strings in their place: each style entry fits its
attribute, each argument holds no double quote unless it passes exported vector markup, and
each content line is escaped text or a line of exported vector markup. -/
structure Confined (scene : Scene) (attr : StyleAttr) (f : Fragment) : Prop where
  styles : ∀ e ∈ f.styles, attr.Fits e
  args : ∀ e ∈ f.args, Quoteless e.2 ∨ ∃ markup, scene.Exports markup ∧ e = Markup.innerHtml markup
  content : ∀ line ∈ f.content, Markup.Escaped scene.config.markupMode line.toList ∨
    ∃ markup, scene.Exports markup ∧ line ∈ Text.lines markup

/-- Every fragment written out inside `f` is confined. -/
def ConfinedBelow (scene : Scene) (attr : StyleAttr) (b : BackendKind) (f : Fragment) : Prop :=
  ∀ g, b.Shows f g → Confined scene attr g

theorem mem_setEntry {k v : String} {e : String × String} :
    ∀ {t : List (String × String)}, e ∈ setEntry k v t → e = (k, v) ∨ e ∈ t
  | [], m => by simpa [setEntry] using m
  | (k₀, v₀) :: rest, m => by
      unfold setEntry at m
      split at m
      · rcases List.mem_cons.1 m with rfl | later
        · rename_i same
          obtain rfl : k₀ = k := by simpa using same
          exact .inl rfl
        · exact .inr (.tail _ later)
      · rcases List.mem_cons.1 m with rfl | later
        · exact .inr List.mem_cons_self
        · exact (mem_setEntry later).imp_right (.tail _)

namespace Confined

variable {scene : Scene} {attr : StyleAttr} {f : Fragment}

theorem new (e : String) : Confined scene attr (Fragment.new e) :=
  ⟨by simp [Fragment.new], by simp [Fragment.new], by simp [Fragment.new]⟩

theorem of_same {g : Fragment} (h : Confined scene attr f) (styles : g.styles = f.styles)
    (args : g.args = f.args) (content : g.content = f.content) : Confined scene attr g :=
  ⟨styles ▸ h.styles, args ▸ h.args, content ▸ h.content⟩

theorem withStyle (h : Confined scene attr f) {k v : String} (fits : attr.Fits (k, v)) :
    Confined scene attr (f.withStyle k v) :=
  ⟨fun e m => (mem_setEntry m).elim (· ▸ fits) (h.styles e), h.args, h.content⟩

theorem withClass (h : Confined scene .classes f) {k : String} (word : ClassWord k) :
    Confined scene .classes (f.withClass k) :=
  h.withStyle ⟨word, rfl⟩

theorem withArg (h : Confined scene attr f) {k v : String} (quoteless : Quoteless v) :
    Confined scene attr (f.withArg k v) :=
  ⟨h.styles, fun e m => (mem_setEntry m).elim (fun same => .inl (same ▸ quoteless)) (h.args e),
    h.content⟩

theorem withContent (h : Confined scene attr f) {line : String}
    (written : Markup.Escaped scene.config.markupMode line.toList ∨
      ∃ markup, scene.Exports markup ∧ line ∈ Text.lines markup) :
    Confined scene attr (f.withContent line) := by
  refine ⟨h.styles, h.args, fun l m => ?_⟩
  rcases List.mem_append.1 m with old | new
  · exact h.content l old
  · obtain rfl := List.mem_singleton.1 new
    exact written

theorem withChild (h : Confined scene attr f) (c : Fragment) : Confined scene attr (f.withChild c) :=
  h.of_same (by simp) (by simp) (by unfold Fragment.withChild; split <;> rfl)

theorem withChildren (h : Confined scene attr f) (cs : List Fragment) :
    Confined scene attr (f.withChildren cs) := by
  induction cs generalizing f with
  | nil => exact h
  | cons c cs ih => exact ih (h.withChild c)

/-- Lines of exported vector markup added as content keep a fragment confined. -/
theorem foldl_withContent {markup : String} (exported : scene.Exports markup) :
    ∀ (ls : List String), (∀ l ∈ ls, l ∈ Text.lines markup) → ∀ {f : Fragment},
      Confined scene attr f → Confined scene attr (ls.foldl Fragment.withContent f)
  | [], _, _, h => h
  | l :: ls, lines, _, h =>
      foldl_withContent exported ls (fun l' m => lines l' (.tail _ m))
        (h.withContent (.inr ⟨markup, exported, lines l List.mem_cons_self⟩))

end Confined

@[simp] theorem Fragment.children_withContent (f : Fragment) (l : String) :
    (f.withContent l).children = f.children := rfl

@[simp] theorem Fragment.children_foldl_withContent (ls : List String) (f : Fragment) :
    (ls.foldl Fragment.withContent f).children = f.children := by
  induction ls generalizing f with
  | nil => rfl
  | cons l ls ih => exact (ih (f.withContent l)).trans (Fragment.children_withContent f l)

/-- The fragment of exported vector markup holds it as its content lines or as its inner-HTML
argument, with no children. -/
theorem Markup.vectorFragment_confined {scene : Scene} {attr : StyleAttr} {markup : String}
    (exported : scene.Exports markup) :
    Confined scene attr (Markup.vectorFragment markup scene.config.markupMode) ∧
      (Markup.vectorFragment markup scene.config.markupMode).children = [] := by
  unfold Markup.vectorFragment
  split
  · refine ⟨Confined.foldl_withContent exported _ (fun l m => (List.mem_filter.1 m).1)
      (Confined.new "div"), by simp⟩
  · refine ⟨⟨by simp [Fragment.withArg, Fragment.new], fun e m => ?_,
      by simp [Fragment.withArg, Fragment.new]⟩, rfl⟩
    simp only [Fragment.withArg, Fragment.new, setEntry, List.mem_singleton] at m
    exact .inr ⟨markup, exported, m⟩

/-- The design strings of a node that a target writes without escaping keep to what their
attribute allows: an image reference, written inside a CSS url as it is, holds no double quote,
and in a class no white space but spaces; a font family, which a class carries in an arbitrary
value, holds no tab, form feed or carriage return. -/
def StyleAttr.Bare : StyleAttr → AltNode → Prop
  | .inline, n => ∀ e ∈ n.paint.fills, ∀ image, e.kind = .image image → Quoteless image.imageRef
  | .classes, n =>
      (∀ e ∈ n.paint.fills, ∀ image, e.kind = .image image → Spaced image.imageRef) ∧
        ∀ content, n.text = some content → ∀ run ∈ content.runs,
          ∀ c ∈ run.fontFamily.toList, c ≠ '\t' ∧ c ≠ '\x0c' ∧ c ≠ '\r'

/-! ### Below a fragment -/

section Below

variable {scene : Scene} {attr : StyleAttr} {b : BackendKind}
  (markup : ∀ e, b.printsAll e = true)
include markup

theorem printedChildren_markup (f : Fragment) : b.printedChildren f = f.children := by
  simp [BackendKind.printedChildren, markup]

/-- A confined fragment whose children are confined below is confined below. -/
theorem ConfinedBelow.of_children {f : Fragment} (h : Confined scene attr f)
    (below : ∀ c ∈ f.children, ConfinedBelow scene attr b c) : ConfinedBelow scene attr b f := by
  intro g shows
  rcases Relation.ReflTransGen.cases_head shows with rfl | ⟨c, printed, rest⟩
  · exact h
  · rw [printedChildren_markup markup] at printed
    exact below c printed g rest

theorem ConfinedBelow.child {f : Fragment} (h : ConfinedBelow scene attr b f) {c : Fragment}
    (mem : c ∈ f.children) : ConfinedBelow scene attr b c :=
  fun g shows => h g (.head (by rw [printedChildren_markup markup]; exact mem) shows)

/-- A confined fragment with no children, added to a fragment whose children are confined below,
leaves its children confined below. -/
theorem ConfinedBelow.children_withChild {g s : Fragment}
    (below : ∀ c ∈ g.children, ConfinedBelow scene attr b c) (hs : Confined scene attr s)
    (empty : s.children = []) : ∀ c ∈ (g.withChild s).children, ConfinedBelow scene attr b c := by
  intro c m
  simp only [Fragment.children_withChild] at m
  split at m
  · exact below c m
  · rcases List.mem_append.1 m with old | new
    · exact below c old
    · obtain rfl := List.mem_singleton.1 new
      refine ConfinedBelow.of_children markup hs fun c' m' => ?_
      rw [empty] at m'
      exact absurd m' List.not_mem_nil

end Below

/-- The children handed to a box that has none, each confined below, are the box's children. -/
theorem ConfinedBelow.children_withChildren {scene : Scene} {attr : StyleAttr} {b : BackendKind}
    {g : Fragment} (empty : g.children = []) {children : List (AltNode × Fragment)}
    (held : ∀ c ∈ children, ConfinedBelow scene attr b c.2) :
    ∀ c ∈ (g.withChildren (children.map Prod.snd)).children, ConfinedBelow scene attr b c := by
  intro c m
  simp only [Fragment.children_withChildren, empty, List.nil_append, List.mem_filter,
    List.mem_map] at m
  obtain ⟨⟨child, held', rfl⟩, -⟩ := m
  exact held child held'

section

variable {scene : Scene} {attr : StyleAttr} {b : BackendKind}

theorem ConfinedBelow.confined {f : Fragment} (h : ConfinedBelow scene attr b f) :
    Confined scene attr f :=
  h f .refl

/-- The fragment that emits nothing writes out nothing below it. -/
theorem ConfinedBelow.empty : ConfinedBelow scene attr b Fragment.empty := by
  intro g shows
  rcases Relation.ReflTransGen.cases_head shows with rfl | ⟨c, printed, -⟩
  · exact Confined.new ""
  · have none : b.printedChildren Fragment.empty = [] := by
      unfold BackendKind.printedChildren
      split
      · rfl
      · split <;> rfl
    rw [none] at printed
    exact absurd printed List.not_mem_nil

end

/-! ### Escaped text -/

namespace Markup

/-- Line feeds written as line breaks, around characters that escaping already made safe. -/
theorem escaped_breaks {mode : MarkupMode} :
    ∀ {l : List Char}, (∀ c ∈ l, c ≠ '\n' → c ≠ '<' ∧ (mode = .jsx → c ≠ '\x7b' ∧ c ≠ '\x7d')) →
      Escaped mode (String.join (l.map fun c =>
        if c == '\n' then "<br />" else String.singleton c)).toList
  | [], _ => .nil
  | c :: rest, safe => by
      have tail := escaped_breaks fun d m => safe d (.tail _ m)
      rw [List.map_cons, String.join_cons, String.toList_append]
      split
      · exact .lineBreak tail
      · rename_i notFeed
        obtain ⟨notOpen, notBrace⟩ := safe c List.mem_cons_self (by simpa using notFeed)
        rw [String.toList_singleton, List.singleton_append]
        exact .char notOpen notBrace tail

/-- Escaped markup text holds no opening angle bracket. -/
theorem ne_open_of_mem_escapeHtml {s : String} {d : Char} (m : d ∈ (escapeHtml s).toList) :
    d ≠ '<' := by
  rintro rfl
  rcases mem_escapeHtml m with listed | ⟨-, escaped⟩
  · revert listed; decide
  · simp at escaped

/-- Text content is written with its markup characters as references, braces too in JSX, and
line feeds as line breaks. -/
theorem escaped_escapeText (s : String) (mode : MarkupMode) :
    Escaped mode (escapeText s mode).toList := by
  unfold escapeText
  refine escaped_breaks fun c m _ => ?_
  cases mode with
  | html => exact ⟨ne_open_of_mem_escapeHtml m, fun jsx => absurd jsx (by decide)⟩
  | jsx =>
      simp only [String.toList_join, List.flatMap_map, List.mem_flatMap] at m
      obtain ⟨d, inEscaped, written⟩ := m
      -- a brace is written as a numeric reference, which holds neither brackets nor braces
      have references : ∀ r ∈ ["&#123;", "&#125;"], ∀ x ∈ r.toList,
          x ≠ '<' ∧ x ≠ '\x7b' ∧ x ≠ '\x7d' := by
        simp
      split at written
      · obtain ⟨notOpen, notBrace⟩ := references _ (by simp) c written
        exact ⟨notOpen, fun _ => notBrace⟩
      split at written
      · obtain ⟨notOpen, notBrace⟩ := references _ (by simp) c written
        exact ⟨notOpen, fun _ => notBrace⟩
      rename_i notOpen notClose
      obtain rfl : c = d := by simpa using written
      exact ⟨ne_open_of_mem_escapeHtml inEscaped, fun _ => ⟨by simpa using notOpen, by simpa using notClose⟩⟩

end Markup

/-! ### Every fragment of a run -/

theorem Yields.config_bind {β : Type} {scene : Scene} {P : β → Prop} {f : RunConfig → Emit β}
    (rest : Yields scene P (f scene.config)) : Yields scene P (Emit.config >>= f) :=
  ⟨fun ds => rest.gives ds⟩

/-- Every kept result of a filtering loop whose every step keeps only results with `P` has `P`. -/
theorem Yields.filterMapM {γ β : Type} {scene : Scene} {xs : List γ} {f : γ → Emit (Option β)}
    {P : β → Prop} (each : ∀ x, Yields scene (fun o => ∀ y ∈ o, P y) (f x)) :
    Yields scene (fun ys => ∀ y ∈ ys, P y) (xs.filterMapM f) := by
  -- the loop behind filterMapM, from any list kept so far
  suffices loop : ∀ kept, (∀ y ∈ kept, P y) →
      Yields scene (fun ys => ∀ y ∈ ys, P y) (List.filterMapM.loop f xs kept) from
    loop [] (by simp)
  induction xs with
  | nil => exact fun kept held => Yields.pure fun y m => held y (List.mem_reverse.1 m)
  | cons x rest ih =>
      intro kept held
      refine Yields.bind (each x) fun found has => ?_
      cases found with
      | none => exact ih kept held
      | some y =>
          refine ih (y :: kept) fun z m => ?_
          rcases List.mem_cons.1 m with rfl | old
          · exact has z rfl
          · exact held z old

/-- What a markup target's methods keep: on a node whose bare strings keep to their attribute,
each method gives a fragment confined below, from children confined below, and naming a layer
keeps a fragment confined below. -/
structure Target.Confines (target : Target) (scene : Scene) (attr : StyleAttr) (b : BackendKind) :
    Prop where
  text : ∀ n, attr.Bare n → Yields scene (ConfinedBelow scene attr b) (target.text n)
  vector : ∀ n markup, attr.Bare n → scene.Exports markup →
    Yields scene (ConfinedBelow scene attr b) (target.vector n markup)
  shape : ∀ n, attr.Bare n → Yields scene (ConfinedBelow scene attr b) (target.shape n)
  container : ∀ n children, attr.Bare n → (∀ c ∈ children, ConfinedBelow scene attr b c.2) →
    Yields scene (ConfinedBelow scene attr b) (target.container n children)
  named : ∀ n f, ConfinedBelow scene attr b f →
    ConfinedBelow scene attr b (target.withLayerName n f)

/-- Every fragment written out inside the output of any node of a run is confined, when the
target's methods keep confinement and every node's bare strings keep to their attribute. -/
theorem emitNode_confined {target : Target} {scene : Scene} {attr : StyleAttr} {b : BackendKind}
    (confines : target.Confines scene attr b)
    (bare : ∀ i n, scene.tree.get? i = some n → attr.Bare n) :
    ∀ fuel i, Yields scene (ConfinedBelow scene attr b) (emitNode target fuel i)
  | 0, _ => Yields.pure ConfinedBelow.empty
  | fuel + 1, i => by
      rw [emitNode]
      refine Yields.reads_bind ?_
      split
      · exact Yields.pure ConfinedBelow.empty
      · rename_i n found
        lift_lets
        intro layer
        -- naming the layer keeps the fragment confined below
        have named : ∀ f, ConfinedBelow scene attr b f →
            Yields scene (ConfinedBelow scene attr b) (layer f) := by
          intro f below
          simp only [layer]
          split
          · exact Yields.pure (confines.named n f below)
          · exact Yields.pure below
        clear_value layer
        split
        · split
          · rename_i markup exported
            exact Yields.bind (confines.vector n markup (bare i n found) ⟨i, n, found, exported⟩) named
          · exact Yields.bind (Yields.pure ConfinedBelow.empty) named
        · split
          · exact Yields.bind (confines.text n (bare i n found)) named
          · -- each child's output is confined below, by the induction on the depth left
            refine Yields.bind (Yields.filterMapM (P := fun c : AltNode × Fragment =>
              ConfinedBelow scene attr b c.2) fun child => ?_) fun cs held =>
                Yields.bind (confines.container n cs (bare i n found) held) named
            refine Yields.bind (emitNode_confined confines bare fuel child) fun f below => ?_
            refine Yields.pure fun y m => ?_
            obtain ⟨c, -, rfl⟩ := Option.mem_map.1 m
            exact below
          all_goals exact Yields.bind (confines.shape n (bare i n found)) named

end Handoff
