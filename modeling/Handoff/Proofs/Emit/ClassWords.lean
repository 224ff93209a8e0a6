/-
Module: Handoff.Proofs.Emit.ClassWords
Purpose: The classes the utility-class target builds are words: no double quote, no ASCII white
  space, never empty. An arbitrary value turns its spaces into underscores, so a value with no
  other white space and no quote gives a word; a scale class is its prefix, the prefix and a
  token of the configured scale, or an arbitrary length; a colour class is an arbitrary custom
  property, a palette name, or an arbitrary colour. What can break a word comes from outside
  the formatters: a token of a configured scale, a palette name, an image reference, a font
  family with a tab, form feed or carriage return.
Main exports: Text.ClassWord, Tailwind.classWord_arbitrary, Tailwind.spaced_tightCommas,
  ScaleTable.Tokens, Tailwind.Scales.Tokens, Tailwind.classWord_scaled, Palette.Named,
  Tailwind.classWord_colorClass, Tailwind.classWord_weightClass, Tailwind.classWord_borderWidth,
  Text.classWord_replaceFirst.
-/
import Mathlib
import Handoff.Proofs.Text.Alphabet
import Handoff.Target.Tailwind

namespace Handoff

namespace Text

/-- A text that stands as one class of a class attribute: a token that is not empty. -/
def ClassWord (s : String) : Prop := Token s ∧ s ≠ ""

instance : DecidablePred ClassWord := fun s => inferInstanceAs (Decidable (Token s ∧ s ≠ ""))

example : ClassWord "w-[137px]" ∧ ¬ClassWord "" ∧ ¬ClassWord "w-a b" := by decide

theorem ClassWord.append {a b : String} (ha : ClassWord a) (hb : Token b) : ClassWord (a ++ b) :=
  ⟨token_append.2 ⟨ha.1, hb⟩, fun empty => ha.2 (String.append_eq_empty_iff.1 empty).1⟩

theorem ClassWord.prepend {a b : String} (ha : Token a) (hb : ClassWord b) : ClassWord (a ++ b) :=
  ⟨token_append.2 ⟨ha, hb.1⟩, fun empty => hb.2 (String.append_eq_empty_iff.1 empty).2⟩

/-- Replacing the earliest occurrence of a pattern keeps only characters of the text and of the
replacement. -/
theorem mem_replaceFirstChars {p r : List Char} {d : Char} :
    ∀ {l : List Char}, d ∈ replaceFirstChars p r l → d ∈ l ∨ d ∈ r
  | [], m => by
      simp only [replaceFirstChars] at m
      split at m
      · exact .inr m
      · exact absurd m List.not_mem_nil
  | c :: rest, m => by
      simp only [replaceFirstChars] at m
      split at m
      · rcases List.mem_append.1 m with inR | inRest
        · exact .inr inR
        · exact .inl (List.mem_of_mem_drop inRest)
      · rcases List.mem_cons.1 m with rfl | later
        · exact .inl List.mem_cons_self
        · exact (mem_replaceFirstChars later).imp_left (List.mem_cons_of_mem c)

theorem replaceFirstChars_ne_nil {p r : List Char} (hr : r ≠ []) :
    ∀ {l : List Char}, l ≠ [] → replaceFirstChars p r l ≠ []
  | [], nonempty => absurd rfl nonempty
  | c :: rest, _ => by
      simp only [replaceFirstChars]
      split
      · exact fun empty => hr (List.append_eq_nil_iff.1 empty).1
      · exact List.cons_ne_nil _ _

/-- Replacing the earliest occurrence of a pattern in a word by a word gives a word. -/
theorem classWord_replaceFirst {s : String} (hs : ClassWord s) (p : String) {r : String}
    (hr : ClassWord r) : ClassWord (replaceFirst s p r) := by
  refine ⟨fun d m => ?_, fun empty => ?_⟩
  · rw [replaceFirst, String.toList_ofList] at m
    rcases mem_replaceFirstChars m with inS | inR
    · exact hs.1 d inS
    · exact hr.1 d inR
  · have chars := congrArg String.toList empty
    rw [replaceFirst, String.toList_ofList, String.toList_empty] at chars
    exact replaceFirstChars_ne_nil (by simpa using hr.2) (by simpa using hs.2) chars

end Text

open Text

/-! ### Tokens from outside the formatters -/

/-- Every token of a scale table can stand in a class. -/
def ScaleTable.Tokens (t : ScaleTable) : Prop :=
  ∀ e ∈ t.spacing.entries ++ t.fontSize.entries ++ t.radius.entries, Token e.1

/-- Every name of a palette can stand in a class. -/
def Palette.Named (p : Palette) : Prop := ∀ e ∈ p.entries, Token e.name

/-- The entry a scale snaps to is one of its entries. -/
theorem NumericScale.mem_of_nearest {s : NumericScale} {goal threshold : Float}
    {e : String × Float} (h : s.nearest goal threshold = some e) : e ∈ s.entries := by
  unfold NumericScale.nearest at h
  split at h
  · exact List.mem_of_find?_eq_some h
  · exact absurd h (by simp)

/-- The colour a palette names is one of its entries. -/
theorem Palette.mem_of_nearest {p : Palette} {c : Color} {threshold : Float} {e : NamedColor}
    (h : p.nearest c threshold = some e) : e ∈ p.entries := by
  unfold Palette.nearest at h
  split at h
  · split at h
    · exact List.mem_of_getElem? h
    · exact absurd h (by simp)
  · exact absurd h (by simp)

/-- The names of the utility-class palette stand in classes. -/
theorem Palette.tailwind_named : Palette.tailwind.Named := by
  have names : ∀ p ∈ Palette.tailwindHex, Token p.1 := by decide +kernel
  intro e mem
  obtain ⟨⟨name, hex⟩, listed, made⟩ := List.mem_filterMap.1 mem
  obtain ⟨c, -, rfl⟩ := Option.map_eq_some_iff.1 made
  exact names _ listed

namespace Tailwind

/-- Spaces written as underscores leave no white space in a text that had no other. -/
theorem token_replaceChar_space {s : String} (h : Spaced s) : Token (replaceChar s ' ' "_") := by
  intro d m
  simp only [replaceChar, String.toList_join, List.flatMap_map, List.mem_flatMap] at m
  obtain ⟨c, inS, written⟩ := m
  split at written
  · obtain rfl : d = '_' := by simpa using written
    decide
  · rename_i notSpace
    obtain rfl : d = c := by simpa using written
    obtain ⟨quote, white⟩ := h d inS
    exact ⟨quote, white.resolve_left fun space => notSpace (by simp [space])⟩

/-- An arbitrary value of a text with no quote and no white space but spaces is a word. -/
theorem classWord_arbitrary {pfx value : String} (hp : Token pfx) (hv : Spaced value) :
    ClassWord (arbitrary pfx value) := by
  have bracket : ClassWord (pfx ++ "-[") := ClassWord.prepend hp (by decide)
  exact (bracket.append (token_replaceChar_space hv)).append (by decide)

/-- Dropping the space after each comma keeps only characters of the text. -/
theorem tightCommas_go_subset (l : List Char) : tightCommas.go l ⊆ l := by
  fun_induction tightCommas.go l with
  | case1 => exact List.Subset.refl _
  | case2 rest ih => exact List.cons_subset_cons ',' (List.Subset.trans ih (List.subset_cons_self ' ' rest))
  | case3 c rest _ ih => exact List.cons_subset_cons c ih

theorem spaced_tightCommas {s : String} (h : Spaced s) : Spaced (tightCommas s) := by
  intro d m
  rw [tightCommas, String.toList_ofList] at m
  exact h d (tightCommas_go_subset _ m)

/-- Every token of the scales of a run can stand in a class. -/
def Scales.Tokens (s : Scales) : Prop :=
  ∀ scale ∈ [s.spacing, s.fontSize, s.radius].reduceOption, ∀ e ∈ scale.entries, Token e.1

theorem Scales.tokens_ofConfig {config : RunConfig}
    (h : ∀ t, config.scaleTable .tailwind = some t → t.Tokens) : (Scales.ofConfig config).Tokens := by
  intro scale mem e inScale
  simp only [Scales.ofConfig] at mem
  cases table : config.scaleTable .tailwind with
  | none => simp [table] at mem
  | some t =>
      simp only [table, Option.map_some, List.reduceOption_mem_iff, List.mem_cons,
        List.not_mem_nil, or_false, Option.some_inj] at mem
      refine h t table e ?_
      simp only [List.mem_append]
      rcases mem with rfl | rfl | rfl <;> simp [inScale]

/-- The class of a length on a scale whose tokens stand in classes is a word. -/
theorem classWord_scaled {pfx : String} (hp : ClassWord pfx) (value : Float)
    {scale : Option NumericScale} (tokens : ∀ s, scale = some s → ∀ e ∈ s.entries, Token e.1)
    (threshold : Float) : ClassWord (scaled pfx value scale threshold) := by
  simp -zeta -zetaHave only [scaled]
  lift_lets
  intro cls
  have word : ClassWord cls := by
    simp only [cls]
    split
    · exact hp
    · rename_i token v _ snapped
      obtain ⟨s, rfl, nearest⟩ := Option.bind_eq_some_iff.1 snapped
      exact (hp.append (by decide)).append (tokens s rfl _ (NumericScale.mem_of_nearest nearest))
    · exact classWord_arbitrary hp.1 (token_px _).spaced
  split
  · exact ClassWord.prepend (by decide) word
  · exact word

theorem Scales.classWord_spacingClass {s : Scales} (tokens : s.Tokens) {pfx : String}
    (hp : ClassWord pfx) (value : Float) : ClassWord (s.spacingClass pfx value) :=
  classWord_scaled hp value (fun sc same e mem => tokens sc (by simp [same]) e mem) s.threshold

theorem Scales.classWord_fontSize {s : Scales} (tokens : s.Tokens) {pfx : String}
    (hp : ClassWord pfx) (value : Float) : ClassWord (scaled pfx value s.fontSize s.threshold) :=
  classWord_scaled hp value
    (fun sc same e mem => tokens sc (List.reduceOption_mem_iff.2 (by simp [same])) e mem) s.threshold

theorem Scales.classWord_radius {s : Scales} (tokens : s.Tokens) {pfx : String}
    (hp : ClassWord pfx) (value : Float) : ClassWord (scaled pfx value s.radius s.threshold) :=
  classWord_scaled hp value
    (fun sc same e mem => tokens sc (List.reduceOption_mem_iff.2 (by simp [same])) e mem) s.threshold

/-- A palette or arbitrary colour class is a word, when the palette's names stand in classes. -/
theorem classWord_colorClass_named {pfx : String} (hp : ClassWord pfx) {scene : Scene}
    (named : scene.palette.Named) (color : Color) :
    ∀ cls, colorClass.named pfx scene color = some cls → ClassWord cls := by
  intro cls made
  simp only [colorClass.named] at made
  split at made
  · rename_i e nearest
    have name : ClassWord (pfx ++ "-" ++ e.name) :=
      (hp.append (by decide)).append (named e (Palette.mem_of_nearest nearest))
    split at made
    · exact Option.some.inj made ▸ name
    · split at made
      · exact Option.some.inj made ▸ (name.append (by decide)).append (token_repr _)
      · exact Option.some.inj made ▸
          ((name.append (by decide)).append (token_num _)).append (by decide)
  · exact Option.some.inj made ▸
      classWord_arbitrary hp.1 (spaced_tightCommas (spaced_cssColor color))

/-- The class of a solid colour is a word, when the palette's names stand in classes. -/
theorem classWord_colorClass {pfx : String} (hp : ClassWord pfx) (entry : PaintEntry)
    {scene : Scene} (named : scene.palette.Named) :
    ∀ cls, colorClass pfx entry scene = some cls → ClassWord cls := by
  intro cls made
  simp only [colorClass, Option.bind_eq_bind, Option.bind_eq_some_iff] at made
  obtain ⟨color, -, made⟩ := made
  split at made
  · split at made
    · -- the custom property is an identifier and a colour, between parentheses
      rename_i binding _ _
      have value : Spaced ("var(--" ++ tokenIdent binding.name ++ "," ++ cssColor color ++ ")") := by
        simp only [spaced_append, spaced_cssColor, (token_tokenIdent _).spaced, and_true]
        decide
      exact Option.some.inj made ▸ classWord_arbitrary hp.1 (spaced_tightCommas value)
    · exact classWord_colorClass_named hp named color cls made
  · exact classWord_colorClass_named hp named color cls made

/-- The class of the topmost solid paint of a list is a word. -/
theorem classWord_findSome_colorClass {pfx : String} (hp : ClassWord pfx)
    (entries : List PaintEntry) {scene : Scene} (named : scene.palette.Named) :
    ∀ cls, entries.findSome? (colorClass pfx · scene) = some cls → ClassWord cls := by
  intro cls found
  obtain ⟨e, -, made⟩ := List.exists_of_findSome?_eq_some found
  exact classWord_colorClass hp e named cls made

theorem classWord_weightClass (w : Nat) : ∀ cls, weightClass w = some cls → ClassWord cls := by
  intro cls made
  unfold weightClass at made
  split at made
  · exact absurd made (by simp)
  all_goals obtain rfl := Option.some.inj made
  all_goals first
    | decide
    | exact ((show ClassWord "font-[" by decide).append (token_repr w)).append (by decide)

theorem classWord_borderWidth (w : Float) : ClassWord (borderWidth w) := by
  unfold borderWidth
  split
  · decide
  · split
    · exact (show ClassWord "border-" by decide).append (token_num w)
    · exact classWord_arbitrary (by decide) (token_px w).spaced

end Tailwind

end Handoff
