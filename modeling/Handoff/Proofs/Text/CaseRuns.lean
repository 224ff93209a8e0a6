/-
Module: Handoff.Proofs.Text.CaseRuns
Purpose: The native targets write a text run by run, each run's characters under its own case
  transform. When all runs carry one transform, the pieces put together are the whole text under
  it wherever the transform does not look past a run's ends: always with no transform and with
  capitals, which map each character on its own; with lowercase when the text has no capital
  sigma, the one character whose lowercase depends on its neighbours; with title case when every
  run that has characters starts a word of the whole text (it starts the text or follows white
  space). Elsewhere the two differ: title case starts a word again at each run, and a sigma
  that ends a run is lowered as if nothing followed or came before it.
Main exports: wordStartAfter, titleCase_append, Text.lowerFrom_of_sigma_not_mem,
  KeepsAcrossRuns, join_applyCase_runs.
-/
import Mathlib
import Handoff.Emit.Scene

namespace Handoff

/-! ### Title case -/

/-- Whether the character after `before` starts a word in title case, from `start` at the
beginning: it does after white space, and at the beginning when `start` holds. -/
def wordStartAfter (start : Bool) (before : List Char) : Bool :=
  before.foldl (fun _ c => Text.isWhiteSpace c) start

@[simp] theorem wordStartAfter_nil (start : Bool) : wordStartAfter start [] = start := rfl

theorem wordStartAfter_append (start : Bool) (xs ys : List Char) :
    wordStartAfter start (xs ++ ys) = wordStartAfter (wordStartAfter start xs) ys := by
  simp [wordStartAfter, List.foldl_append]

/-- Title case of a text in two parts: each part in title case, the second one starting where
the first left off. -/
theorem titleCase_append (start : Bool) (xs ys : List Char) :
    titleCase start (xs ++ ys) = titleCase start xs ++ titleCase (wordStartAfter start xs) ys := by
  induction xs generalizing start with
  | nil => rfl
  | cons c rest ih => simp [titleCase, ih, wordStartAfter]

/-- Title-casing parts one by one, each from a word start, gives the title case of the whole
when each part that has characters starts a word of the whole. -/
theorem titleCase_flatten (start : Bool) (parts : List (List Char))
    (starts : ∀ k (lt : k < parts.length), parts[k] ≠ [] →
      wordStartAfter start (parts.take k).flatten = true) :
    (parts.map (titleCase true)).flatten = titleCase start parts.flatten := by
  induction parts generalizing start with
  | nil => rfl
  | cons part rest ih =>
      -- the later parts start words after `part` just as they did after nothing
      have later : ∀ k (lt : k < rest.length), rest[k] ≠ [] →
          wordStartAfter (wordStartAfter start part) (rest.take k).flatten = true := by
        intro k lt nonempty
        have := starts (k + 1) (by simpa using lt) (by simpa using nonempty)
        simpa [wordStartAfter_append] using this
      rw [List.map_cons, List.flatten_cons, List.flatten_cons, titleCase_append, ih _ later]
      by_cases empty : part = []
      · simp [empty, titleCase]
      · have first := starts 0 (by simp) (by simpa using empty)
        simp only [List.take_zero, List.flatten_nil, wordStartAfter_nil] at first
        rw [first]

/-! ### Lowercase -/

/-- Without a capital sigma, lowercase maps each character on its own, whatever came before. -/
theorem Text.lowerFrom_of_sigma_not_mem (before s : List Char) (noSigma : 'Σ' ∉ s) :
    Text.lowerFrom before s = s.flatMap Text.lowerChars := by
  induction s generalizing before with
  | nil => rfl
  | cons c rest ih =>
      have notSigma : c ≠ 'Σ' := fun same => noSigma (same ▸ List.mem_cons_self)
      have restFree : 'Σ' ∉ rest := fun held => noSigma (List.mem_cons_of_mem c held)
      simp [Text.lowerFrom, notSigma, ih _ restFree]

/-! ### Texts in pieces -/

theorem join_map_toUpper (texts : List String) :
    String.join (texts.map Text.toUpper) = Text.toUpper (String.join texts) := by
  apply String.ext
  simp [Text.toUpper, String.toList_join, List.flatMap_assoc, List.flatMap_map]

theorem join_map_toLower (texts : List String) (noSigma : 'Σ' ∉ (String.join texts).toList) :
    String.join (texts.map Text.toLower) = Text.toLower (String.join texts) := by
  have pieceFree : ∀ s ∈ texts, 'Σ' ∉ s.toList := fun s held sigma =>
    noSigma (by rw [String.toList_join]; exact List.mem_flatMap.mpr ⟨s, held, sigma⟩)
  apply String.ext
  rw [Text.toLower, String.toList_ofList, Text.lowerFrom_of_sigma_not_mem _ _ noSigma,
    String.toList_join, String.toList_join, List.flatMap_assoc, List.flatMap_map]
  exact List.flatMap_congr fun s held => by
    rw [Text.toLower, String.toList_ofList, Text.lowerFrom_of_sigma_not_mem _ _ (pieceFree s held)]

/-- When a case transform applied to each of `texts` on its own agrees with it applied to the
texts put together: the transform never looks past a piece's ends. -/
def KeepsAcrossRuns (texts : List String) : TextCase → Prop
  | .original | .upper => True
  | .lower => 'Σ' ∉ (String.join texts).toList
  | .title => ∀ k (lt : k < texts.length), texts[k] ≠ "" →
      wordStartAfter true (String.join (texts.take k)).toList = true

theorem join_map_applyCase (texts : List String) (t : TextCase) (keeps : KeepsAcrossRuns texts t) :
    String.join (texts.map (applyCase · t)) = applyCase (String.join texts) t := by
  cases t with
  | original => simp [applyCase]
  | upper => exact join_map_toUpper texts
  | lower => exact join_map_toLower texts keeps
  | title =>
      -- on characters: the pieces' characters are the parts, and a piece is empty iff its
      -- characters are
      have starts : ∀ k (lt : k < (texts.map String.toList).length),
          (texts.map String.toList)[k] ≠ [] →
            wordStartAfter true ((texts.map String.toList).take k).flatten = true := by
        intro k lt nonempty
        rw [List.length_map] at lt
        have := keeps k lt (by simpa using nonempty)
        simpa [String.toList_join, List.flatMap_def, List.map_take] using this
      apply String.ext
      have whole := titleCase_flatten true (texts.map String.toList) starts
      simpa [applyCase, String.toList_join, List.flatMap_def, Function.comp_def] using whole

/-- The text a native target writes for a text node whose runs all carry the transform `t`, the
runs' characters each under `t` put together, is the node's whole text under `t`, as long as
`t` does not look past the runs' ends. -/
theorem join_applyCase_runs (content : TextContent) (t : TextCase)
    (same : ∀ r ∈ content.runs, r.caseTransform = t)
    (keeps : KeepsAcrossRuns (content.runs.map TextRun.characters) t) :
    String.join (content.runs.map fun r => applyCase r.characters r.caseTransform) =
      applyCase content.characters t := by
  have uniform : content.runs.map (fun r => applyCase r.characters r.caseTransform) =
      (content.runs.map TextRun.characters).map (applyCase · t) := by
    rw [List.map_map]
    exact List.map_congr_left fun r held => by simp [same r held]
  rw [uniform, TextContent.characters]
  exact join_map_applyCase _ t keeps

/-- A title in two runs, the second one bold, cut at the space between its words. -/
def boldSecondWord : TextContent :=
  let run (characters : String) (fontWeight : Nat) : TextRun :=
    { characters, fontSize := 12, fontWeight, fontFamily := "Inter", italic := false,
      decoration := .plain, caseTransform := .title, fillRef := none, letterSpacing := 0,
      lineHeight := .auto }
  { runs := [run "hello " 400, run "world" 700], align := .left, autoResize := .fixedBox }

theorem join_applyCase_boldSecondWord :
    (∀ r ∈ boldSecondWord.runs, r.caseTransform = .title) ∧
      KeepsAcrossRuns (boldSecondWord.runs.map TextRun.characters) .title ∧
      String.join (boldSecondWord.runs.map fun r => applyCase r.characters r.caseTransform) =
        applyCase boldSecondWord.characters .title := by
  have same : ∀ r ∈ boldSecondWord.runs, r.caseTransform = .title := by decide
  have keeps : KeepsAcrossRuns (boldSecondWord.runs.map TextRun.characters) .title := by
    unfold KeepsAcrossRuns
    decide
  exact ⟨same, keeps, join_applyCase_runs boldSecondWord .title same keeps⟩

end Handoff
