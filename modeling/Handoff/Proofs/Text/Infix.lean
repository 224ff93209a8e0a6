/-
Module: Handoff.Proofs.Text.Infix
Purpose: Where a run of characters ends up when a text is searched, split into lines and
  indented. Searching finds exactly the runs that are infixes of the text. A run with no line
  feed, no carriage return and a character that is not white space is inline: it lies whole in
  one line of any text holding it, that line is not blank, and so indenting the text keeps the
  run. Joining texts keeps each of them whole. An inline run followed by a line feed ends a line;
  indenting keeps it so when a line feed follows the block or more follows the run in it, and
  dropping leading white space keeps a run that starts with a visible character.
Main exports: Text.occursIn_iff_infix, Text.includes_iff, Text.Inline, Text.infix_lines,
  Text.infix_intercalate, Text.infix_indentBlock, Text.lineEnd_lines, Text.lineEnd_indentBlock,
  Text.lineEnd_indentBlock_of_more, Text.infix_trimStart.
-/
import Handoff.Text.Lines
import Handoff.Text.Search

namespace Handoff.Text

/-! ### Search -/

theorem occursIn_iff_infix (p : List Char) : ∀ s, occursIn p s = true ↔ p <:+: s
  | [] => by simp [occursIn]
  | c :: rest => by
      rw [occursIn, Bool.or_eq_true, List.isPrefixOf_iff_prefix, occursIn_iff_infix p rest,
        List.infix_cons_iff]

/-- A text includes exactly its infixes. -/
theorem includes_iff (s p : String) : includes s p = true ↔ p.toList <:+: s.toList :=
  occursIn_iff_infix _ _

/-! ### Runs that stay on one line -/

/-- A run of characters that no line break cuts and that makes a line holding it not blank. -/
structure Inline (p : List Char) : Prop where
  noFeed : '\n' ∉ p
  noReturn : '\r' ∉ p
  visible : ∃ c ∈ p, isWhiteSpace c = false

/-- A run that avoids a separator lies on one side of it. -/
theorem infix_or_infix_of_not_mem {α : Type} {p l₁ l₂ : List α} {c : α}
    (h : p <:+: l₁ ++ c :: l₂) (absent : c ∉ p) : p <:+: l₁ ∨ p <:+: l₂ := by
  rcases List.infix_append_iff.1 h with left | right | ⟨a, b, rfl, ending, start⟩
  · exact .inl left
  · rcases List.infix_cons_iff.1 right with start | later
    · rcases List.prefix_cons_iff.1 start with rfl | ⟨t, rfl, -⟩
      · exact .inl List.nil_infix
      · exact absurd List.mem_cons_self absent
    · exact .inr later
  · -- the run straddles the separator only if it holds it
    rcases List.prefix_cons_iff.1 start with rfl | ⟨t, rfl, -⟩
    · rw [List.append_nil]
      exact .inl ending.isInfix
    · exact absurd (List.mem_append_right a List.mem_cons_self) absent

theorem infix_dropCarriageReturn {p l : List Char} (h : p <:+: l) (noReturn : '\r' ∉ p) :
    p <:+: dropCarriageReturn l := by
  unfold dropCarriageReturn
  split
  · rename_i rest reversed
    have split : l = rest.reverse ++ ['\r'] := by
      rw [← List.reverse_reverse l, reversed, List.reverse_cons]
    rw [split] at h
    rcases infix_or_infix_of_not_mem h noReturn with kept | empty
    · exact kept
    · rw [List.infix_nil.1 empty]
      exact List.nil_infix
  · exact h

/-- An inline run of the open line and the characters after it lies in one of the lines. -/
theorem infix_linesFrom {p : List Char} (inline : Inline p) (s : List Char) :
    ∀ current, p <:+: current.reverse ++ s → ∃ line ∈ linesFrom current s, p <:+: line.toList := by
  induction s with
  | nil =>
      intro current h
      rw [List.append_nil] at h
      have open_ : current ≠ [] := by
        rintro rfl
        obtain ⟨c, mem, -⟩ := inline.visible
        simp_all
      refine ⟨String.ofList current.reverse, ?_, by simpa using h⟩
      simp [linesFrom, open_]
  | cons c rest ih =>
      intro current h
      by_cases feed : c = '\n'
      · -- the run ends the open line or lies after the line feed
        subst feed
        rcases infix_or_infix_of_not_mem h inline.noFeed with here | later
        · exact ⟨_, List.mem_cons_self, by
            simpa using infix_dropCarriageReturn here inline.noReturn⟩
        · obtain ⟨line, mem, within⟩ := ih [] (by simpa using later)
          exact ⟨line, List.mem_cons_of_mem _ mem, within⟩
      · have step : linesFrom current (c :: rest) = linesFrom (c :: current) rest := by
          simp [linesFrom]
        rw [step]
        exact ih (c :: current) (by simpa using h)

theorem infix_lines {p : List Char} (inline : Inline p) {s : String} (h : p <:+: s.toList) :
    ∃ line ∈ lines s, p <:+: line.toList :=
  infix_linesFrom inline s.toList [] h

/-- Joining texts keeps each of them whole. -/
theorem infix_intercalate (sep : String) {x : String} {l : List String} (mem : x ∈ l) :
    x.toList <:+: (sep.intercalate l).toList := by
  induction l with
  | nil => exact absurd mem List.not_mem_nil
  | cons y rest ih =>
      rcases rest with _ | ⟨z, rest⟩
      · simp only [List.mem_singleton.1 mem, String.intercalate_singleton, List.infix_rfl]
      · rw [String.intercalate_cons_cons, String.toList_append, String.toList_append]
        rcases List.mem_cons.1 mem with rfl | later
        · exact List.infix_append_of_infix_left (List.infix_append_of_infix_left List.infix_rfl)
        · exact List.infix_append_of_infix_right (ih later)

theorem isBlank_eq_false_of_inline {p : List Char} (inline : Inline p) {line : String}
    (h : p <:+: line.toList) : isBlank line = false := by
  obtain ⟨c, mem, shown⟩ := inline.visible
  simp only [isBlank, List.all_eq_false]
  exact ⟨c, h.subset mem, by simp [shown]⟩

/-- Indenting a text keeps every inline run of it. -/
theorem infix_indentBlock {p : List Char} (inline : Inline p) {content : String} (n : Nat)
    (h : p <:+: content.toList) : p <:+: (indentBlock content n).toList := by
  obtain ⟨line, mem, within⟩ := infix_lines inline h
  have indented : spaces n ++ line ∈ (lines content).map fun line =>
      if isBlank line then "" else spaces n ++ line :=
    List.mem_map.2 ⟨line, mem, by rw [isBlank_eq_false_of_inline inline within]; rfl⟩
  refine List.IsInfix.trans ?_ (infix_intercalate "\n" indented)
  rw [String.toList_append]
  exact List.infix_append_of_infix_right within

/-! ### Runs that end a line -/

theorem suffix_dropCarriageReturn {p l : List Char} (h : p <:+ l) (noReturn : '\r' ∉ p) :
    p <:+ dropCarriageReturn l := by
  unfold dropCarriageReturn
  split
  · rename_i rest reversed
    have split : l = rest.reverse ++ ['\r'] := by
      rw [← List.reverse_reverse l, reversed, List.reverse_cons]
    rw [split] at h
    rcases List.suffix_concat_iff.1 h with rfl | ⟨t, rfl, kept⟩
    · exact List.nil_suffix
    · exact absurd (List.mem_append_right t List.mem_cons_self) noReturn
  · exact h

theorem linesFrom_ne_nil : ∀ (current s : List Char), current ≠ [] ∨ s ≠ [] →
    linesFrom current s ≠ []
  | current, [], started => by
      have open_ : current ≠ [] := by simpa using started
      simp [linesFrom, open_]
  | current, c :: rest, _ => by
      by_cases feed : c = '\n'
      · subst feed
        simp [linesFrom]
      · have step : linesFrom current (c :: rest) = linesFrom (c :: current) rest := by
          simp [linesFrom]
        rw [step]
        exact linesFrom_ne_nil (c :: current) rest (.inl (List.cons_ne_nil c current))

/-- Two texts that each run up to their first line feed agree up to it. -/
theorem eq_of_append_feed {a a' b b' : List Char} (eq : a ++ '\n' :: b = a' ++ '\n' :: b')
    (noFeed : '\n' ∉ a) (noFeed' : '\n' ∉ a') : a = a' ∧ b = b' := by
  induction a generalizing a' with
  | nil =>
      cases a' with
      | nil => simpa using eq
      | cons x a' =>
          simp only [List.nil_append, List.cons_append, List.cons.injEq] at eq
          exact absurd (eq.1 ▸ List.mem_cons_self) noFeed'
  | cons x a ih =>
      cases a' with
      | nil =>
          simp only [List.nil_append, List.cons_append, List.cons.injEq] at eq
          exact absurd (eq.1 ▸ List.mem_cons_self) noFeed
      | cons y a' =>
          simp only [List.cons_append, List.cons.injEq] at eq
          obtain ⟨rfl, rest⟩ := eq
          obtain ⟨rfl, rfl⟩ := ih rest (fun mem => noFeed (List.mem_cons_of_mem x mem))
            (fun mem => noFeed' (List.mem_cons_of_mem x mem))
          exact ⟨rfl, rfl⟩

/-- An inline run followed by a line feed ends a line; when more follows, that line is not the
last. -/
theorem lineEnd_linesFrom {p t : List Char} (inline : Inline p) (s : List Char) :
    ∀ current, '\n' ∉ current → p ++ '\n' :: t <:+: current.reverse ++ s →
      ∃ ls₁ line ls₂, linesFrom current s = ls₁ ++ line :: ls₂ ∧ p <:+ line.toList ∧
        (t ≠ [] → ls₂ ≠ []) := by
  induction s with
  | nil =>
      intro current noFeed h
      rw [List.append_nil] at h
      exact absurd (List.mem_reverse.1 (h.subset (by simp))) noFeed
  | cons c rest ih =>
      intro current noFeed h
      by_cases feed : c = '\n'
      · subst feed
        rcases List.infix_append_iff_ne_nil.1 h with before | after | ⟨u, v, -, nonempty, eq, ending, start⟩
        · exact absurd (List.mem_reverse.1 (before.subset (by simp))) noFeed
        · rcases List.infix_cons_iff.1 after with front | later
          · -- the run would start with the line feed
            rcases List.prefix_cons_iff.1 front with empty | ⟨t', starts, -⟩
            · simp at empty
            · obtain ⟨c, mem, -⟩ := inline.visible
              obtain ⟨c', p', rfl⟩ := List.exists_cons_of_ne_nil (List.ne_nil_of_mem mem)
              simp only [List.cons_append, List.cons.injEq] at starts
              exact absurd (starts.1 ▸ List.mem_cons_self) inline.noFeed
          · obtain ⟨ls₁, line, ls₂, split, ends, more⟩ := ih [] (by simp) (by simpa using later)
            exact ⟨String.ofList (dropCarriageReturn current.reverse) :: ls₁, line, ls₂,
              by simp [linesFrom, split], ends, more⟩
        · -- the line feed after the run is this one: the run ends the open line
          rcases List.prefix_cons_iff.1 start with rfl | ⟨v', rfl, following⟩
          · exact absurd rfl nonempty
          obtain ⟨rfl, rfl⟩ := eq_of_append_feed eq inline.noFeed
            fun mem => noFeed (List.mem_reverse.1 (ending.subset mem))
          refine ⟨[], String.ofList (dropCarriageReturn current.reverse), linesFrom [] rest,
            by simp [linesFrom], ?_, fun more => linesFrom_ne_nil [] rest (.inr ?_)⟩
          · rw [String.toList_ofList]
            exact suffix_dropCarriageReturn ending inline.noReturn
          · rintro rfl
            exact more (List.prefix_nil.1 following)
      · have step : linesFrom current (c :: rest) = linesFrom (c :: current) rest := by
          simp [linesFrom]
        rw [step]
        exact ih (c :: current) (fun mem => (List.mem_cons.1 mem).elim (fun e => feed e.symm) noFeed)
          (by simpa using h)

theorem lineEnd_lines {p t : List Char} (inline : Inline p) {s : String}
    (h : p ++ '\n' :: t <:+: s.toList) :
    ∃ ls₁ line ls₂, lines s = ls₁ ++ line :: ls₂ ∧ p <:+ line.toList ∧ (t ≠ [] → ls₂ ≠ []) :=
  lineEnd_linesFrom inline s.toList [] List.not_mem_nil h

/-- Joining keeps each member followed by the separator, once the separator is appended. -/
theorem infix_intercalate_append (sep : String) {x : String} {l : List String} (mem : x ∈ l) :
    (x ++ sep).toList <:+: (sep.intercalate l ++ sep).toList := by
  induction l with
  | nil => exact absurd mem List.not_mem_nil
  | cons y rest ih =>
      rcases rest with _ | ⟨z, rest⟩
      · simp only [List.mem_singleton.1 mem, String.intercalate_singleton, List.infix_rfl]
      · rw [String.intercalate_cons_cons]
        rcases List.mem_cons.1 mem with rfl | later
        · exact ⟨[], (sep.intercalate (z :: rest)).toList ++ sep.toList, by simp⟩
        · simp only [String.append_assoc, String.toList_append] at ih ⊢
          exact List.infix_append_of_infix_right (List.infix_append_of_infix_right (ih later))

/-- Joining keeps a member that is not the last followed by the separator. -/
theorem infix_intercalate_of_ne_nil (sep x : String) (ls₂ : List String) (more : ls₂ ≠ []) :
    ∀ ls₁ : List String, (x ++ sep).toList <:+: (sep.intercalate (ls₁ ++ x :: ls₂)).toList
  | [] => by
      rw [List.nil_append, String.intercalate_cons_of_ne_nil more]
      simp only [String.toList_append]
      exact List.infix_append_left
  | y :: ls₁ => by
      have later := infix_intercalate_of_ne_nil sep x ls₂ more ls₁
      rw [List.cons_append, String.intercalate_cons_of_ne_nil (by simp)]
      simp only [String.toList_append] at later ⊢
      exact List.infix_append_of_infix_right later

theorem lineEnd_of_suffix {p : List Char} {line : String} (n : Nat) (ends : p <:+ line.toList) :
    p ++ ['\n'] <:+: (spaces n ++ line ++ "\n").toList := by
  obtain ⟨front, split⟩ := List.suffix_iff_exists_eq_append.1 ends
  exact ⟨(spaces n).toList ++ front, [], by simp [split]⟩

/-- Indenting keeps an inline run that ends a line, when a line feed follows the block. -/
theorem lineEnd_indentBlock {p : List Char} (inline : Inline p) {content : String} (n : Nat)
    (h : p ++ ['\n'] <:+: content.toList) : p ++ ['\n'] <:+: (indentBlock content n ++ "\n").toList := by
  obtain ⟨ls₁, line, ls₂, split, ends, -⟩ := lineEnd_lines inline h
  have indented : spaces n ++ line ∈ (lines content).map fun line =>
      if isBlank line then "" else spaces n ++ line := by
    rw [split]
    exact List.mem_map.2 ⟨line, by simp, by rw [isBlank_eq_false_of_inline inline ends.isInfix]; rfl⟩
  exact (lineEnd_of_suffix n ends).trans (infix_intercalate_append "\n" indented)

/-- Indenting keeps an inline run that ends a line when more follows in the block. -/
theorem lineEnd_indentBlock_of_more {p : List Char} (inline : Inline p) {content : String}
    (n : Nat) {x : Char} (h : p ++ ['\n', x] <:+: content.toList) :
    p ++ ['\n'] <:+: (indentBlock content n).toList := by
  obtain ⟨ls₁, line, ls₂, split, ends, more⟩ := lineEnd_lines (t := [x]) inline h
  have shown : (if isBlank line then "" else spaces n ++ line) = spaces n ++ line := by
    rw [isBlank_eq_false_of_inline inline ends.isInfix]; rfl
  let indent := fun line => if isBlank line then "" else spaces n ++ line
  have joined := infix_intercalate_of_ne_nil "\n" (spaces n ++ line) (ls₂.map indent)
    (by simpa using more (List.cons_ne_nil x [])) (ls₁.map indent)
  have block : indentBlock content n =
      "\n".intercalate (ls₁.map indent ++ (spaces n ++ line) :: ls₂.map indent) := by
    rw [indentBlock, split, List.map_append, List.map_cons]
    simp only [indent] at shown ⊢
    rw [shown]
  rw [block]
  exact (lineEnd_of_suffix n ends).trans joined

/-- Dropping leading white space keeps a run that starts with another character. -/
theorem infix_trimStart {q : List Char} {s : String} (h : q <:+: s.toList)
    (start : ∀ c ∈ q.head?, isWhiteSpace c = false) : q <:+: (trimStart s).toList := by
  rw [trimStart, String.toList_ofList]
  generalize s.toList = l at h
  induction l with
  | nil => simpa using h
  | cons c l ih =>
      rw [List.dropWhile_cons]
      split
      · rename_i white
        rcases List.infix_cons_iff.1 h with front | later
        · rcases List.prefix_cons_iff.1 front with rfl | ⟨t, rfl, -⟩
          · exact List.nil_infix
          · simp_all
        · exact ih later
      · exact h

end Handoff.Text
