/-
Module: Handoff.Proofs.Emit.Literals
Purpose: The double-quoted literals and the raw strings the native targets write. A literal is
  read as the languages read it: up to its closing quote, undoing the escapes of a backslash, a
  quote, a line feed and, where the language interpolates it, a dollar sign, and refusing a raw
  line terminator. The body `escapeLiteral` writes for a text is read back as exactly that text,
  closing at the quote written after it, unless the text holds a carriage return, which stays
  raw. A Dart raw string closes at its first three single quotes in a row, so it holds a text
  exactly when the text has no three quotes in a row and does not end with a quote.
Main exports: Literal.read, Literal.feed_not_mem_escapeLiteral, Literal.readBody_escaped,
  Literal.read_escapeLiteral, Literal.readRaw, Literal.rawBody_closing, Literal.readRaw_closing.
-/
import Handoff.Emit.Format

namespace Handoff

namespace Literal

/-! ### Double-quoted literals -/

/-- The character an escape stands for: a backslash, a double quote, a line feed, and a dollar
sign where the language interpolates it. -/
def unescape (dollar : Bool) : Char → Option Char
  | '\\' => some '\\'
  | '"' => some '"'
  | 'n' => some '\n'
  | '$' => if dollar then some '$' else none
  | _ => none

/-- Whether a character stands for itself in a literal: not a line terminator, a backslash or,
where the language interpolates it, a dollar sign. -/
def plain (dollar : Bool) (c : Char) : Bool :=
  !(c == '\n' || c == '\r' || c == '\\' || (dollar && c == '$'))

/-- Reads the body of a double-quoted literal up to its closing quote: the characters it stands
for and what follows the quote. -/
def readBody (dollar : Bool) : List Char → Option (List Char × List Char)
  | [] => none
  | '"' :: rest => some ([], rest)
  | '\\' :: c :: rest =>
      (unescape dollar c).bind fun d => (readBody dollar rest).map (Prod.map (d :: ·) id)
  | c :: rest => if plain dollar c then (readBody dollar rest).map (Prod.map (c :: ·) id) else none

/-- Reads a double-quoted literal. -/
def read (dollar : Bool) : List Char → Option (List Char × List Char)
  | '"' :: rest => readBody dollar rest
  | _ => none

/-- The characters a character becomes in the body of a literal. -/
def escapedChars (dollar : Bool) (c : Char) : List Char :=
  if c = '\\' then ['\\', '\\']
  else if c = '"' then ['\\', '"']
  else if c = '\n' then ['\\', 'n']
  else if c = '$' ∧ dollar = true then ['\\', '$']
  else [c]

theorem toList_escapeLiteral (s : String) (dollar : Bool) :
    (escapeLiteral s dollar).toList = s.toList.flatMap (escapedChars dollar) := by
  simp only [escapeLiteral, String.toList_join, List.flatMap_map]
  congr 1
  funext c
  have backslash : "\\\\".toList = ['\\', '\\'] := by decide
  have quote : "\\\"".toList = ['\\', '"'] := by decide
  have feed : "\\n".toList = ['\\', 'n'] := by decide
  have dollarSign : "\\$".toList = ['\\', '$'] := by decide
  simp only [escapedChars, beq_iff_eq, Bool.and_eq_true, apply_ite String.toList, backslash, quote,
    feed, dollarSign, String.toList_singleton]

/-- No line feed stands raw in an escaped text. -/
theorem feed_not_mem_escapeLiteral (s : String) (dollar : Bool) :
    '\n' ∉ (escapeLiteral s dollar).toList := by
  rw [toList_escapeLiteral, List.mem_flatMap]
  rintro ⟨c, -, escaped⟩
  unfold escapedChars at escaped
  repeat' split at escaped
  all_goals simp at escaped
  -- only a character left as it is can be a line feed, and a line feed is escaped
  rename_i notFeed _
  exact notFeed escaped.symm

/-- A character other than a quote or a backslash is read as itself when it is plain. -/
theorem readBody_cons {dollar : Bool} {c : Char} (quote : c ≠ '"') (backslash : c ≠ '\\')
    (rest : List Char) : readBody dollar (c :: rest) =
      if plain dollar c then (readBody dollar rest).map (Prod.map (c :: ·) id) else none := by
  rw [readBody.eq_def]
  split <;> simp_all

/-- Reading a character that is not a carriage return before the rest of the body. -/
theorem map_cons_read {c : Char} (carriage : c ≠ '\r') (cs rest : List Char) :
    Option.map (Prod.map (c :: ·) id) (if '\r' ∈ cs then none else some (cs, rest)) =
      if '\r' ∈ c :: cs then none else some (c :: cs, rest) := by
  by_cases returned : '\r' ∈ cs <;> simp [returned, Ne.symm carriage]

theorem readBody_escaped (dollar : Bool) (rest : List Char) : ∀ cs : List Char,
    readBody dollar (cs.flatMap (escapedChars dollar) ++ '"' :: rest) =
      if '\r' ∈ cs then none else some (cs, rest)
  | [] => by simp [readBody]
  | c :: cs => by
      have ih := readBody_escaped dollar rest cs
      by_cases carriage : c = '\r'
      · subst carriage
        simp [escapedChars, readBody, plain]
      rw [← map_cons_read carriage, ← ih]
      by_cases backslash : c = '\\'
      · subst backslash
        simp [escapedChars, readBody, unescape]
      by_cases quote : c = '"'
      · subst quote
        simp [escapedChars, readBody, unescape]
      by_cases feed : c = '\n'
      · subst feed
        simp [escapedChars, readBody, unescape]
      by_cases interpolated : c = '$' ∧ dollar = true
      · obtain ⟨rfl, rfl⟩ := interpolated
        simp [escapedChars, readBody, unescape]
      · have single : escapedChars dollar c = [c] := by
          simp [escapedChars, backslash, quote, feed, interpolated]
        have shown : plain dollar c = true := by
          simp only [plain, Bool.not_eq_true', Bool.or_eq_false_iff, beq_eq_false_iff_ne, ne_eq,
            Bool.and_eq_false_iff]
          exact ⟨⟨⟨feed, carriage⟩, backslash⟩, by cases dollar <;> simp_all⟩
        rw [List.flatMap_cons, single, List.singleton_append, List.cons_append,
          readBody_cons quote backslash, shown, if_pos rfl]

/-- The literal `escapeLiteral` writes for a text is read back as exactly that text, closing at its
quote, unless the text holds a carriage return. -/
theorem read_escapeLiteral (dollar : Bool) (s : String) (rest : List Char) :
    read dollar ('"' :: (escapeLiteral s dollar).toList ++ '"' :: rest) =
      if '\r' ∈ s.toList then none else some (s.toList, rest) := by
  rw [List.cons_append, read, toList_escapeLiteral, readBody_escaped]

/-! ### Raw strings -/

/-- The characters of a raw string up to the first three single quotes in a row, and what follows
them. -/
def rawBody : List Char → Option (List Char × List Char)
  | [] => none
  | '\'' :: '\'' :: '\'' :: rest => some ([], rest)
  | c :: rest => (rawBody rest).map (Prod.map (c :: ·) id)

/-- Reads a Dart raw triple-quoted string. -/
def readRaw : List Char → Option (List Char × List Char)
  | 'r' :: '\'' :: '\'' :: '\'' :: rest => rawBody rest
  | _ => none

/-- Three single quotes in a row. -/
def tripleQuote : List Char := ['\'', '\'', '\'']

theorem rawBody_cons {c : Char} {xs : List Char} (open_ : ¬tripleQuote <+: c :: xs) :
    rawBody (c :: xs) = (rawBody xs).map (Prod.map (c :: ·) id) := by
  rw [rawBody.eq_def]
  split <;> simp_all [tripleQuote]

theorem map_cons_eq_some {c : Char} {r : Option (List Char × List Char)} {m rest : List Char} :
    r.map (Prod.map (c :: ·) id) = some (c :: m, rest) ↔ r = some (m, rest) := by
  cases r with
  | none => simp
  | some p => obtain ⟨b, t⟩ := p; simp

theorem rawBody_closing (rest : List Char) : ∀ m : List Char,
    rawBody (m ++ tripleQuote ++ rest) = some (m, rest) ↔
      ¬tripleQuote <:+: m ∧ m.getLast? ≠ some '\''
  | [] => by simp [rawBody, tripleQuote]
  | c :: m => by
      by_cases closes : tripleQuote <+: c :: (m ++ tripleQuote ++ rest)
      · -- three quotes open the text already, so the raw string closes before `c`
        have early : rawBody (c :: (m ++ tripleQuote ++ rest)) ≠ some (c :: m, rest) := by
          obtain ⟨t, eq⟩ := closes
          rw [← eq]
          simp [rawBody, tripleQuote]
        simp only [List.cons_append, early, false_iff, not_and, Decidable.not_not]
        intro unopened
        simp only [tripleQuote, List.cons_prefix_cons] at closes
        obtain ⟨rfl, second⟩ := closes
        rcases m with _ | ⟨x, _ | ⟨y, m'⟩⟩
        · rfl
        · simp only [List.getLast?_cons_cons, List.getLast?_singleton, Option.some.injEq]
          obtain ⟨t, eq⟩ := second
          simp only [List.cons_append, List.nil_append, List.cons.injEq] at eq
          exact eq.1.symm
        · simp only [List.cons_append, List.cons_prefix_cons] at second
          obtain ⟨rfl, rfl, -⟩ := second
          exact absurd (List.IsPrefix.isInfix ⟨m', rfl⟩) unopened
      · rw [List.cons_append, List.cons_append, rawBody_cons closes, map_cons_eq_some,
          rawBody_closing rest m]
        -- three quotes do not open `c :: m`, so they stand in it only if they stand in `m`
        have inside : c :: m <+: c :: (m ++ tripleQuote ++ rest) := by
          rw [List.append_assoc, ← List.cons_append]
          exact List.prefix_append _ _
        have notFront : ¬tripleQuote <+: c :: m := fun front => closes (front.trans inside)
        rw [List.infix_cons_iff]
        simp only [notFront, false_or]
        rcases m with _ | ⟨x, m'⟩
        · have unquoted : c ≠ '\'' := by
            rintro rfl
            exact closes (by simp [tripleQuote])
          simp [unquoted]
        · rw [List.getLast?_cons_cons]


/-- A Dart raw string holding `m` closes right after it exactly when `m` has no three quotes in a
row and does not end with a quote. -/
theorem readRaw_closing (m : String) :
    readRaw ("r'''" ++ m ++ "'''").toList = some (m.toList, []) ↔
      ¬tripleQuote <:+: m.toList ∧ m.toList.getLast? ≠ some '\'' := by
  have opening : "r'''".toList = ['r', '\'', '\'', '\''] := by decide
  have closing : "'''".toList = tripleQuote := by decide
  rw [String.toList_append, String.toList_append, opening, closing, ← rawBody_closing []]
  simp [readRaw]

end Literal

end Handoff
