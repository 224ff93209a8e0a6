/-
Module: Handoff.Proofs.Emit.TemplateLiterals
Purpose: The template literal through which JSX markup takes exported vector markup as inner
  HTML. A template literal is read as the language reads it: up to its closing backquote, undoing
  escapes and line continuations, refusing a substitution, and reading a carriage return, alone
  or before a line feed, as a line feed. The literal written for a markup text is the text with
  its backslashes, backquotes and substitution openings escaped, which is what replacing them in
  that order gives, and it is read back as exactly the text with its line ends normalised: the
  text itself when it holds no carriage return, and otherwise not.
Main exports: Text.replaceAllChars, Markup.templateLiteral_eq_replaceAll, TemplateLiteral.read,
  TemplateLiteral.cookLines, TemplateLiteral.readBody_templateLiteral,
  TemplateLiteral.cookLines_eq_self_iff, Markup.vectorFragment_jsx_literal.
-/
import Handoff.Proofs.Emit.Confinement

namespace Handoff

/-! ### Replacing every occurrence -/

namespace Text

/-- The characters with every occurrence of the nonempty pattern `p :: ps` replaced, matches
taken from the left and not overlapping. -/
def replaceAllChars (p : Char) (ps replacement : List Char) : List Char → List Char
  | [] => []
  | c :: rest =>
      if (p :: ps).isPrefixOf (c :: rest) then
        replacement ++ replaceAllChars p ps replacement (rest.drop ps.length)
      else c :: replaceAllChars p ps replacement rest
termination_by cs => cs.length
decreasing_by all_goals simp only [List.length_drop, List.length_cons]; omega

/-- Replacing a single character is replacing it wherever it stands. -/
theorem replaceAllChars_single (p : Char) (replacement : List Char) :
    ∀ cs : List Char, replaceAllChars p [] replacement cs =
      cs.flatMap fun c => if c = p then replacement else [c]
  | [] => by simp [replaceAllChars]
  | c :: rest => by
      rw [replaceAllChars, List.length_nil, List.drop_zero, replaceAllChars_single p replacement rest]
      by_cases here : c = p
      · subst here
        simp
      · simp [here, List.isPrefixOf, Ne.symm here]

theorem replaceAllChars_cons_of_ne {p c : Char} (ps replacement rest : List Char) (ne : c ≠ p) :
    replaceAllChars p ps replacement (c :: rest) = c :: replaceAllChars p ps replacement rest := by
  rw [replaceAllChars, if_neg]
  simp [List.isPrefixOf, Ne.symm ne]

end Text

namespace Markup

/-- Backslashes doubled, then backquotes escaped. -/
def escapeQuoting (cs : List Char) : List Char :=
  Text.replaceAllChars '\x60' [] ['\\', '\x60'] (Text.replaceAllChars '\\' [] ['\\', '\\'] cs)

theorem escapeQuoting_eq (cs : List Char) :
    escapeQuoting cs = cs.flatMap fun c =>
      if c = '\\' then ['\\', '\\'] else if c = '\x60' then ['\\', '\x60'] else [c] := by
  simp only [escapeQuoting, Text.replaceAllChars_single, List.flatMap_assoc]
  congr 1
  funext c
  by_cases backslash : c = '\\'
  · subst backslash
    simp
  · by_cases quote : c = '\x60' <;> simp [backslash, quote]

/-- What the first two replacements give starts with a character only the text could have put
there, unless that is a backslash. -/
theorem head?_escapeQuoting {d : Char} (backslash : d ≠ '\\') (quote : d ≠ '\x60') :
    ∀ cs : List Char, (escapeQuoting cs).head? = some d ↔ cs.head? = some d
  | [] => by simp [escapeQuoting_eq]
  | c :: rest => by
      rw [escapeQuoting_eq, List.flatMap_cons]
      by_cases isBackslash : c = '\\'
      · subst isBackslash
        simp [Ne.symm backslash]
      by_cases isQuote : c = '\x60'
      · subst isQuote
        simp [Ne.symm quote, Ne.symm backslash]
      · simp [isBackslash, isQuote]

/-- The literal is what three replacements in turn make of the text: backslashes doubled first,
then backquotes escaped, then every substitution opening escaped. No replacement brings a
dollar sign next to an opening brace, so the last one escapes exactly the openings of the text. -/
theorem templateLiteral_eq_replaceAll (cs : List Char) :
    templateLiteral cs = Text.replaceAllChars '$' ['\x7b'] ['\\', '$', '\x7b'] (escapeQuoting cs) := by
  fun_induction templateLiteral cs with
  | case1 => simp [escapeQuoting_eq, Text.replaceAllChars]
  | case2 rest ih =>
      rw [escapeQuoting_eq, List.flatMap_cons, if_pos rfl, ← escapeQuoting_eq, ih]
      simp [Text.replaceAllChars_cons_of_ne]
  | case3 rest ih =>
      rw [escapeQuoting_eq, List.flatMap_cons, if_neg (by decide), if_pos rfl,
        ← escapeQuoting_eq, ih]
      simp [Text.replaceAllChars_cons_of_ne]
  | case4 rest ih =>
      -- the opening of a substitution survives the first two replacements and the third escapes it
      rw [escapeQuoting_eq, List.flatMap_cons, List.flatMap_cons, ← escapeQuoting_eq, ih]
      simp [Text.replaceAllChars, List.isPrefixOf]
  | case5 c rest notBackslash notQuote notOpening ih =>
      rw [escapeQuoting_eq, List.flatMap_cons, if_neg notBackslash, if_neg notQuote,
        ← escapeQuoting_eq, ih, List.singleton_append]
      by_cases dollar : c = '$'
      · -- a lone dollar sign: what follows it does not open with a brace, before or after
        subst dollar
        have unopened : (escapeQuoting rest).head? ≠ some '\x7b' := by
          rw [Ne, head?_escapeQuoting (by decide) (by decide)]
          intro opens
          obtain ⟨tail, rfl⟩ := List.head?_eq_some_iff.1 opens
          exact notOpening tail rfl rfl
        rw [Text.replaceAllChars, if_neg]
        cases h : escapeQuoting rest with
        | nil => simp [List.isPrefixOf]
        | cons d tail =>
            have notBrace : d ≠ '\x7b' := by simpa [h] using unopened
            simp [List.isPrefixOf, Ne.symm notBrace]
      · exact (Text.replaceAllChars_cons_of_ne _ _ _ dollar).symm

end Markup

/-! ### Reading a template literal -/

namespace TemplateLiteral

/-- The characters that end a line. -/
def lineTerminator (c : Char) : Bool :=
  c == '\n' || c == '\r' || c == '\u2028' || c == '\u2029'

/-- The character an escape stands for, given the character after it: the escapes of control
characters, a NUL for a zero no digit follows, and any other character but a digit, `x` and `u`
for itself. Hexadecimal and Unicode escapes, which this library never writes, are not read. -/
def escapeValue (c : Char) (next : Option Char) : Option Char :=
  match c with
  | 'b' => some '\x08'
  | 't' => some '\t'
  | 'n' => some '\n'
  | 'v' => some '\x0b'
  | 'f' => some '\x0c'
  | 'r' => some '\r'
  | '0' => if next.any Char.isDigit then none else some '\x00'
  | c => if c.isDigit || c == 'x' || c == 'u' then none else some c

/-- Reads the body of a template literal up to its closing backquote: the characters it stands
for and what follows the backquote. A carriage return, alone or before a line feed, stands for a
line feed; a backslash before a line end continues the line; the opening of a substitution ends
the plain literal, so it is not read. -/
def readBody : List Char → Option (List Char × List Char)
  | [] => none
  | '\x60' :: rest => some ([], rest)
  | '$' :: '\x7b' :: _ => none
  | '\r' :: '\n' :: rest => (readBody rest).map (Prod.map ('\n' :: ·) id)
  | '\r' :: rest => (readBody rest).map (Prod.map ('\n' :: ·) id)
  | '\\' :: '\r' :: '\n' :: rest => readBody rest
  | '\\' :: c :: rest =>
      if lineTerminator c then readBody rest
      else (escapeValue c rest.head?).bind fun d => (readBody rest).map (Prod.map (d :: ·) id)
  | ['\\'] => none
  | c :: rest => (readBody rest).map (Prod.map (c :: ·) id)

/-- Reads a template literal without substitutions. -/
def read : List Char → Option (List Char × List Char)
  | '\x60' :: rest => readBody rest
  | _ => none

/-- A text with its line ends normalised: a carriage return, alone or before a line feed,
becomes a line feed. -/
def cookLines : List Char → List Char
  | [] => []
  | '\r' :: '\n' :: rest => '\n' :: cookLines rest
  | '\r' :: rest => '\n' :: cookLines rest
  | c :: rest => c :: cookLines rest

/-- Only a carriage return changes when line ends are normalised. -/
theorem cookLines_eq_self_iff (cs : List Char) : cookLines cs = cs ↔ '\r' ∉ cs := by
  fun_induction cookLines cs with
  | case1 => simp
  | case2 rest ih => simp
  | case3 rest _ ih => simp
  | case4 c rest _ notReturn ih => simp [ih, Ne.symm notReturn]

/-! Steps of the reader. -/

theorem readBody_plain {c : Char} (rest : List Char) (quote : c ≠ '\x60') (dollar : c ≠ '$')
    (carriage : c ≠ '\r') (backslash : c ≠ '\\') :
    readBody (c :: rest) = (readBody rest).map (Prod.map (c :: ·) id) :=
  readBody.eq_9 c rest quote (fun _ same => absurd same dollar)
    (fun _ same => absurd same carriage) carriage (fun _ same => absurd same backslash)
    (fun _ _ same => absurd same backslash) (fun same => absurd same backslash)

theorem readBody_dollar {rest : List Char} (unopened : rest.head? ≠ some '\x7b') :
    readBody ('$' :: rest) = (readBody rest).map (Prod.map ('$' :: ·) id) :=
  readBody.eq_9 '$' rest (by decide) (fun _ _ opens => unopened (by simp [opens]))
    (fun _ same => absurd same (by decide)) (by decide) (fun _ same => absurd same (by decide))
    (fun _ _ same => absurd same (by decide)) (fun same => absurd same (by decide))

theorem readBody_return {rest : List Char} (unfed : rest.head? ≠ some '\n') :
    readBody ('\r' :: rest) = (readBody rest).map (Prod.map ('\n' :: ·) id) :=
  readBody.eq_5 rest fun _ fed => unfed (by simp [fed])

/-- An escaped backslash, backquote or dollar sign stands for itself. -/
theorem readBody_escaped {c : Char} (rest : List Char) (escaped : c = '\\' ∨ c = '\x60' ∨ c = '$') :
    readBody ('\\' :: c :: rest) = (readBody rest).map (Prod.map (c :: ·) id) := by
  have value : escapeValue c rest.head? = some c := by
    rcases escaped with rfl | rfl | rfl <;> rfl
  have continues : lineTerminator c = false := by
    rcases escaped with rfl | rfl | rfl <;> rfl
  have notReturn : c ≠ '\r' := by
    rcases escaped with rfl | rfl | rfl <;> decide
  rw [readBody.eq_7 c rest fun _ same => absurd same notReturn, continues, if_neg Bool.false_ne_true,
    value, Option.bind_some]

/-- The literal written for a text, closed by a backquote, starts as the text does unless the text
starts with a character that is escaped. -/
theorem head?_templateLiteral {d : Char} (backslash : d ≠ '\\') (quote : d ≠ '\x60')
    (rest : List Char) :
    ∀ cs : List Char, (Markup.templateLiteral cs ++ '\x60' :: rest).head? = some d → cs.head? = some d
  | [] => by simp [Markup.templateLiteral, Ne.symm quote]
  | c :: cs => by
      have backslash' : '\\' ≠ d := Ne.symm backslash
      rw [Markup.templateLiteral.eq_def]
      split <;> simp_all

/-- A character the literal leaves as it is. -/
theorem templateLiteral_cons {c : Char} (rest : List Char) (backslash : c ≠ '\\')
    (quote : c ≠ '\x60') (unopened : c = '$' → rest.head? ≠ some '\x7b') :
    Markup.templateLiteral (c :: rest) = c :: Markup.templateLiteral rest :=
  Markup.templateLiteral.eq_5 c rest backslash quote fun _ dollar opens =>
    unopened dollar (by simp [opens])

/-- The literal written for any text is read back, closing at the backquote after it, as the
text with its line ends normalised. The induction follows the normalisation: a carriage return
before a line feed is read with it. -/
theorem readBody_templateLiteral (rest : List Char) (cs : List Char) :
    readBody (Markup.templateLiteral cs ++ '\x60' :: rest) = some (cookLines cs, rest) := by
  fun_induction cookLines cs with
  | case1 => simp [Markup.templateLiteral, readBody]
  | case2 tail ih =>
      rw [templateLiteral_cons _ (by decide) (by decide) (absurd · (by decide)),
        templateLiteral_cons _ (by decide) (by decide) (absurd · (by decide))]
      simp only [List.cons_append, readBody, ih, Option.map_some, Prod.map_apply, id]
  | case3 tail unfed ih =>
      have unfed' : (Markup.templateLiteral tail ++ '\x60' :: rest).head? ≠ some '\n' :=
        fun starts => by
          obtain ⟨t, rfl⟩ := List.head?_eq_some_iff.1
            (head?_templateLiteral (by decide) (by decide) rest tail starts)
          exact unfed t rfl
      rw [templateLiteral_cons _ (by decide) (by decide) (absurd · (by decide)), List.cons_append,
        readBody_return unfed', ih]
      rfl
  | case4 c tail _ carriage ih =>
      by_cases backslash : c = '\\'
      · subst backslash
        rw [Markup.templateLiteral, List.cons_append, List.cons_append,
          readBody_escaped _ (.inl rfl), ih]
        rfl
      by_cases quote : c = '\x60'
      · subst quote
        rw [Markup.templateLiteral, List.cons_append, List.cons_append,
          readBody_escaped _ (.inr (.inl rfl)), ih]
        rfl
      by_cases opening : c = '$' ∧ tail.head? = some '\x7b'
      · -- an escaped opening: the dollar sign is read escaped, the brace as itself
        obtain ⟨rfl, opens⟩ := opening
        obtain ⟨tail', rfl⟩ := List.head?_eq_some_iff.1 opens
        rw [templateLiteral_cons _ (by decide) (by decide) (absurd · (by decide)), List.cons_append,
          readBody_plain _ (by decide) (by decide) (by decide) (by decide)] at ih
        rw [Markup.templateLiteral, List.cons_append, List.cons_append,
          readBody_escaped _ (.inr (.inr rfl)), List.cons_append,
          readBody_plain _ (by decide) (by decide) (by decide) (by decide), ih]
        rfl
      · have unopened : c = '$' → tail.head? ≠ some '\x7b' := fun dollar opens =>
          opening ⟨dollar, opens⟩
        rw [templateLiteral_cons _ backslash quote unopened, List.cons_append]
        by_cases dollar : c = '$'
        · -- a lone dollar sign: the literal after it does not open with a brace either
          subst dollar
          have unopened' : (Markup.templateLiteral tail ++ '\x60' :: rest).head? ≠ some '\x7b' :=
            fun starts => unopened rfl
              (head?_templateLiteral (by decide) (by decide) rest tail starts)
          rw [readBody_dollar unopened', ih]
          rfl
        · rw [readBody_plain _ quote dollar carriage backslash, ih]
          rfl

end TemplateLiteral

/-! ### The inner HTML of exported vector markup -/

/-- In JSX, exported vector markup is passed as inner HTML through a brace-valued argument, which
is written unquoted; its template literal is the markup with backslashes, backquotes and
substitution openings escaped in turn, and it reads back as the markup with its line ends
normalised, so as exactly the markup when it holds no carriage return. -/
theorem Markup.vectorFragment_jsx_literal (markup : String) (attr : StyleAttr) :
    Markup.attributes (Markup.vectorFragment markup .jsx) .jsx attr =
      " dangerouslySetInnerHTML=" ++ "\x7b\x7b __html: \x60" ++
        String.ofList (Markup.templateLiteral markup.toList) ++ "\x60 \x7d\x7d" ∧
    Markup.templateLiteral markup.toList =
      Text.replaceAllChars '$' ['\x7b'] ['\\', '$', '\x7b'] (Markup.escapeQuoting markup.toList) ∧
    (∀ rest, TemplateLiteral.read ('\x60' :: Markup.templateLiteral markup.toList ++ '\x60' :: rest) =
      some (TemplateLiteral.cookLines markup.toList, rest)) ∧
    (TemplateLiteral.cookLines markup.toList = markup.toList ↔ '\r' ∉ markup.toList) := by
  refine ⟨?_, Markup.templateLiteral_eq_replaceAll _, fun rest => ?_,
    TemplateLiteral.cookLines_eq_self_iff _⟩
  · simp [Markup.attributes, Markup.vectorFragment, Fragment.withArg, Fragment.new, setEntry]
    simp only [← String.append_assoc]
    rfl
  · rw [List.cons_append, TemplateLiteral.read, TemplateLiteral.readBody_templateLiteral]

end Handoff
