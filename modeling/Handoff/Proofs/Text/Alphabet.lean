/-
Module: Handoff.Proofs.Text.Alphabet
Purpose: The characters the formatters write. Numbers, lengths, colours and gradients are
  digits, letters, signs and punctuation, with spaces but no other white space and never a
  double quote; a design-token identifier is ASCII letters, digits and hyphens, since every
  character that is not a letter or a digit becomes a separator, each of them is a grapheme
  cluster of its own and lowercasing keeps letters and digits; a CSS string writes a quote, a
  backslash, markup characters and line feeds as hexadecimal escapes, so holds no double quote,
  and no white space but spaces unless its text has a tab, form feed or carriage return;
  escaped markup text holds no double quote and no angle bracket.
Main exports: Text.isAsciiWhite, Text.Token, Text.Spaced, Text.mem_intercalate,
  Text.token_num, Text.token_px, Text.spaced_cssColor, Text.spaced_cssGradient,
  Text.quoteless_cssString, Text.spaced_cssString, Text.mem_escapeHtml, Text.token_tokenIdent.
-/
import Mathlib
import Handoff.Emit.Format

namespace Handoff.Text

/-! ### Character classes -/

/-- ASCII white space, on which markup splits a class attribute: space, tab, line feed, form
feed and carriage return. -/
def isAsciiWhite (c : Char) : Bool :=
  c == ' ' || c == '\t' || c == '\n' || c == '\x0c' || c == '\r'

/-- A text that can stand as a class token: no double quote and no ASCII white space. -/
def Token (s : String) : Prop := ∀ c ∈ s.toList, c ≠ '"' ∧ isAsciiWhite c = false

/-- A text that can stand in an arbitrary value, where spaces become underscores: no double
quote, and no ASCII white space but the space. -/
def Spaced (s : String) : Prop := ∀ c ∈ s.toList, c ≠ '"' ∧ (c = ' ' ∨ isAsciiWhite c = false)

/-- A text with no double quote, which can stand inside a double-quoted attribute. -/
def Quoteless (s : String) : Prop := '"' ∉ s.toList

-- The instances go through the list of characters: deciding a statement about every character
-- would enumerate all of them.
instance : DecidablePred Token := fun s => List.decidableBAll _ s.toList

instance : DecidablePred Spaced := fun s => List.decidableBAll _ s.toList

instance : DecidablePred Quoteless := fun s => inferInstanceAs (Decidable ('"' ∉ s.toList))

example : Token "w-[137px]" ∧ ¬Token "a b" ∧ Spaced "1px solid" := by decide

@[simp] theorem token_append {a b : String} : Token (a ++ b) ↔ Token a ∧ Token b := by
  simp only [Token, String.toList_append, List.mem_append]
  exact ⟨fun h => ⟨fun c m => h c (.inl m), fun c m => h c (.inr m)⟩,
    fun h c m => m.elim (h.1 c) (h.2 c)⟩

@[simp] theorem spaced_append {a b : String} : Spaced (a ++ b) ↔ Spaced a ∧ Spaced b := by
  simp only [Spaced, String.toList_append, List.mem_append]
  exact ⟨fun h => ⟨fun c m => h c (.inl m), fun c m => h c (.inr m)⟩,
    fun h c m => m.elim (h.1 c) (h.2 c)⟩

@[simp] theorem quoteless_append {a b : String} : Quoteless (a ++ b) ↔ Quoteless a ∧ Quoteless b := by
  simp [Quoteless]

theorem Token.spaced {s : String} (h : Token s) : Spaced s :=
  fun c m => ⟨(h c m).1, .inr (h c m).2⟩

@[simp] theorem Spaced.quoteless {s : String} (h : Spaced s) : Quoteless s :=
  fun m => (h _ m).1 rfl

@[simp] theorem Token.quoteless {s : String} (h : Token s) : Quoteless s := h.spaced.quoteless

/-- The characters of a text whose characters all stand outside the excluded ones. -/
theorem token_of_forall {s : String} (h : ∀ c ∈ s.toList, c ∉ ['"', ' ', '\t', '\n', '\x0c', '\r']) :
    Token s := by
  intro c m
  have out := h c m
  simp only [List.mem_cons, List.not_mem_nil, or_false, not_or] at out
  refine ⟨out.1, ?_⟩
  simp [isAsciiWhite, out.2.1, out.2.2.1, out.2.2.2.1, out.2.2.2.2.1, out.2.2.2.2.2]

theorem token_ofList_sublist {l l' : List Char} (h : Token (String.ofList l)) (sub : l' ⊆ l) :
    Token (String.ofList l') := by
  intro c m
  rw [String.toList_ofList] at m
  exact h c (by rw [String.toList_ofList]; exact sub m)

/-- A character of a text spliced between separators is one of the separator or of a piece. -/
theorem mem_intercalate {sep : String} {d : Char} :
    ∀ {l : List String}, d ∈ (sep.intercalate l).toList → d ∈ sep.toList ∨ ∃ x ∈ l, d ∈ x.toList
  | [], m => by simp at m
  | [x], m => .inr ⟨x, List.mem_singleton_self x, by rwa [String.intercalate_singleton] at m⟩
  | x :: y :: rest, m => by
      rw [String.intercalate_cons_of_ne_nil (List.cons_ne_nil y rest), String.toList_append,
        String.toList_append, List.mem_append, List.mem_append] at m
      rcases m with (inX | inSep) | later
      · exact .inr ⟨x, List.mem_cons_self, inX⟩
      · exact .inl inSep
      · rcases mem_intercalate later with inSep | ⟨z, mz, inZ⟩
        · exact .inl inSep
        · exact .inr ⟨z, .tail _ mz, inZ⟩

/-! ### Numbers -/

theorem digitChar_not_mem (d : Nat) : Nat.digitChar d ∉ ['"', ' ', '\t', '\n', '\x0c', '\r'] := by
  simp

theorem mem_toDigitsCore {b : Nat} : ∀ {fuel n : Nat} {ds : List Char} {c : Char},
    c ∈ Nat.toDigitsCore b fuel n ds → c ∈ ds ∨ ∃ d, c = Nat.digitChar d
  | 0, _, _, _, m => .inl m
  | fuel + 1, n, ds, c, m => by
      simp only [Nat.toDigitsCore] at m
      split at m
      · rcases List.mem_cons.1 m with rfl | m
        · exact .inr ⟨_, rfl⟩
        · exact .inl m
      · rcases mem_toDigitsCore m with m | digit
        · rcases List.mem_cons.1 m with rfl | m
          · exact .inr ⟨_, rfl⟩
          · exact .inl m
        · exact .inr digit

theorem token_toDigits (b n : Nat) : Token (String.ofList (Nat.toDigits b n)) := by
  refine token_of_forall fun c m => ?_
  rw [String.toList_ofList] at m
  rcases mem_toDigitsCore m with m | ⟨d, rfl⟩
  · exact absurd m List.not_mem_nil
  · exact digitChar_not_mem d

@[simp] theorem token_repr (n : Nat) : Token (Nat.repr n) := by
  rw [Nat.repr_eq_ofList_toDigits]
  exact token_toDigits 10 n

theorem token_zeroDigits (n : Nat) : Token (zeroDigits n) := by
  refine token_of_forall fun c m => ?_
  rw [zeroDigits, String.toList_ofList, List.mem_replicate] at m
  rw [m.2]
  decide

theorem token_plainLayout (d : DecimalDigits) : Token d.plainLayout := by
  have digits := token_repr d.digits
  rw [← String.ofList_toList (s := Nat.repr d.digits)] at digits
  simp only [DecimalDigits.plainLayout]
  split
  · simp [token_zeroDigits, token_repr]
    decide
  · split
    · simp only [token_append]
      exact ⟨⟨token_ofList_sublist digits (List.take_subset _ _), by decide⟩,
        token_ofList_sublist digits (List.drop_subset _ _)⟩
    · simp [token_zeroDigits, token_repr]

theorem token_plainText (x : Float) : Token x.plainText := by
  have sign : ∀ negative : Bool, Token (if negative then "-" else "") := by decide
  simp only [Float.plainText]
  split
  · decide
  · split <;> decide
  · split
    · exact token_append.2 ⟨sign _, by decide⟩
    · exact token_append.2 ⟨sign _, token_plainLayout _⟩

@[simp] theorem token_num (v : Float) : Token (num v) := by
  simp only [num]
  split
  · decide
  · exact token_plainText _

@[simp] theorem spaced_num (v : Float) : Spaced (num v) := (token_num v).spaced

@[simp] theorem token_px (v : Float) : Token (px v) := token_append.2 ⟨token_num v, by decide⟩

@[simp] theorem token_percent (v : Float) : Token (percent v) := token_append.2 ⟨token_num _, by decide⟩

@[simp] theorem spaced_px (v : Float) : Spaced (px v) := (token_px v).spaced

@[simp] theorem spaced_percent (v : Float) : Spaced (percent v) := (token_percent v).spaced

/-! ### Colours and gradients -/

theorem token_hexPairCased (upper : Bool) (n : Nat) : Token (hexPairCased upper n) := by
  have digit : ∀ d < 16, ∀ upper : Bool, (if d < 10 then Char.ofNat (48 + d)
      else Char.ofNat ((if upper then 55 else 87) + d)) ∉ ['"', ' ', '\t', '\n', '\x0c', '\r'] := by
    decide
  refine token_of_forall fun c m => ?_
  simp only [hexPairCased, String.toList_ofList, List.mem_cons, List.not_mem_nil, or_false] at m
  rcases m with rfl | rfl
  · exact digit _ (Nat.mod_lt _ (by decide)) upper
  · exact digit _ (Nat.mod_lt _ (by decide)) upper

theorem token_toHexRgb (c : Color) : Token c.toHexRgb := by
  simp only [Color.toHexRgb, hexPair, token_append, token_hexPairCased, and_true]
  decide

theorem spaced_intercalate {sep : String} (h : Spaced sep) {l : List String}
    (each : ∀ x ∈ l, Spaced x) : Spaced (sep.intercalate l) := by
  intro c m
  rcases mem_intercalate m with inSep | ⟨x, mx, inX⟩
  · exact h c inSep
  · exact each x mx c inX

@[simp] theorem spaced_cssColor (c : Color) : Spaced (cssColor c) := by
  simp only [cssColor]
  split
  · exact (token_toHexRgb c).spaced
  · simp only [spaced_append, (token_repr _).spaced, (token_num _).spaced, and_true]
    decide

theorem spaced_cssStops (stops : List GradientStop) : Spaced (cssStops stops) := by
  refine spaced_intercalate (by decide) fun x m => ?_
  obtain ⟨s, -, rfl⟩ := List.mem_map.1 m
  simp only [spaced_append, spaced_cssColor, spaced_percent, and_true]
  decide

@[simp] theorem spaced_cssGradient (g : Gradient) : Spaced (cssGradient g) := by
  unfold cssGradient
  split <;>
    simp only [spaced_append, spaced_cssStops, spaced_num, spaced_percent, and_true] <;>
    decide

/-! ### Escaped texts -/

/-- A CSS string is its text between single quotes, each quote, backslash, markup character and
line feed written as a backslash, hexadecimal digits and a space. -/
theorem mem_cssString {v : String} {d : Char} (m : d ∈ (cssString v).toList) :
    d ∈ ['\'', '\\', ' '] ∨ (∃ k, d = Nat.digitChar k) ∨
      d ∈ v.toList ∧ d ∉ ['\'', '"', '\\', '<', '>', '&', '\n'] := by
  simp only [cssString, String.toList_append, String.toList_join, List.mem_append,
    List.flatMap_map, List.mem_flatMap] at m
  rcases m with (quote | ⟨c, inV, escaped⟩) | quote
  · simp at quote
    simp [quote]
  · split at escaped
    · simp only [String.toList_append, List.mem_append, hexDigits, String.toList_ofList] at escaped
      rcases escaped with (backslash | digit) | space
      · simp at backslash
        simp [backslash]
      · rcases mem_toDigitsCore digit with none | digit
        · exact absurd none List.not_mem_nil
        · exact .inr (.inl digit)
      · simp at space
        simp [space]
    · rename_i plain
      obtain rfl : d = c := by simpa using escaped
      refine .inr (.inr ⟨inV, ?_⟩)
      simp only [Bool.or_eq_true, beq_iff_eq, not_or] at plain
      simpa [and_assoc] using plain
  · simp at quote
    simp [quote]

/-- A CSS string never holds a double quote. -/
@[simp] theorem quoteless_cssString (v : String) : Quoteless (cssString v) := fun m => by
  rcases mem_cssString m with listed | ⟨k, digit⟩ | ⟨-, escaped⟩
  · simp at listed
  · exact digitChar_not_mem k (by rw [← digit]; exact List.mem_cons_self)
  · simp at escaped

/-- A CSS string holds no ASCII white space but spaces when its text holds no tab, form feed or
carriage return. -/
theorem spaced_cssString {v : String} (h : ∀ c ∈ v.toList, c ≠ '\t' ∧ c ≠ '\x0c' ∧ c ≠ '\r') :
    Spaced (cssString v) := by
  intro d m
  rcases mem_cssString m with listed | ⟨k, rfl⟩ | ⟨inV, escaped⟩
  · simp only [List.mem_cons, List.not_mem_nil, or_false] at listed
    rcases listed with rfl | rfl | rfl <;> decide
  · have := token_of_forall (s := String.ofList [Nat.digitChar k]) (by simp)
    exact (this.spaced _ (by simp))
  · obtain ⟨tab, feed, ret⟩ := h d inV
    simp only [List.mem_cons, List.not_mem_nil, or_false, not_or] at escaped
    refine ⟨escaped.2.1, ?_⟩
    by_cases space : d = ' '
    · exact .inl space
    · exact .inr (by simp [isAsciiWhite, space, tab, feed, ret, escaped.2.2.2.2.2.2])

/-- Markup text escapes its ampersands, angle brackets and double quotes as references. -/
theorem mem_escapeHtml {s : String} {d : Char} (m : d ∈ (escapeHtml s).toList) :
    d ∈ "&amp;lt;gt;quot;".toList ∨ d ∈ s.toList ∧ d ∉ ['&', '<', '>', '"'] := by
  simp only [escapeHtml, String.toList_join, List.flatMap_map, List.mem_flatMap] at m
  obtain ⟨c, inS, escaped⟩ := m
  have references : ∀ t ∈ ["&amp;", "&lt;", "&gt;", "&quot;"],
      t.toList ⊆ "&amp;lt;gt;quot;".toList := by
    decide
  -- the four references, then a character written as itself
  split at escaped
  · exact .inl (references _ (by simp) escaped)
  split at escaped
  · exact .inl (references _ (by simp) escaped)
  split at escaped
  · exact .inl (references _ (by simp) escaped)
  split at escaped
  · exact .inl (references _ (by simp) escaped)
  obtain rfl : d = c := by simpa using escaped
  exact .inr ⟨inS, by simp_all⟩

@[simp] theorem quoteless_escapeHtml (s : String) : Quoteless (escapeHtml s) := fun m => by
  rcases mem_escapeHtml m with listed | ⟨-, escaped⟩
  · revert listed; decide
  · simp at escaped

/-! ### Design-token identifiers -/

/-- A property of every ASCII character, checked code point by code point. -/
theorem ascii_forall {P : Char → Prop} (h : ∀ n < 128, P (Char.ofNat n)) {c : Char}
    (ascii : c.toNat < 128) : P c := by
  have := h c.toNat ascii
  rwa [Char.ofNat_toNat] at this

theorem toNat_lt_of_isAlphanum {c : Char} (h : c.isAlphanum = true) : c.toNat < 128 := by
  simp only [Char.isAlphanum, Char.isAlpha, Char.isUpper, Char.isLower, Char.isDigit,
    Bool.or_eq_true, Bool.and_eq_true, decide_eq_true_eq, UInt32.le_iff_toNat_le, ge_iff_le] at h
  have : c.toNat = c.val.toNat := rfl
  have : 'Z'.val.toNat = 90 := rfl
  have : 'z'.val.toNat = 122 := rfl
  have : '9'.val.toNat = 57 := rfl
  omega

/-- Letters, digits and spaces break clusters on both sides. -/
theorem breakClass_of_word {c : Char} (h : (c.isAlphanum || c == ' ') = true) :
    breakClass c = .other := by
  have ascii : c.toNat < 128 := by
    rcases Bool.or_eq_true_iff.1 h with alnum | space
    · exact toNat_lt_of_isAlphanum alnum
    · rw [beq_iff_eq.1 space]
      decide
  exact ascii_forall (P := fun c => (c.isAlphanum || c == ' ') = true → breakClass c = .other)
    (by decide +kernel) ascii h

/-- The lowercase of a letter or a digit is letters and digits. -/
theorem lowerChars_of_isAlphanum {c : Char} (h : c.isAlphanum = true) :
    ∀ d ∈ lowerChars c, d.isAlphanum = true := by
  have lowered := ascii_forall
    (P := fun c => c.isAlphanum = true → (lowerChars c).all Char.isAlphanum = true)
    (by decide +kernel) (toNat_lt_of_isAlphanum h) h
  simpa using lowered

/-- After a character that breaks clusters on both sides, every such character is a cluster of
its own. -/
theorem clustersFrom_singletons (c : Char) : ∀ (rest : List Char) (ctx : ClusterContext),
    ctx.previous = .other → (∀ d ∈ rest, breakClass d = .other) →
      clustersFrom ctx [c] rest = [c] :: rest.map ([·])
  | [], _, _, _ => by simp [clustersFrom]
  | d :: rest, ctx, other, each => by
      have broken : ctx.joins (breakClass d) (isPictographic d) = false := by
        simp only [each d List.mem_cons_self, ClusterContext.joins, other]
      have stepped : (ctx.step d).previous = .other := each d List.mem_cons_self
      rw [clustersFrom, if_neg (by simp [broken]),
        clustersFrom_singletons d rest (ctx.step d) stepped fun e m => each e (.tail _ m)]
      rfl

theorem graphemes_of_forall {s : String} (h : ∀ c ∈ s.toList, breakClass c = .other) :
    graphemes s = s.toList.map String.singleton := by
  unfold graphemes
  split
  · rename_i empty
    rw [empty, List.map_nil]
  · rename_i c rest chars
    rw [chars] at h ⊢
    dsimp only
    rw [clustersFrom_singletons c rest _ (h c List.mem_cons_self) fun d m => h d (.tail _ m)]
    simp only [List.map_cons, List.map_map, Function.comp_def, ← String.singleton_eq_ofList]

/-- A word ends only at a separator, which it drops, or before a cluster it keeps. -/
theorem isSeparator_of_cutAt {previous : Option String} {g : String} {after : List String}
    (h : cutAt previous g after ≠ .drop) : isSeparator g = false := by
  unfold cutAt at h
  split at h
  · exact absurd rfl h
  · rename_i kept
    simpa using kept

/-- Every character of every word is a character of the open word or of a cluster that is not
a separator. -/
theorem chars_wordsFrom (P : Char → Prop) : ∀ (gs : List String) (previous : Option String)
    (current : String), (∀ c ∈ current.toList, P c) →
      (∀ g ∈ gs, isSeparator g = false → ∀ c ∈ g.toList, P c) →
      ∀ w ∈ wordsFrom previous current gs, ∀ c ∈ w.toList, P c
  | [], _, _, open_, _, w, m => by
      obtain rfl := List.mem_singleton.1 m
      exact open_
  | g :: rest, previous, current, open_, clusters, w, m => by
      have later := fun g' (m' : g' ∈ rest) => clusters g' (.tail _ m')
      cases cut : cutAt previous g rest with
      | keep =>
          have kept := clusters g List.mem_cons_self
            (isSeparator_of_cutAt (show cutAt previous g rest ≠ .drop by simp [cut]))
          simp only [wordsFrom, cut] at m
          refine chars_wordsFrom P rest (some g) (current ++ g) (fun c m' => ?_) later w m
          rw [String.toList_append, List.mem_append] at m'
          exact m'.elim (open_ c) (kept c)
      | drop =>
          simp only [wordsFrom, cut, List.mem_cons] at m
          rcases m with rfl | m
          · exact open_
          · exact chars_wordsFrom P rest (some g) "" (fun c m' => by simp at m') later w m
      | before =>
          have kept := clusters g List.mem_cons_self
            (isSeparator_of_cutAt (show cutAt previous g rest ≠ .drop by simp [cut]))
          simp only [wordsFrom, cut, List.mem_cons] at m
          rcases m with rfl | m
          · exact open_
          · exact chars_wordsFrom P rest (some g) g kept later w m

/-- Lowercasing letters and digits gives letters and digits. -/
theorem isAlphanum_of_mem_lowerFrom : ∀ (cs before : List Char), (∀ c ∈ cs, c.isAlphanum = true) →
    ∀ d ∈ lowerFrom before cs, d.isAlphanum = true
  | [], _, _, d, m => absurd m List.not_mem_nil
  | c :: cs, before, each, d, m => by
      have alnum := each c List.mem_cons_self
      have notSigma : (c == 'Σ') = false := by
        cases sigma : c == 'Σ'
        · rfl
        · rw [beq_iff_eq.1 sigma] at alnum
          revert alnum
          decide
      simp only [lowerFrom, notSigma, Bool.false_eq_true, if_false, List.mem_append] at m
      rcases m with here | later
      · exact lowerChars_of_isAlphanum alnum d here
      · exact isAlphanum_of_mem_lowerFrom cs (c :: before) (fun e m => each e (.tail _ m)) d later

/-- A design-token identifier is letters, digits and hyphens. -/
@[simp] theorem token_tokenIdent (name : String) : Token (tokenIdent name) := by
  let s := String.map (fun c => if c.isAlphanum then c else ' ') name
  have word : ∀ c ∈ s.toList, (c.isAlphanum || c == ' ') = true := by
    intro c m
    simp only [s, String.toList_map, List.mem_map] at m
    obtain ⟨c', -, rfl⟩ := m
    split <;> simp_all
  -- the clusters are single characters, and those that are not separators are letters or digits
  have clusters : ∀ g ∈ graphemes s, isSeparator g = false → ∀ c ∈ g.toList, c.isAlphanum = true := by
    rw [graphemes_of_forall fun c m => breakClass_of_word (word c m)]
    intro g m kept c inG
    obtain ⟨c', inS, rfl⟩ := List.mem_map.1 m
    obtain rfl : c = c' := by simpa using inG
    rcases Bool.or_eq_true_iff.1 (word c inS) with alnum | space
    · exact alnum
    · rw [beq_iff_eq.1 space] at kept
      exact absurd kept (by decide)
  have letters : ∀ w ∈ splitWords s, ∀ c ∈ w.toList, c.isAlphanum = true := fun w m =>
    chars_wordsFrom _ _ none "" (fun c m' => by simp at m') clusters w (List.mem_filter.1 m).1
  refine token_of_forall fun d m => ?_
  rcases mem_intercalate m with hyphen | ⟨x, mx, inX⟩
  · simp at hyphen
    rw [hyphen]
    decide
  · obtain ⟨w, mw, rfl⟩ := List.mem_map.1 mx
    have alnum := isAlphanum_of_mem_lowerFrom w.toList [] (letters w mw) d
      (by simpa [toLower] using inX)
    intro listed
    simp only [List.mem_cons, List.not_mem_nil, or_false] at listed
    rcases listed with rfl | rfl | rfl | rfl | rfl | rfl <;> revert alnum <;> decide

end Handoff.Text
