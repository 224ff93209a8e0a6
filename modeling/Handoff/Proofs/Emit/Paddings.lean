/-
Module: Handoff.Proofs.Emit.Paddings
Purpose: The padding of a layout as each target writes it. Every target picks one form for a
  uniform padding, one for a symmetric one and one for the rest, by the same tests of equality
  between sides, and lists the sides in its own order: CSS clockwise from the top, Flutter from
  the left, SwiftUI top, leading, bottom, trailing, Compose start, top, end, bottom. Each form is
  read as its language reads it, into the number text of every side; the padding written for any
  sides reads back as the number text of each side, rounded to two decimals, and no padding is
  written exactly when every side is zero. Equal sides are written alike because doubles that
  compare equal are written alike: they are the same double or the two zeros.
Main exports: Float.eq_of_unpack_eq, num_eq_of_beq, SideTexts, Padding.texts, Written.splitArgs,
  Written.readCall, Html.readPadding, Flutter.readEdgeInsets, SwiftUi.readPadding,
  Compose.readPadding, padding_written_per_target.
-/
import Handoff.Proofs.Emit.Marks
import Handoff.Proofs.Float.Exact
import Handoff.Proofs.Scale.Tokens
import Handoff.Proofs.Text.Alphabet

namespace Float

open Float.Model

/-- A double is what it unpacks to. -/
theorem eq_of_unpack_eq {x y : Float} (h : x.toModel.unpack = y.toModel.unpack) : x = y := by
  cases x with
  | ofModel m =>
    cases y with
    | ofModel m' =>
      have packed := congrArg Float.Model.pack (show m.unpack = m'.unpack from h)
      rw [pack_unpack_self, pack_unpack_self] at packed
      rw [packed]

theorem eq_zero_of_unpack {x : Float} (h : x.toModel.unpack = .zero .positive) : x = 0.0 :=
  eq_of_unpack_eq (h.trans unpack_zero.symm)

theorem eq_negZero_of_unpack {x : Float} (h : x.toModel.unpack = .zero .negative) : x = -0.0 := by
  refine eq_of_unpack_eq (h.trans ?_)
  show _ = (-(0.0 : Float).toModel).unpack
  rw [Float.Model.unpack_neg, show (0.0 : Float).toModel.unpack = _ from unpack_zero]
  rfl

end Float

namespace Handoff

/-! ### Equal doubles are written alike -/

/-- Doubles that compare equal are written alike: `==` holds of a double and itself, and of the
two zeros, which are both written `0`. -/
theorem num_eq_of_beq {x y : Float} (h : (x == y) = true) : num x = num y := by
  change x.toModel.unpack.beq y.toModel.unpack = true at h
  rw [Float.Model.UnpackedFloat.beq_iff_ne_notANumber_and_eq] at h
  obtain ⟨-, -, same | ⟨zx, zy⟩ | ⟨zx, zy⟩⟩ := h
  · rw [Float.eq_of_unpack_eq same]
  · rw [Float.eq_zero_of_unpack zx, Float.eq_negZero_of_unpack zy]
    decide +kernel
  · rw [Float.eq_negZero_of_unpack zx, Float.eq_zero_of_unpack zy]
    decide +kernel

theorem num_eq_zero_of_beq {x : Float} (h : (x == 0.0) = true) : num x = "0" := by
  rw [num_eq_of_beq h]
  decide +kernel

/-! ### The sides of a padding as they are written -/

/-- The number texts of the four sides of a padding. -/
structure SideTexts where
  top : String
  right : String
  bottom : String
  left : String
  deriving DecidableEq

namespace SideTexts

/-- One text on every side. -/
def all (v : String) : SideTexts := ⟨v, v, v, v⟩

/-- One text on the left and right, another on the top and bottom. -/
def symmetric (horizontal vertical : String) : SideTexts :=
  ⟨vertical, horizontal, vertical, horizontal⟩

end SideTexts

/-- The sides of a padding as every target writes them: each rounded to at most two decimals. -/
def Padding.texts (p : Padding) : SideTexts := ⟨num p.top, num p.right, num p.bottom, num p.left⟩

namespace Padding

variable {p : Padding}

theorem texts_of_isUniform (h : p.isUniform = true) : p.texts = .all (num p.top) := by
  simp only [isUniform, Bool.and_eq_true] at h
  obtain ⟨⟨topRight, rightBottom⟩, bottomLeft⟩ := h
  have right := num_eq_of_beq topRight
  have bottom := right.trans (num_eq_of_beq rightBottom)
  have left := bottom.trans (num_eq_of_beq bottomLeft)
  simp only [texts, SideTexts.all, ← right, ← bottom, ← left]

theorem texts_of_isSymmetric (h : p.isSymmetric = true) :
    p.texts = .symmetric (num p.left) (num p.top) := by
  simp only [isSymmetric, Bool.and_eq_true] at h
  simp only [texts, SideTexts.symmetric, num_eq_of_beq h.1, num_eq_of_beq h.2]

theorem texts_of_isZero (h : p.isZero = true) : p.texts = .all "0" := by
  simp only [isZero, Bool.and_eq_true] at h
  obtain ⟨⟨⟨top, right⟩, bottom⟩, left⟩ := h
  simp only [texts, SideTexts.all, num_eq_zero_of_beq top, num_eq_zero_of_beq right,
    num_eq_zero_of_beq bottom, num_eq_zero_of_beq left]

end Padding

/-! ### Reading calls and arguments -/

namespace Written

/-- Arguments written with a comma and a space between them. -/
def splitArgs (cs : List Char) : Option (List (List Char)) :=
  match cs.splitOn ',' with
  | [] => none
  | first :: rest => (rest.mapM fun a : List Char => a.dropPrefix? [' ']).map (first :: ·)

/-- A call `name(…)`: its name and its arguments. -/
def readCall (cs : List Char) : Option (String × List (List Char)) :=
  match cs.dropWhile (· != '(') with
  | '(' :: inner => do
      let inner ← inner.dropSuffix? [')']
      let args ← splitArgs inner
      some (String.ofList (cs.takeWhile (· != '(')), args)
  | _ => none

/-- An argument after its label: `horizontal: 4` after `horizontal: `. -/
def labelled (label : String) (arg : List Char) : Option (List Char) := arg.dropPrefix? label.toList

/-- A length before its unit: `4` of `4.dp`. -/
def unitLength (unit : String) (arg : List Char) : Option (List Char) := arg.dropSuffix? unit.toList

/-- Arguments none of which holds a comma, each after the first behind a space. -/
def Separated (args : List (List Char)) : List (List Char) :=
  match args with
  | [] => []
  | first :: rest => first :: rest.map (' ' :: ·)

theorem mapM_dropPrefix_space (args : List (List Char)) :
    (args.map (' ' :: ·)).mapM (fun a : List Char => a.dropPrefix? [' ']) = some args := by
  induction args with
  | nil => rfl
  | cons a rest ih => simp [List.dropPrefix?, ih]

/-- Arguments without commas are read back from their writing with a comma and a space. -/
theorem splitArgs_intercalate {args : List (List Char)} (nonempty : args ≠ [])
    (noComma : ∀ a ∈ args, ',' ∉ a) :
    splitArgs ([','].intercalate (Separated args)) = some args := by
  obtain ⟨first, rest, rfl⟩ := List.exists_cons_of_ne_nil nonempty
  have pieces : ∀ a ∈ Separated (first :: rest), ',' ∉ a := by
    intro a mem
    simp only [Separated, List.mem_cons, List.mem_map] at mem
    rcases mem with rfl | ⟨b, held, rfl⟩
    · exact noComma a List.mem_cons_self
    · simpa using noComma b (List.mem_cons_of_mem _ held)
  rw [splitArgs, List.splitOn_intercalate ',' pieces (by simp [Separated])]
  simp only [Separated, mapM_dropPrefix_space, Option.map_some]

theorem dropPrefix?_append (p rest : List Char) : (p ++ rest).dropPrefix? p = some rest :=
  List.dropPrefix?_append_of_beq rest (beq_self_eq_true p)

theorem dropSuffix?_append (l s : List Char) : (l ++ s).dropSuffix? s = some l := by
  rw [List.dropSuffix?_eq_some_iff]
  exact ⟨s, rfl, beq_self_eq_true s⟩

theorem labelled_append (label : String) (v : List Char) :
    labelled label (label.toList ++ v) = some v :=
  dropPrefix?_append _ _

theorem labelled_toList_append (label v : String) :
    labelled label (label ++ v).toList = some v.toList := by
  rw [String.toList_append, labelled_append]

theorem unitLength_append (unit : String) (v : List Char) :
    unitLength unit (v ++ unit.toList) = some v :=
  dropSuffix?_append _ _

/-- A call whose name has no opening parenthesis is read as that name and its arguments. -/
theorem readCall_call {name : String} (plainName : '(' ∉ name.toList) {args : List (List Char)}
    (nonempty : args ≠ []) (noComma : ∀ a ∈ args, ',' ∉ a) :
    readCall (name.toList ++ '(' :: [','].intercalate (Separated args) ++ [')']) =
      some (name, args) := by
  have before : ∀ c ∈ name.toList, (c != '(') = true := fun c mem => by
    rw [bne_iff_ne]
    rintro rfl
    exact plainName mem
  rw [readCall, List.append_assoc, List.dropWhile_append_of_pos before, List.takeWhile_append_of_pos before]
  simp [dropSuffix?_append, splitArgs_intercalate nonempty noComma]

theorem toList_intercalate_comma : ∀ args : List String,
    (", ".intercalate args).toList = [','].intercalate (Separated (args.map String.toList))
  | [] => rfl
  | [a] => by simp [Separated]
  | a :: b :: rest => by
      rw [String.intercalate_cons_of_ne_nil (List.cons_ne_nil _ _), String.toList_append,
        String.toList_append, toList_intercalate_comma (b :: rest)]
      cases rest <;> simp [Separated, List.intercalate_cons_cons]

/-- Arguments without commas written with a comma and a space between them are read back. -/
theorem splitArgs_comma {args : List String} (nonempty : args ≠ [])
    (noComma : ∀ a ∈ args, ',' ∉ a.toList) :
    splitArgs (", ".intercalate args).toList = some (args.map String.toList) := by
  rw [toList_intercalate_comma]
  exact splitArgs_intercalate (by simpa using nonempty) (by simpa using noComma)

theorem unitLength_toList_append (unit v : String) :
    unitLength unit (v ++ unit).toList = some v.toList := by
  rw [String.toList_append, unitLength_append]

/-- A call written with its arguments after the name, none of them holding a comma, is read
as that name and those arguments. -/
theorem readCall_intercalate {name : String} (plainName : '(' ∉ name.toList) {args : List String}
    (nonempty : args ≠ []) (noComma : ∀ a ∈ args, ',' ∉ a.toList) :
    readCall (name ++ "(" ++ ", ".intercalate args ++ ")").toList =
      some (name, args.map String.toList) := by
  rw [String.toList_append, String.toList_append, String.toList_append, toList_intercalate_comma,
    show "(".toList = ['('] from rfl, show ")".toList = [')'] from rfl,
    List.append_assoc name.toList, List.singleton_append]
  exact readCall_call plainName (by simpa using nonempty) (by simpa using noComma)

/-- Text without an opening parenthesis is no call. -/
theorem readCall_of_not_mem {cs : List Char} (plain : '(' ∉ cs) : readCall cs = none := by
  have rest : cs.dropWhile (· != '(') = [] := List.dropWhile_eq_nil_iff.2 fun c mem => by
    rw [bne_iff_ne]
    rintro rfl
    exact plain mem
  rw [readCall, rest]

end Written

/-! ### Number texts hold no argument punctuation -/

/-- Punctuation that separates or opens the arguments of a call. -/
def argumentPunctuation : List Char := [',', '(', ' ']

theorem digitChar_not_punctuation (d : Nat) : Nat.digitChar d ∉ argumentPunctuation := by
  simp [argumentPunctuation]

theorem punctuation_not_mem_repr (n : Nat) : ∀ c ∈ (Nat.repr n).toList, c ∉ argumentPunctuation := by
  intro c mem
  rw [Nat.repr_eq_ofList_toDigits, String.toList_ofList] at mem
  rcases Text.mem_toDigitsCore mem with mem | ⟨d, rfl⟩
  · exact absurd mem List.not_mem_nil
  · exact digitChar_not_punctuation d

theorem punctuation_not_mem_plainLayout (d : DecimalDigits) :
    ∀ c ∈ d.plainLayout.toList, c ∉ argumentPunctuation := by
  have digits := punctuation_not_mem_repr d.digits
  intro c mem
  simp only [DecimalDigits.plainLayout] at mem
  split at mem
  · simp only [String.toList_append, List.mem_append, zeroDigits, String.toList_ofList,
      List.mem_replicate] at mem
    rcases mem with (literal | ⟨-, rfl⟩) | digit
    · revert c; simp [argumentPunctuation]
    · simp [argumentPunctuation]
    · exact digits c digit
  · split at mem
    · simp only [String.toList_append, String.toList_ofList, List.mem_append] at mem
      rcases mem with (front | literal) | back
      · exact digits c (List.mem_of_mem_take front)
      · revert c; simp [argumentPunctuation]
      · exact digits c (List.mem_of_mem_drop back)
    · simp only [String.toList_append, List.mem_append, zeroDigits, String.toList_ofList,
        List.mem_replicate] at mem
      rcases mem with digit | ⟨-, rfl⟩
      · exact digits c digit
      · simp [argumentPunctuation]

/-- A number text holds no comma, opening parenthesis or space, so it stands as one argument. -/
theorem punctuation_not_mem_num (v : Float) : ∀ c ∈ (num v).toList, c ∉ argumentPunctuation := by
  have sign : ∀ negative : Bool, ∀ c ∈ (if negative then "-" else "").toList,
      c ∉ argumentPunctuation := by
    intro negative
    cases negative <;> simp [argumentPunctuation]
  intro c mem
  simp only [num] at mem
  split at mem
  · revert c; simp [argumentPunctuation]
  · simp only [Float.plainText] at mem
    split at mem
    · revert c; simp [argumentPunctuation]
    · split at mem <;> (revert c; simp [argumentPunctuation])
    · split at mem
      · rw [String.toList_append, List.mem_append] at mem
        rcases mem with negative | zero
        · exact sign _ c negative
        · revert c; simp [argumentPunctuation]
      · rw [String.toList_append, List.mem_append] at mem
        rcases mem with negative | digits
        · exact sign _ c negative
        · exact punctuation_not_mem_plainLayout _ c digits

theorem comma_not_mem_num (v : Float) : ',' ∉ (num v).toList :=
  fun mem => punctuation_not_mem_num v ',' mem (by decide)

theorem paren_not_mem_num (v : Float) : '(' ∉ (num v).toList :=
  fun mem => punctuation_not_mem_num v '(' mem (by decide)

/-! ### CSS -/

namespace Html

/-- Reads the value of the CSS padding shorthand, whose lengths are in pixels: one length for
every side; two for top and bottom, then left and right; three for the top, left and right, then
the bottom; four clockwise from the top. -/
def readPadding (value : String) : Option SideTexts :=
  match (value.toList.splitOn ' ').mapM (Written.unitLength "px") with
  | some [a] => some (.all (String.ofList a))
  | some [v, h] => some (.symmetric (String.ofList h) (String.ofList v))
  | some [t, h, b] => some ⟨String.ofList t, String.ofList h, String.ofList b, String.ofList h⟩
  | some [t, r, b, l] => some ⟨String.ofList t, String.ofList r, String.ofList b, String.ofList l⟩
  | _ => none

theorem mapM_unitLength_px (xs : List Float) :
    (xs.map fun x => (px x).toList).mapM (Written.unitLength "px") =
      some (xs.map fun x => (num x).toList) := by
  induction xs with
  | nil => rfl
  | cons x xs ih =>
      have head : Written.unitLength "px" (px x).toList = some (num x).toList := by
        rw [px, String.toList_append, Written.unitLength_append]
      rw [List.map_cons, List.mapM_cons, head, ih]
      rfl

/-- Lengths in pixels written with a space between them are read back as their number texts. -/
theorem lengths_intercalate {xs : List Float} (nonempty : xs ≠ []) :
    (((" ".intercalate (xs.map px)).toList.splitOn ' ').mapM (Written.unitLength "px")) =
      some (xs.map fun x => (num x).toList) := by
  have pieces : ∀ l ∈ xs.map fun x => (px x).toList, ' ' ∉ l := by
    simp only [List.mem_map]
    rintro l ⟨x, -, rfl⟩ mem
    exact punctuation_not_mem_num x ' ' (by simpa [px] using mem) (by decide)
  rw [String.toList_intercalate, show " ".toList = [' '] from rfl, List.map_map,
    List.splitOn_intercalate ' ' (by simpa using pieces) (by simpa using nonempty)]
  exact mapM_unitLength_px xs

/-- The shorthand written for a padding reads back as the number text of each side, and none is
written exactly when every side is zero. -/
theorem readPadding_cssPadding (p : Padding) :
    (cssPadding p = none ↔ p.isZero = true) ∧
      ∀ value, cssPadding p = some value → readPadding value = some p.texts := by
  unfold cssPadding
  by_cases zero : p.isZero = true
  · simp [zero]
  simp only [zero, Bool.false_eq_true, if_false]
  split_ifs with uniform symmetric <;> refine ⟨by simp, ?_⟩ <;> rintro _ ⟨⟩ <;> unfold readPadding
  · rw [show px p.top = " ".intercalate ([p.top].map px) by simp,
      lengths_intercalate (List.cons_ne_nil _ _), Padding.texts_of_isUniform uniform]
    simp
  · rw [show px p.top ++ " " ++ px p.left = " ".intercalate ([p.top, p.left].map px) by
        simp [String.intercalate_cons_of_ne_nil],
      lengths_intercalate (List.cons_ne_nil _ _), Padding.texts_of_isSymmetric symmetric]
    simp [SideTexts.symmetric]
  · rw [show px p.top ++ " " ++ px p.right ++ " " ++ px p.bottom ++ " " ++ px p.left =
        " ".intercalate ([p.top, p.right, p.bottom, p.left].map px) by
        simp [String.intercalate_cons_of_ne_nil, String.append_assoc],
      lengths_intercalate (List.cons_ne_nil _ _)]
    simp [Padding.texts]

end Html

/-! ### Flutter -/

@[simp] theorem Fragment.modifiers_new (e : String) : (Fragment.new e).modifiers = [] := rfl

/-- Adding no modifiers leaves a fragment as it is. -/
theorem Fragment.append_no_modifiers (f : Fragment) : { f with modifiers := f.modifiers ++ [] } = f := by
  rw [List.append_nil]
  cases f; rfl

namespace Flutter

/-- Reads Flutter edge insets: `EdgeInsets.all(v)` for every side,
`EdgeInsets.symmetric(horizontal: h, vertical: v)` for the left and right, then the top and
bottom, and `EdgeInsets.fromLTRB(l, t, r, b)` from the left. -/
def readEdgeInsets (s : String) : Option SideTexts := do
  let (name, args) ← Written.readCall s.toList
  if name = "EdgeInsets.all" then
    match args with
    | [a] => some (.all (String.ofList a))
    | _ => none
  else if name = "EdgeInsets.symmetric" then
    match args with
    | [h, v] => do
        let h ← Written.labelled "horizontal: " h
        let v ← Written.labelled "vertical: " v
        some (.symmetric (String.ofList h) (String.ofList v))
    | _ => none
  else if name = "EdgeInsets.fromLTRB" then
    match args with
    | [l, t, r, b] => some ⟨String.ofList t, String.ofList r, String.ofList b, String.ofList l⟩
    | _ => none
  else none

/-- Reads the argument of a `Padding` widget: its edge insets. -/
def readPaddingArgument (arg : String) : Option SideTexts :=
  (Written.labelled "padding: " arg.toList).bind fun insets => readEdgeInsets (String.ofList insets)

section Forms

variable {a b c d : String}

theorem readEdgeInsets_all (plain : ',' ∉ a.toList) :
    readEdgeInsets ("EdgeInsets.all(" ++ a ++ ")") = some (.all a) := by
  rw [show "EdgeInsets.all(" ++ a ++ ")" = "EdgeInsets.all" ++ "(" ++ ", ".intercalate [a] ++ ")" by
      simp only [String.intercalate_singleton, String.append_assoc]; rfl,
    readEdgeInsets, Written.readCall_intercalate (by simp) (List.cons_ne_nil _ _) (by simpa)]
  simp

theorem readEdgeInsets_symmetric (hPlain : ',' ∉ a.toList) (vPlain : ',' ∉ b.toList) :
    readEdgeInsets ("EdgeInsets.symmetric(horizontal: " ++ a ++ ", vertical: " ++ b ++ ")") =
      some (.symmetric a b) := by
  rw [show "EdgeInsets.symmetric(horizontal: " ++ a ++ ", vertical: " ++ b ++ ")" =
      "EdgeInsets.symmetric" ++ "(" ++
        ", ".intercalate ["horizontal: " ++ a, "vertical: " ++ b] ++ ")" by
      simp only [String.intercalate_cons_of_ne_nil (List.cons_ne_nil _ _),
        String.intercalate_singleton, String.append_assoc]; rfl,
    readEdgeInsets, Written.readCall_intercalate (by simp) (List.cons_ne_nil _ _)
      (by simp [hPlain, vPlain, -String.toList_append, String.toList_append])]
  simp [Written.labelled_toList_append, -String.toList_append]

theorem readEdgeInsets_fromLTRB (lPlain : ',' ∉ a.toList) (tPlain : ',' ∉ b.toList)
    (rPlain : ',' ∉ c.toList) (bPlain : ',' ∉ d.toList) :
    readEdgeInsets ("EdgeInsets.fromLTRB(" ++ a ++ ", " ++ b ++ ", " ++ c ++ ", " ++ d ++ ")") =
      some ⟨b, c, d, a⟩ := by
  rw [show "EdgeInsets.fromLTRB(" ++ a ++ ", " ++ b ++ ", " ++ c ++ ", " ++ d ++ ")" =
      "EdgeInsets.fromLTRB" ++ "(" ++ ", ".intercalate [a, b, c, d] ++ ")" by
      simp only [String.intercalate_cons_of_ne_nil (List.cons_ne_nil _ _),
        String.intercalate_singleton, String.append_assoc]; rfl,
    readEdgeInsets, Written.readCall_intercalate (by simp) (List.cons_ne_nil _ _)
      (by simp [lPlain, tPlain, rPlain, bPlain])]
  simp

end Forms

/-- The edge insets written for a padding read back as the number text of each side. -/
theorem readEdgeInsets_edgeInsets (p : Padding) : readEdgeInsets (edgeInsets p) = some p.texts := by
  unfold edgeInsets
  split_ifs with uniform symmetric
  · rw [readEdgeInsets_all (comma_not_mem_num _), Padding.texts_of_isUniform uniform]
  · rw [readEdgeInsets_symmetric (comma_not_mem_num _) (comma_not_mem_num _),
      Padding.texts_of_isSymmetric symmetric]
  · rw [readEdgeInsets_fromLTRB (comma_not_mem_num _) (comma_not_mem_num _) (comma_not_mem_num _)
      (comma_not_mem_num _)]
    rfl

theorem readPaddingArgument_edgeInsets (p : Padding) :
    readPaddingArgument ("padding: " ++ edgeInsets p) = some p.texts := by
  rw [readPaddingArgument, String.toList_append, Written.labelled_append, Option.bind_some,
    String.ofList_toList, readEdgeInsets_edgeInsets]

/-- A join point that keeps the modifiers of the fragment it is handed, called on one with the
modifiers `ms`. -/
theorem Yields.callModifiers {scene : Scene} {σ : Type} {ms : List (String × String)}
    {j : σ → Fragment → Emit Fragment}
    (fact : ∀ u g, Yields scene (·.modifiers = g.modifiers) (j u g)) (u : σ) (g : Fragment)
    (same : g.modifiers = ms) : Yields scene (·.modifiers = ms) (j u g) :=
  same ▸ fact u g

/-- The flex widget of a layout is built bare: its steps only set arguments. -/
theorem flexWidget_bare (scene : Scene) (node : AltNode) (layout : LayoutDescriptor) (gap : Float) :
    Yields scene (·.modifiers = []) (flexWidget node layout gap) := by
  simp -zeta -zetaHave only [flexWidget]
  lift_lets
  -- each join point is taken as a hypothesis that it keeps the modifiers, proved where it is bound
  repeat' first
    | (intro x; refine (fun (hx : ∀ (u : Unit) (g : Fragment),
          Yields scene (·.modifiers = g.modifiers) (x u g)) => ?_) ?_; clear_value x)
    | (intro x; simp -zeta -zetaHave only [x])
    | intro _
    | lift_lets
    | ((with_reducible refine Yields.pure ?_); simp [*])
    | ((with_reducible refine Yields.callModifiers ?_ _ _ ?_); (with_reducible assumption);
        (repeat' split) <;> simp [*])
    | (simp -zeta -zetaHave only [x])
    | with_reducible refine Yields.bind_any fun _ => ?_
    | split

/-- A flex layout is wrapped in a `Padding` widget holding its edge insets exactly when its
padding is not zero, and in nothing else. -/
theorem flex_padding (scene : Scene) (node : AltNode) (layout : LayoutDescriptor)
    (flow : List Fragment) :
    Yields scene (·.modifiers = if layout.padding.isZero then []
        else [("Padding", "padding: " ++ edgeInsets layout.padding)])
      (flex node layout flow) := by
  have padded : ∀ gap, Yields scene (·.modifiers = if layout.padding.isZero then []
      else [("Padding", "padding: " ++ edgeInsets layout.padding)])
      (flexWidget node layout gap >>= fun f =>
        if layout.padding.isZero = true then pure (f.withChildren flow)
        else pure ((f.withChildren flow).withModifier "Padding"
          ("padding: " ++ edgeInsets layout.padding))) := fun gap =>
    Yields.bind (flexWidget_bare scene node layout gap) fun f bare => by
      split <;> exact Yields.pure (by simp [*])
  unfold flex
  by_cases negative : layout.gap < 0.0
  · simp only [negative, ↓reduceIte, pure_bind]
    exact Yields.bind_any fun _ => padded 0.0
  · simp only [negative, ↓reduceIte, pure_bind]
    exact padded layout.gap

end Flutter

/-! ### SwiftUI -/

/-- The sides that one or more paddings pad, each with its number text. -/
structure PaddedSides where
  top : Option String
  right : Option String
  bottom : Option String
  left : Option String
  deriving DecidableEq

namespace PaddedSides

def unpadded : PaddedSides := ⟨none, none, none, none⟩

/-- A side padded by at most one of two paddings. -/
def joinSide : Option String → Option String → Option (Option String)
  | none, b => some b
  | a, none => some a
  | some _, some _ => none

/-- Two paddings one around the other, read when no side is padded by both. -/
def join (a b : PaddedSides) : Option PaddedSides := do
  pure ⟨← joinSide a.top b.top, ← joinSide a.right b.right, ← joinSide a.bottom b.bottom,
    ← joinSide a.left b.left⟩

/-- The number texts of the sides, `0` where nothing pads. -/
def texts (a : PaddedSides) : SideTexts :=
  ⟨a.top.getD "0", a.right.getD "0", a.bottom.getD "0", a.left.getD "0"⟩

@[simp] theorem unpadded_join (a : PaddedSides) : unpadded.join a = some a := rfl

end PaddedSides

namespace SwiftUi

/-- The sides one `.padding(…)` modifier pads: `.padding(v)` every side,
`.padding(.horizontal, v)` the leading and trailing ones, `.padding(.vertical, v)` the top
and bottom, and `.padding(EdgeInsets(top: t, leading: l, bottom: b, trailing: r))` each side by
its own. -/
def readPaddingModifier (args : String) : Option PaddedSides :=
  match Written.readCall args.toList with
  | some (name, insets) =>
      if name = "EdgeInsets" then
        match insets with
        | [t, l, b, r] => do
            let t ← Written.labelled "top: " t
            let l ← Written.labelled "leading: " l
            let b ← Written.labelled "bottom: " b
            let r ← Written.labelled "trailing: " r
            some ⟨some (String.ofList t), some (String.ofList r), some (String.ofList b),
              some (String.ofList l)⟩
        | _ => none
      else none
  | none =>
      match Written.splitArgs args.toList with
      | some [v] => some ⟨some (String.ofList v), some (String.ofList v), some (String.ofList v),
          some (String.ofList v)⟩
      | some [axis, v] =>
          if axis = ".horizontal".toList then some ⟨none, some (String.ofList v), none, some (String.ofList v)⟩
          else if axis = ".vertical".toList then some ⟨some (String.ofList v), none, some (String.ofList v), none⟩
          else none
      | _ => none

/-- Reads a chain of modifiers, each a padding around the ones before it. -/
def readPadding (modifiers : List (String × String)) : Option SideTexts :=
  (modifiers.foldlM (fun sides (m : String × String) =>
      if m.1 = "padding" then (readPaddingModifier m.2).bind sides.join else none)
    PaddedSides.unpadded).map PaddedSides.texts

section Forms

variable {a b c d : String}

theorem readPaddingModifier_all (paren : '(' ∉ a.toList) (plain : ',' ∉ a.toList) :
    readPaddingModifier a = some ⟨some a, some a, some a, some a⟩ := by
  have single := @Written.splitArgs_comma [a] (List.cons_ne_nil _ _) (by simpa)
  rw [String.intercalate_singleton] at single
  rw [readPaddingModifier, Written.readCall_of_not_mem paren, single]
  simp

theorem readPaddingModifier_horizontal (paren : '(' ∉ a.toList) (plain : ',' ∉ a.toList) :
    readPaddingModifier (".horizontal, " ++ a) = some ⟨none, some a, none, some a⟩ := by
  have pair := @Written.splitArgs_comma [".horizontal", a] (List.cons_ne_nil _ _)
    (by simp [plain])
  rw [String.intercalate_cons_of_ne_nil (List.cons_ne_nil _ _), String.intercalate_singleton]
    at pair
  rw [show ".horizontal, " ++ a = ".horizontal" ++ ", " ++ a by simp only [String.append_assoc]; rfl,
    readPaddingModifier, Written.readCall_of_not_mem (by simp [paren]), pair]
  simp

theorem readPaddingModifier_vertical (paren : '(' ∉ a.toList) (plain : ',' ∉ a.toList) :
    readPaddingModifier (".vertical, " ++ a) = some ⟨some a, none, some a, none⟩ := by
  have pair := @Written.splitArgs_comma [".vertical", a] (List.cons_ne_nil _ _)
    (by simp [plain])
  rw [String.intercalate_cons_of_ne_nil (List.cons_ne_nil _ _), String.intercalate_singleton]
    at pair
  rw [show ".vertical, " ++ a = ".vertical" ++ ", " ++ a by simp only [String.append_assoc]; rfl,
    readPaddingModifier, Written.readCall_of_not_mem (by simp [paren]), pair]
  simp

theorem readPaddingModifier_edgeInsets (tPlain : ',' ∉ a.toList) (lPlain : ',' ∉ b.toList)
    (bPlain : ',' ∉ c.toList) (rPlain : ',' ∉ d.toList) :
    readPaddingModifier ("EdgeInsets(top: " ++ a ++ ", leading: " ++ b ++ ", bottom: " ++ c ++
      ", trailing: " ++ d ++ ")") = some ⟨some a, some d, some c, some b⟩ := by
  rw [show "EdgeInsets(top: " ++ a ++ ", leading: " ++ b ++ ", bottom: " ++ c ++ ", trailing: " ++
      d ++ ")" = "EdgeInsets" ++ "(" ++ ", ".intercalate
        ["top: " ++ a, "leading: " ++ b, "bottom: " ++ c, "trailing: " ++ d] ++ ")" by
      simp only [String.intercalate_cons_of_ne_nil (List.cons_ne_nil _ _),
        String.intercalate_singleton, String.append_assoc]; rfl,
    readPaddingModifier, Written.readCall_intercalate (by simp) (List.cons_ne_nil _ _)
      (by simp [tPlain, lPlain, bPlain, rPlain, -String.toList_append, String.toList_append])]
  simp [Written.labelled_toList_append, -String.toList_append]

end Forms

theorem readPadding_nil : readPadding [] = some (SideTexts.all "0") := rfl

theorem readPadding_single {args : String} {sides : PaddedSides}
    (read : readPaddingModifier args = some sides) :
    readPadding [("padding", args)] = some sides.texts := by
  simp [readPadding, read]

/-- A side of a symmetric padding is not padded when it compares equal to zero, and then it is
written `0` as an unpadded side reads. -/
theorem num_eq_zero_of_bne {v : Float} (h : (v != 0.0) = false) : num v = "0" :=
  num_eq_zero_of_beq (by simpa [bne] using h)

/-- A symmetric padding with both axes zero is zero on every side. -/
theorem isZero_of_isSymmetric {p : Padding} (symmetric : p.isSymmetric = true)
    (horizontal : (p.left != 0.0) = false) (vertical : (p.top != 0.0) = false) :
    p.isZero = true := by
  simp only [Padding.isSymmetric, Bool.and_eq_true] at symmetric
  have left : (p.left == 0.0) = true := by simpa [bne] using horizontal
  have top : (p.top == 0.0) = true := by simpa [bne] using vertical
  have right := Float.beq_of_beq_of_beq (Float.beq_symm symmetric.1) (Float.beq_symm left)
  have bottom := Float.beq_of_beq_of_beq (Float.beq_symm symmetric.2) (Float.beq_symm top)
  simp [Padding.isZero, top, right, bottom, left]

/-- The padding modifiers of a view read back as the number text of each side, and there are
none exactly when every side is zero. A symmetric padding drops the modifier of an axis that is
zero, which reads as the `0` it stands for. -/
theorem paddingModifiers_read (f : Fragment) (p : Padding) :
    ∃ ms, paddingModifiers f p = { f with modifiers := f.modifiers ++ ms } ∧
      (ms = [] ↔ p.isZero = true) ∧ readPadding ms = some p.texts := by
  unfold paddingModifiers
  by_cases zero : p.isZero = true
  · refine ⟨[], ?_, by simp [zero], by rw [readPadding_nil, Padding.texts_of_isZero zero]⟩
    rw [if_pos zero, Fragment.append_no_modifiers]
  rw [if_neg zero]
  by_cases uniform : p.isUniform = true
  · refine ⟨[("padding", num p.top)], if_pos uniform, by simp [zero], ?_⟩
    rw [readPadding_single (readPaddingModifier_all (paren_not_mem_num _) (comma_not_mem_num _)),
      Padding.texts_of_isUniform uniform]
    rfl
  rw [if_neg uniform]
  by_cases symmetric : p.isSymmetric = true
  · rw [if_pos symmetric]
    have sides := Padding.texts_of_isSymmetric symmetric
    have horizontal := readPaddingModifier_horizontal (paren_not_mem_num p.left)
      (comma_not_mem_num p.left)
    have vertical := readPaddingModifier_vertical (paren_not_mem_num p.top)
      (comma_not_mem_num p.top)
    -- an axis whose side is zero gets no modifier
    cases leftZero : p.left != 0.0 <;> cases topZero : p.top != 0.0
    · exact absurd (isZero_of_isSymmetric symmetric leftZero topZero) zero
    · refine ⟨[("padding", ".vertical, " ++ num p.top)], by simp [Fragment.withModifier],
        by simp [zero], ?_⟩
      rw [readPadding_single vertical, sides, num_eq_zero_of_bne leftZero]
      rfl
    · refine ⟨[("padding", ".horizontal, " ++ num p.left)], by simp [Fragment.withModifier],
        by simp [zero], ?_⟩
      rw [readPadding_single horizontal, sides, num_eq_zero_of_bne topZero]
      rfl
    · refine ⟨[("padding", ".horizontal, " ++ num p.left), ("padding", ".vertical, " ++ num p.top)],
        by simp [Fragment.withModifier], by simp [zero], ?_⟩
      simp [readPadding, horizontal, vertical, sides, PaddedSides.unpadded, PaddedSides.join,
        PaddedSides.joinSide, PaddedSides.texts, SideTexts.symmetric]
  · refine ⟨[("padding", "EdgeInsets(top: " ++ num p.top ++ ", leading: " ++ num p.left ++
      ", bottom: " ++ num p.bottom ++ ", trailing: " ++ num p.right ++ ")")], if_neg symmetric,
      by simp [zero], ?_⟩
    rw [readPadding_single (readPaddingModifier_edgeInsets (comma_not_mem_num _)
      (comma_not_mem_num _) (comma_not_mem_num _) (comma_not_mem_num _))]
    rfl

end SwiftUi

/-! ### Compose -/

namespace Compose

/-- Reads the arguments of Compose's `padding` modifier, in density-independent pixels:
`padding(all)`, `padding(horizontal = h, vertical = v)` or
`padding(start = s, top = t, end = e, bottom = b)`. -/
def readPadding (args : String) : Option SideTexts :=
  match Written.splitArgs args.toList with
  | some [a] => (Written.unitLength ".dp" a).map fun a => .all (String.ofList a)
  | some [h, v] => do
      let h ← Written.labelled "horizontal = " h >>= Written.unitLength ".dp"
      let v ← Written.labelled "vertical = " v >>= Written.unitLength ".dp"
      some (.symmetric (String.ofList h) (String.ofList v))
  | some [s, t, e, b] => do
      let s ← Written.labelled "start = " s >>= Written.unitLength ".dp"
      let t ← Written.labelled "top = " t >>= Written.unitLength ".dp"
      let e ← Written.labelled "end = " e >>= Written.unitLength ".dp"
      let b ← Written.labelled "bottom = " b >>= Written.unitLength ".dp"
      some ⟨String.ofList t, String.ofList e, String.ofList b, String.ofList s⟩
  | _ => none

section Forms

variable {a b c d : String}

theorem readPadding_all (plain : ',' ∉ a.toList) : readPadding (a ++ ".dp") = some (.all a) := by
  have single := @Written.splitArgs_comma [a ++ ".dp"] (List.cons_ne_nil _ _)
    (by simp [plain, -String.toList_append, String.toList_append])
  rw [String.intercalate_singleton] at single
  rw [readPadding, single]
  simp [Written.unitLength_toList_append, -String.toList_append]

theorem readPadding_symmetric (hPlain : ',' ∉ a.toList) (vPlain : ',' ∉ b.toList) :
    readPadding ("horizontal = " ++ (a ++ ".dp") ++ ", vertical = " ++ (b ++ ".dp")) =
      some (.symmetric a b) := by
  have pair := @Written.splitArgs_comma
    ["horizontal = " ++ (a ++ ".dp"), "vertical = " ++ (b ++ ".dp")]
    (List.cons_ne_nil _ _) (by simp [hPlain, vPlain, -String.toList_append, String.toList_append])
  rw [String.intercalate_cons_of_ne_nil (List.cons_ne_nil _ _), String.intercalate_singleton]
    at pair
  rw [readPadding, show "horizontal = " ++ (a ++ ".dp") ++ ", vertical = " ++ (b ++ ".dp") =
      "horizontal = " ++ (a ++ ".dp") ++ ", " ++ ("vertical = " ++ (b ++ ".dp")) by
      simp only [String.append_assoc]; rfl, pair]
  simp [Written.labelled_toList_append, Written.unitLength_toList_append, -String.toList_append]

theorem readPadding_sides (sPlain : ',' ∉ a.toList) (tPlain : ',' ∉ b.toList)
    (ePlain : ',' ∉ c.toList) (bPlain : ',' ∉ d.toList) :
    readPadding ("start = " ++ (a ++ ".dp") ++ ", top = " ++ (b ++ ".dp") ++ ", end = " ++
      (c ++ ".dp") ++ ", bottom = " ++ (d ++ ".dp")) = some ⟨b, c, d, a⟩ := by
  have sides := @Written.splitArgs_comma
    ["start = " ++ (a ++ ".dp"), "top = " ++ (b ++ ".dp"), "end = " ++ (c ++ ".dp"),
      "bottom = " ++ (d ++ ".dp")]
    (List.cons_ne_nil _ _)
    (by simp [sPlain, tPlain, ePlain, bPlain, -String.toList_append, String.toList_append])
  simp only [String.intercalate_cons_of_ne_nil (List.cons_ne_nil _ _),
    String.intercalate_singleton] at sides
  rw [readPadding, show "start = " ++ (a ++ ".dp") ++ ", top = " ++ (b ++ ".dp") ++ ", end = " ++
      (c ++ ".dp") ++ ", bottom = " ++ (d ++ ".dp") = "start = " ++ (a ++ ".dp") ++ ", " ++
      ("top = " ++ (b ++ ".dp") ++ ", " ++ ("end = " ++ (c ++ ".dp") ++ ", " ++
        ("bottom = " ++ (d ++ ".dp")))) by
      simp only [String.append_assoc]; rfl, sides]
  simp [Written.labelled_toList_append, Written.unitLength_toList_append, -String.toList_append]

end Forms

/-- The padding modifier of a composable reads back as the number text of each side, and there
is none exactly when every side is zero. -/
theorem paddingModifier_read (f : Fragment) (p : Padding) :
    ∃ ms, paddingModifier f p = { f with modifiers := f.modifiers ++ ms } ∧
      (ms = [] ↔ p.isZero = true) ∧
      ∀ m ∈ ms, m.1 = "padding" ∧ readPadding m.2 = some p.texts := by
  unfold paddingModifier
  by_cases zero : p.isZero = true
  · refine ⟨[], ?_, by simp [zero], by simp⟩
    rw [if_pos zero, Fragment.append_no_modifiers]
  simp only [zero, Bool.false_eq_true, ↓reduceIte]
  split_ifs with uniform symmetric
  · refine ⟨[("padding", dp p.top)], rfl, by simp, ?_⟩
    simp only [List.mem_singleton, forall_eq, true_and]
    rw [dp, readPadding_all (comma_not_mem_num _), Padding.texts_of_isUniform uniform]
  · refine ⟨[("padding", "horizontal = " ++ dp p.left ++ ", vertical = " ++ dp p.top)], rfl,
      by simp, ?_⟩
    simp only [List.mem_singleton, forall_eq, true_and]
    rw [dp, dp, readPadding_symmetric (comma_not_mem_num _) (comma_not_mem_num _),
      Padding.texts_of_isSymmetric symmetric]
  · refine ⟨[("padding", "start = " ++ dp p.left ++ ", top = " ++ dp p.top ++ ", end = " ++
      dp p.right ++ ", bottom = " ++ dp p.bottom)], rfl, by simp, ?_⟩
    simp only [List.mem_singleton, forall_eq, true_and]
    rw [dp, dp, dp, dp, readPadding_sides (comma_not_mem_num _) (comma_not_mem_num _)
      (comma_not_mem_num _) (comma_not_mem_num _)]
    rfl

end Compose

/-! ### Every target -/

/-- Every target writes the padding of a layout so that it reads back, side by side, as the
number text of each side, and writes none exactly when every side is zero: the CSS shorthand,
the `Padding` widget Flutter wraps a flex layout in, the padding modifiers of a SwiftUI view
and the padding modifier of a composable. -/
theorem padding_written_per_target (p : Padding) :
    ((Html.cssPadding p = none ↔ p.isZero = true) ∧
      ∀ value, Html.cssPadding p = some value → Html.readPadding value = some p.texts) ∧
    (∀ scene node (layout : LayoutDescriptor) flow,
      Yields scene (·.modifiers = if p.isZero then []
          else [("Padding", "padding: " ++ Flutter.edgeInsets p)])
        (Flutter.flex node { layout with padding := p } flow)) ∧
    Flutter.readPaddingArgument ("padding: " ++ Flutter.edgeInsets p) = some p.texts ∧
    (∀ f, ∃ ms, SwiftUi.paddingModifiers f p = { f with modifiers := f.modifiers ++ ms } ∧
      (ms = [] ↔ p.isZero = true) ∧ SwiftUi.readPadding ms = some p.texts) ∧
    (∀ f, ∃ ms, Compose.paddingModifier f p = { f with modifiers := f.modifiers ++ ms } ∧
      (ms = [] ↔ p.isZero = true) ∧
      ∀ m ∈ ms, m.1 = "padding" ∧ Compose.readPadding m.2 = some p.texts) :=
  ⟨Html.readPadding_cssPadding p,
    fun scene node layout flow => Flutter.flex_padding scene node { layout with padding := p } flow,
    Flutter.readPaddingArgument_edgeInsets p,
    fun f => SwiftUi.paddingModifiers_read f p,
    fun f => Compose.paddingModifier_read f p⟩

end Handoff
