/-
Module: Handoff.Proofs.Normalize.TextRuns
Purpose: What a text node's content is made of. Its runs spell its characters, and no two
  adjacent runs share a style, since merging never changes the style of a run it merges into;
  a run is empty only when it is the only one or a segment of the node is empty. The fills the
  runs point into are the node's own, extended in order of first use by the first fill each
  segment names, or the node's own again when the segments do not spell the characters (those
  the segments added are cut off); every run points at no fill or into them, and a run is built
  pointing at no fill only when there was no fill yet.
Main exports: extendFills, segmentFill, segmentRuns_fills, segmentRuns_fillRef_none,
  isChain_mergeRuns, forall_mergeRuns, buildText_cases, textRuns_partition, buildText_fills,
  normalizeRoots_fillRef_lt, textRuns_point_into_fills.
-/
import Mathlib
import Handoff.Proofs.Annotate.Answers

namespace Handoff

/-! ### Fills in order of first use -/

/-- `fills` extended by paints in order: each paint not yet among them, by paint equality, is
appended. -/
def extendFills (fills : List PaintEntry) : List PaintEntry → List PaintEntry
  | [] => fills
  | e :: rest => extendFills (if fills.any (· == e) then fills else fills ++ [e]) rest

@[simp] theorem extendFills_nil (fills : List PaintEntry) : extendFills fills [] = fills := rfl

theorem extendFills_append (fills : List PaintEntry) :
    ∀ es es' : List PaintEntry, extendFills fills (es ++ es') = extendFills (extendFills fills es) es'
  | [], _ => rfl
  | _ :: rest, es' => extendFills_append _ rest es'

theorem prefix_extendFills : ∀ (fills es : List PaintEntry), fills <+: extendFills fills es
  | _, [] => List.prefix_refl _
  | fills, e :: rest => by
      have grown : fills <+: (if fills.any (· == e) then fills else fills ++ [e]) := by
        split
        · exact List.prefix_refl _
        · exact List.prefix_append _ _
      exact grown.trans (prefix_extendFills _ rest)

/-- The index of a paint among fills is the first equal one, the paint appended when there is
none. -/
theorem fillIndex_snd (fills : List PaintEntry) (e : PaintEntry) :
    (fillIndex fills e).2 = extendFills fills [e] := by
  unfold fillIndex
  split
  · rename_i i found
    have present : fills.any (· == e) = true := by
      obtain ⟨lt, eq, -⟩ := List.findIdx?_eq_some_iff_getElem.1 found
      exact List.any_eq_true.2 ⟨_, List.getElem_mem lt, eq⟩
    simp [extendFills, present]
  · rename_i missing
    have absent : fills.any (· == e) = false := by
      rw [List.findIdx?_eq_none_iff] at missing
      exact List.any_eq_false.2 fun x m => by simp [missing x m]
    simp [extendFills, absent]

theorem fillIndex_fst_lt (fills : List PaintEntry) (e : PaintEntry) :
    (fillIndex fills e).1 < (fillIndex fills e).2.length := by
  unfold fillIndex
  split
  · rename_i i found
    exact (List.findIdx?_eq_some_iff_getElem.1 found).1
  · simp


/-! ### The run of one segment -/

/-- The first paint of a list that converts. -/
theorem firstPaint_fst (node : Nat) :
    ∀ ps : List RawPaint, (firstPaint node ps).1 = ps.findSome? fun p => (convertPaint p node).1
  | [] => rfl
  | p :: rest => by
      unfold firstPaint
      split
      · rename_i e ds converted
        simp [converted]
      · rename_i ds failed
        simp [failed, firstPaint_fst node rest]

/-- The fill a segment names: its first paint that converts. -/
def segmentFill (id : Nat) (s : RawTextSegment) : Option PaintEntry :=
  s.fills.findSome? fun p => (convertPaint p id).1

@[simp] theorem segmentRun_characters (raw : NodeAttrs) (s : RawTextSegment) (fills : List PaintEntry)
    (id : Nat) : (segmentRun raw s fills id).1.characters = s.characters := rfl

theorem segmentRun_fills (raw : NodeAttrs) (s : RawTextSegment) (fills : List PaintEntry) (id : Nat) :
    (segmentRun raw s fills id).2.1 = extendFills fills (segmentFill id s).toList := by
  unfold segmentRun segmentFill
  rw [← firstPaint_fst]
  rcases firstPaint id s.fills with ⟨_ | e, ds⟩
  · simp only [Option.toList_none, extendFills_nil]
    split <;> rfl
  · simp only [Option.toList_some]
    exact fillIndex_snd fills e


/-- A segment's run points at the fill it names, found or appended, and otherwise at the first
of the fills, if any. -/
theorem segmentRun_fillRef (raw : NodeAttrs) (s : RawTextSegment) (fills : List PaintEntry)
    (id : Nat) :
    (segmentRun raw s fills id).1.fillRef =
      match segmentFill id s with
      | some e => some (fillIndex fills e).1
      | none => if fills.isEmpty then none else some 0 := by
  unfold segmentRun segmentFill
  rw [← firstPaint_fst]
  rcases firstPaint id s.fills with ⟨_ | e, ds⟩
  · simp only
    split <;> rfl
  · rfl

/-- A segment's run points at no fill only when there was none to point at. -/
theorem segmentRun_fillRef_none {raw : NodeAttrs} {s : RawTextSegment} {fills : List PaintEntry}
    {id : Nat} (none_ : (segmentRun raw s fills id).1.fillRef = none) :
    fills = [] ∧ segmentFill id s = none := by
  rw [segmentRun_fillRef] at none_
  cases named : segmentFill id s with
  | some e => simp [named] at none_
  | none =>
      simp only [named, ite_eq_left_iff, reduceCtorEq, imp_false, Bool.not_eq_true,
        Bool.not_eq_false] at none_
      exact ⟨List.isEmpty_iff.1 none_, rfl⟩

/-- A segment's run points into the fills it leaves. -/
theorem segmentRun_fillRef_lt {raw : NodeAttrs} {s : RawTextSegment} {fills : List PaintEntry}
    {id : Nat} {i : Nat} (some_ : (segmentRun raw s fills id).1.fillRef = some i) :
    i < (segmentRun raw s fills id).2.1.length := by
  rw [segmentRun_fillRef] at some_
  rw [segmentRun_fills]
  cases named : segmentFill id s with
  | some e =>
      simp only [named, Option.some.injEq] at some_
      rw [Option.toList_some, ← fillIndex_snd, ← some_]
      exact fillIndex_fst_lt fills e
  | none =>
      simp only [named] at some_
      split at some_
      · cases some_
      · rename_i nonempty
        cases some_
        simpa [List.length_pos_iff] using nonempty


/-! ### The runs of the segments -/

theorem filterMap_cons_toList {α β : Type} (f : α → Option β) (a : α) (l : List α) :
    (a :: l).filterMap f = (f a).toList ++ l.filterMap f := by
  rw [List.filterMap_cons]
  cases f a <;> rfl

section Segments

variable (raw : NodeAttrs) (id : Nat)

@[simp] theorem segmentRuns_cons_runs (s : RawTextSegment) (rest : List RawTextSegment)
    (fills : List PaintEntry) :
    (segmentRuns raw id (s :: rest) fills).1 =
      (segmentRun raw s fills id).1 :: (segmentRuns raw id rest (segmentRun raw s fills id).2.1).1 :=
  rfl

@[simp] theorem segmentRuns_cons_fills (s : RawTextSegment) (rest : List RawTextSegment)
    (fills : List PaintEntry) :
    (segmentRuns raw id (s :: rest) fills).2.1 =
      (segmentRuns raw id rest (segmentRun raw s fills id).2.1).2.1 :=
  rfl

/-- Each segment gives one run, with the segment's characters. -/
theorem segmentRuns_characters :
    ∀ (segments : List RawTextSegment) (fills : List PaintEntry),
      (segmentRuns raw id segments fills).1.map TextRun.characters =
        segments.map RawTextSegment.characters
  | [], _ => rfl
  | s :: rest, fills => by
      simp [segmentRuns_characters rest]

/-- The segments extend the fills by the fills they name, in order of first use. -/
theorem segmentRuns_fills :
    ∀ (segments : List RawTextSegment) (fills : List PaintEntry),
      (segmentRuns raw id segments fills).2.1 =
        extendFills fills (segments.filterMap (segmentFill id))
  | [], _ => rfl
  | s :: rest, fills => by
      rw [segmentRuns_cons_fills, segmentRuns_fills rest, segmentRun_fills, ← extendFills_append,
        filterMap_cons_toList]

/-- The `k`-th run was built against the fills the segments before it left, and points at no fill
only if those were none. -/
theorem segmentRuns_fillRef_none :
    ∀ (segments : List RawTextSegment) (fills : List PaintEntry) (k : Nat)
      (hk : k < (segmentRuns raw id segments fills).1.length),
      ((segmentRuns raw id segments fills).1[k]).fillRef = none →
        extendFills fills ((segments.take k).filterMap (segmentFill id)) = []
  | [], _, _, hk, _ => absurd hk (by simp [segmentRuns])
  | s :: rest, fills, 0, _, none_ => by
      simpa using (segmentRun_fillRef_none none_).1
  | s :: rest, fills, k + 1, hk, none_ => by
      simp only [segmentRuns_cons_runs, List.getElem_cons_succ] at none_
      have earlier := segmentRuns_fillRef_none rest _ k (by simpa using hk) none_
      rw [segmentRun_fills, ← extendFills_append] at earlier
      rwa [List.take_succ_cons, filterMap_cons_toList]

/-- Every run points at no fill or into the fills the segments leave. -/
theorem segmentRuns_fillRef_lt :
    ∀ (segments : List RawTextSegment) (fills : List PaintEntry),
      ∀ r ∈ (segmentRuns raw id segments fills).1,
        r.fillRef = none ∨ ∃ i, r.fillRef = some i ∧ i < (segmentRuns raw id segments fills).2.1.length
  | [], _ => by simp [segmentRuns]
  | s :: rest, fills => by
      intro r mem
      rw [segmentRuns_cons_runs, List.mem_cons] at mem
      rcases mem with rfl | later
      · cases ref : (segmentRun raw s fills id).1.fillRef with
        | none => exact .inl rfl
        | some i =>
            -- the index is below the fills this run left, which the later runs only extend
            refine .inr ⟨i, rfl, ?_⟩
            have grown := prefix_extendFills (segmentRun raw s fills id).2.1
              (rest.filterMap (segmentFill id))
            rw [← segmentRuns_fills] at grown
            exact lt_of_lt_of_le (segmentRun_fillRef_lt ref) grown.length_le
      · exact segmentRuns_fillRef_lt rest _ r later

end Segments

/-! ### Merging adjacent runs of one style -/

/-- Styles compare without looking at the characters. -/
@[simp] theorem TextRun.sameStyle_characters_left (a b : TextRun) (c : String) :
    ({ a with characters := c } : TextRun).sameStyle b = a.sameStyle b := rfl

@[simp] theorem TextRun.sameStyle_characters_right (a b : TextRun) (c : String) :
    a.sameStyle ({ b with characters := c } : TextRun) = a.sameStyle b := rfl

/-- Merging keeps the characters in order. -/
theorem join_mergeRunsInto (acc runs : List TextRun) :
    String.join ((mergeRunsInto acc runs).map TextRun.characters) =
      String.join (acc.reverse.map TextRun.characters) ++
        String.join (runs.map TextRun.characters) := by
  fun_induction mergeRunsInto acc runs with
  | case1 acc => simp
  | case2 r rest ih => simp [ih]
  | case3 last done r rest same ih => simp [ih, String.append_assoc]
  | case4 last done r rest differ ih => simp [ih, String.append_assoc]

/-- No two adjacent merged runs have the same style, since a run's style never changes once it
is merged into. The runs merged so far are held last first. -/
theorem isChain_mergeRunsInto {acc : List TextRun} (runs : List TextRun)
    (merged : acc.IsChain fun a b => b.sameStyle a = false) :
    (mergeRunsInto acc runs).IsChain fun a b => a.sameStyle b = false := by
  fun_induction mergeRunsInto acc runs with
  | case1 acc => exact List.isChain_reverse.2 merged
  | case2 r rest ih => exact ih (List.isChain_singleton r)
  | case3 last done r rest same ih =>
      apply ih
      cases done with
      | nil => exact List.isChain_singleton _
      | cons d done => simpa [List.isChain_cons_cons] using merged
  | case4 last done r rest differ ih =>
      apply ih
      exact List.isChain_cons_cons.2 ⟨Bool.eq_false_iff.2 differ, merged⟩

/-- What holds of every run, and of a run merged with the next, holds of every merged run. -/
theorem forall_mergeRunsInto (Q : TextRun → Prop)
    (step : ∀ a b, Q a → Q b → Q { a with characters := a.characters ++ b.characters })
    {acc runs : List TextRun} (done : ∀ x ∈ acc, Q x) (each : ∀ x ∈ runs, Q x) :
    ∀ x ∈ mergeRunsInto acc runs, Q x := by
  fun_induction mergeRunsInto acc runs with
  | case1 acc => simpa using done
  | case2 r rest ih =>
      exact ih (by simpa using each r List.mem_cons_self) fun x m => each x (.tail _ m)
  | case3 last done' r rest same ih =>
      refine ih ?_ fun x m => each x (.tail _ m)
      intro x m
      rcases List.mem_cons.1 m with rfl | earlier
      · exact step last r (done last List.mem_cons_self) (each r List.mem_cons_self)
      · exact done x (.tail _ earlier)
  | case4 last done' r rest differ ih =>
      refine ih ?_ fun x m => each x (.tail _ m)
      intro x m
      rcases List.mem_cons.1 m with rfl | earlier
      · exact each x List.mem_cons_self
      · exact done x earlier

theorem join_mergeRuns (runs : List TextRun) :
    String.join ((mergeRuns runs).map TextRun.characters) =
      String.join (runs.map TextRun.characters) := by
  simp [mergeRuns, join_mergeRunsInto]

theorem isChain_mergeRuns (runs : List TextRun) :
    (mergeRuns runs).IsChain fun a b => a.sameStyle b = false :=
  isChain_mergeRunsInto runs List.isChain_nil

theorem forall_mergeRuns (Q : TextRun → Prop)
    (step : ∀ a b, Q a → Q b → Q { a with characters := a.characters ++ b.characters })
    {runs : List TextRun} (each : ∀ x ∈ runs, Q x) : ∀ x ∈ mergeRuns runs, Q x :=
  forall_mergeRunsInto Q step (by simp) each


/-! ### The content of a text node -/

/-- A text is one run in the node's own style when it has no segments or its segments do not
spell its characters, the fills the segments added cut off again; otherwise it is the segments'
runs merged, with the fills they name. -/
theorem buildText_cases (raw : NodeAttrs) (fills : List PaintEntry) (id : Nat) :
    ((buildText raw fills id).1.runs =
        [baseRun raw (raw.characters.getD "") (if fills.isEmpty then none else some 0)] ∧
      (buildText raw fills id).2.1 = fills ∧
      (raw.segments = [] ∨
        String.join (raw.segments.map RawTextSegment.characters) ≠ raw.characters.getD "")) ∨
    ((buildText raw fills id).1.runs = mergeRuns (segmentRuns raw id raw.segments fills).1 ∧
      (buildText raw fills id).2.1 = (segmentRuns raw id raw.segments fills).2.1 ∧
      raw.segments ≠ [] ∧
      String.join (raw.segments.map RawTextSegment.characters) = raw.characters.getD "") := by
  have joined := segmentRuns_characters raw id raw.segments fills
  by_cases empty : raw.segments = []
  · have none_ : raw.segments.isEmpty = true := List.isEmpty_iff.2 empty
    simp only [buildText, none_, if_true]
    exact .inl ⟨trivial, trivial, .inl empty⟩
  · have some_ : raw.segments.isEmpty = false := by simpa using empty
    simp only [buildText, some_, Bool.false_eq_true, if_false, joined]
    split
    · rename_i spelled
      exact .inr ⟨rfl, rfl, empty, beq_iff_eq.1 spelled⟩
    · rename_i differ
      -- the segments only appended to the fills, so cutting them back restores the node's own
      have grown := prefix_extendFills fills (raw.segments.filterMap (segmentFill id))
      rw [← segmentRuns_fills raw id] at grown
      refine .inl ⟨rfl, (List.prefix_iff_eq_take.1 grown).symm, .inr fun same => ?_⟩
      simp [same] at differ


/-- Each run of a text is a run built for it, from a segment or from the node, with the
characters of the runs merged into it. -/
theorem buildText_runs_built (raw : NodeAttrs) (fills : List PaintEntry) (id : Nat) :
    ∀ r ∈ (buildText raw fills id).1.runs, ∃ r₀ ∈ (segmentRuns raw id raw.segments fills).1 ++
      [baseRun raw (raw.characters.getD "") (if fills.isEmpty then none else some 0)],
        r = { r₀ with characters := r.characters } := by
  rcases buildText_cases raw fills id with ⟨single, -, -⟩ | ⟨merged, -, -, -⟩
  · intro r m
    rw [single, List.mem_singleton] at m
    exact ⟨r, by simp [m], rfl⟩
  · rw [merged]
    apply forall_mergeRuns
    · rintro a b ⟨a₀, m, same⟩ -
      refine ⟨a₀, m, ?_⟩
      rw [same]
    · intro r m
      exact ⟨r, List.mem_append_left _ m, rfl⟩

/-- A segment's run has characters when every segment has. -/
theorem characters_ne_of_segmentRuns {raw : NodeAttrs} {id : Nat} {segments : List RawTextSegment}
    {fills : List PaintEntry} (full : ∀ s ∈ segments, s.characters ≠ "") :
    ∀ r ∈ (segmentRuns raw id segments fills).1, r.characters ≠ "" := by
  intro r m
  have spelled := List.mem_map_of_mem (f := TextRun.characters) m
  rw [segmentRuns_characters] at spelled
  obtain ⟨s, inS, same⟩ := List.mem_map.1 spelled
  exact same ▸ full s inS

/-- A text node's runs spell its characters, no two adjacent runs share a style, and a run is
empty only when it is the only one or when a segment of the node has no characters. -/
theorem textRuns_partition (raw : NodeAttrs) (fills : List PaintEntry) (id : Nat) :
    let content := (buildText raw fills id).1
    content.characters = raw.characters.getD "" ∧
      content.runs.IsChain (fun a b => a.sameStyle b = false) ∧
      ∀ r ∈ content.runs, r.characters = "" →
        content.runs = [r] ∨ ∃ s ∈ raw.segments, s.characters = "" := by
  intro content
  rcases buildText_cases raw fills id with ⟨single, -, -⟩ | ⟨merged, -, -, spelled⟩
  · -- one run in the node's own style
    refine ⟨?_, ?_, fun r m _ => .inl ?_⟩
    · simp [content, TextContent.characters, single, baseRun]
    · simp [content, single]
    · rw [single, List.mem_singleton] at m
      rw [single, m]
  · refine ⟨?_, ?_, fun r m empty => ?_⟩
    · rw [← spelled, ← segmentRuns_characters raw id raw.segments fills, ← join_mergeRuns,
        ← merged]
      rfl
    · rw [merged]
      exact isChain_mergeRuns _
    · -- were every segment's characters there, merging would keep every run's there
      by_contra neither
      simp only [not_or, not_exists, not_and] at neither
      have full := forall_mergeRuns (fun x => x.characters ≠ "")
        (fun a b ha _ => by simp [ha]) (characters_ne_of_segmentRuns neither.2) r (merged ▸ m)
      exact full empty


/-- The fills a text leaves: the node's own, extended in order of first use by the fills its
segments name when the segments spell its characters, and the node's own alone otherwise. -/
theorem buildText_fills (raw : NodeAttrs) (fills : List PaintEntry) (id : Nat) :
    (buildText raw fills id).2.1 =
      if String.join (raw.segments.map RawTextSegment.characters) = raw.characters.getD "" then
        extendFills fills (raw.segments.filterMap (segmentFill id))
      else fills := by
  rcases buildText_cases raw fills id with ⟨-, own, none_ | differ⟩ | ⟨-, grown, -, spelled⟩
  · -- without segments there is nothing to extend by
    simp [own, none_]
  · rw [own, if_neg differ]
  · rw [grown, if_pos spelled, segmentRuns_fills]

/-- Every run of a text points at no fill or into the fills the text leaves. -/
theorem buildText_fillRef_lt (raw : NodeAttrs) (fills : List PaintEntry) (id : Nat) :
    ∀ r ∈ (buildText raw fills id).1.runs,
      r.fillRef = none ∨ ∃ i, r.fillRef = some i ∧ i < (buildText raw fills id).2.1.length := by
  rcases buildText_cases raw fills id with ⟨single, own, -⟩ | ⟨merged, grown, -, -⟩
  · intro r m
    rw [single, List.mem_singleton] at m
    rw [m, own]
    by_cases empty : fills = []
    · exact .inl (by simp [baseRun, empty])
    · exact .inr ⟨0, by simp [baseRun, empty], List.length_pos_iff.2 empty⟩
  · rw [merged, grown]
    exact forall_mergeRuns _ (fun a _ valid _ => valid)
      (segmentRuns_fillRef_lt raw id raw.segments fills)

/-- A node's text is built from its fills when it is a text node. -/
theorem describeNode_text (raw : NodeAttrs) (parent : Option ParentContext) (absorbed : Float)
    (id : Nat) (u : String) :
    (describeNode raw parent absorbed id u).1.text =
      if (describeNode raw parent absorbed id u).1.kind == .text then
        some (buildText raw (convertPaints id raw.fills).1 id).1
      else none := by
  unfold describeNode
  split
  all_goals
    simp only
    split <;> rfl

/-- In a node's text every run points at no fill or at one of the node's fills. -/
theorem describeNode_fillRef_lt (raw : NodeAttrs) (parent : Option ParentContext)
    (absorbed : Float) (id : Nat) (u : String) {t : TextContent}
    (text : (describeNode raw parent absorbed id u).1.text = some t) :
    ∀ r ∈ t.runs, r.fillRef = none ∨
      ∃ k, r.fillRef = some k ∧ k < (describeNode raw parent absorbed id u).1.paint.fills.length := by
  rw [describeNode_fills]
  rw [describeNode_text] at text
  split at text
  · rename_i isText
    rw [if_pos isText, ← Option.some.inj text]
    exact buildText_fillRef_lt raw _ id
  · cases text

/-- In the tree of a selection every run of a text points at no fill or at one of its node's
fills. -/
theorem normalizeRoots_fillRef_lt (roots : List DesignNode) :
    ∃ tree diagnostics, normalizeRoots roots false = .ok (tree, diagnostics) ∧
      ∀ i n t, tree.get? i = some n → n.text = some t →
        ∀ r ∈ t.runs, r.fillRef = none ∨ ∃ k, r.fillRef = some k ∧ k < n.paint.fills.length := by
  obtain ⟨tree, diagnostics, run, ids, placed, -⟩ := normalizeRoots_placed roots
  refine ⟨tree, diagnostics, run, fun i n t found text => ?_⟩
  -- the node at `i` is the one its placement describes
  obtain ⟨p, atI, -⟩ := placement_of_get? ids found
  obtain ⟨mem, pid⟩ := placement_of_getElem? ids atI
  obtain ⟨children, u, atP⟩ := placed p mem
  rw [pid, found, Option.some.injEq] at atP
  subst atP
  exact describeNode_fillRef_lt p.attrs p.parent p.absorbed i u text


/-- A text node extends its fills, in order of first use, by the first fill that converts of each
segment, unless the segments do not spell its characters, when the fills are its own again. Every
run points at no fill or into the fills left; a run is built pointing at no fill only against no
fill, and each run of the text is such a built run. So in the tree of a selection every run of a
text points at no fill or at one of its node's fills. -/
theorem textRuns_point_into_fills :
    (∀ (raw : NodeAttrs) (fills : List PaintEntry) (id : Nat),
      let built := buildText raw fills id
      let segmentsBuilt := (segmentRuns raw id raw.segments fills).1
      let nodeRun := baseRun raw (raw.characters.getD "") (if fills.isEmpty then none else some 0)
      (built.2.1 =
          if String.join (raw.segments.map RawTextSegment.characters) = raw.characters.getD "" then
            extendFills fills (raw.segments.filterMap (segmentFill id))
          else fills) ∧
        (∀ r ∈ built.1.runs, r.fillRef = none ∨ ∃ i, r.fillRef = some i ∧ i < built.2.1.length) ∧
        (∀ k (hk : k < segmentsBuilt.length), segmentsBuilt[k].fillRef = none →
          extendFills fills ((raw.segments.take k).filterMap (segmentFill id)) = []) ∧
        (nodeRun.fillRef = none → fills = []) ∧
        (∀ r ∈ built.1.runs, ∃ r₀ ∈ segmentsBuilt ++ [nodeRun], r = { r₀ with characters := r.characters })) ∧
    ∀ roots : List DesignNode, ∃ tree diagnostics, normalizeRoots roots false = .ok (tree, diagnostics) ∧
      ∀ i n t, tree.get? i = some n → n.text = some t →
        ∀ r ∈ t.runs, r.fillRef = none ∨ ∃ k, r.fillRef = some k ∧ k < n.paint.fills.length := by
  refine ⟨fun raw fills id => ⟨buildText_fills raw fills id, buildText_fillRef_lt raw fills id,
    segmentRuns_fillRef_none raw id raw.segments fills, fun none_ => ?_,
    buildText_runs_built raw fills id⟩, normalizeRoots_fillRef_lt⟩
  -- the node's run points at the first fill whenever there is one
  by_contra nonempty
  simp [baseRun, nonempty] at none_

end Handoff
