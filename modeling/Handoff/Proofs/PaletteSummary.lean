/-
Module: Handoff.Proofs.PaletteSummary
Purpose: The palette summary of a tree counts colour keys. The keys are met root after root,
  each subtree in preorder, each node's fills before its strokes: a solid paint gives its
  colour with the paint's opacity folded in and the name of its bound variable, a gradient
  gives each stop's effective colour with the paint's opacity folded in and no variable, an
  image gives nothing. The tally lists each key once, in the order first met, with the number
  of times it is met, and the stable sort by falling count keeps that order among equal counts.
Main exports: PaletteEntry.key, paletteKeys, tally, Tallied, tallied_tally, paletteSummary_eq,
  filter_mergeSort_of_pairwise, paletteSummary_counts_first_met.
-/
import Mathlib
import Handoff.Conversion

namespace Handoff

/-- The colour and the variable an entry of the summary counts. -/
def PaletteEntry.key (e : PaletteEntry) : String × Option String := (e.hex, e.variableName)

/-- The colour keys of a tree in the order the summary meets them: root after root, each
subtree in preorder, each node's fills before its strokes. -/
def paletteKeys (t : AltTree) : List (String × Option String) :=
  (t.roots.flatMap t.preorder).flatMap fun id =>
    match t.get? id with
    | some node => node.paint.entries.flatMap paintColors
    | none => []

/-- The entries of the summary before sorting: the keys counted one after another. -/
def tally (keys : List (String × Option String)) : List PaletteEntry :=
  keys.foldl (fun acc (hex, v) => countColor hex v acc) []

/-- The summary sorts the tally of the tree's keys by falling count. -/
theorem paletteSummary_eq (t : AltTree) :
    paletteSummary t =
      (tally (paletteKeys t)).mergeSort fun a b => b.occurrences ≤ a.occurrences := by
  unfold paletteSummary tally paletteKeys
  simp only [List.foldl_flatMap]
  congr
  funext acc root
  congr
  funext acc id
  cases t.get? id with
  | none => rfl
  | some node => exact List.foldl_flatMap.symm

/-! ### Counting one key -/

section Count

variable {k : String × Option String} {acc : List PaletteEntry}

/-- The entry counting `k` once more, any other entry as it is. -/
def PaletteEntry.bump (k : String × Option String) (e : PaletteEntry) : PaletteEntry :=
  if e.key = k then { e with occurrences := e.occurrences + 1 } else e

@[simp] theorem PaletteEntry.key_bump (e : PaletteEntry) : (e.bump k).key = e.key := by
  unfold PaletteEntry.bump
  split <;> rfl

theorem matches_iff_key (e : PaletteEntry) :
    (e.hex == k.1 && e.variableName == k.2) = true ↔ e.key = k := by
  simp [PaletteEntry.key, Prod.ext_iff]

/-- A key not yet counted is appended with a count of one. -/
theorem countColor_of_not_mem (absent : k ∉ acc.map PaletteEntry.key) :
    countColor k.1 k.2 acc = acc ++ [⟨k.1, k.2, 1⟩] := by
  induction acc with
  | nil => rfl
  | cons e rest ih =>
      simp only [List.map_cons, List.mem_cons, not_or] at absent
      have other : (e.hex == k.1 && e.variableName == k.2) = false := by
        rw [← Bool.not_eq_true, matches_iff_key]
        exact fun same => absent.1 same.symm
      simp only [countColor, other, Bool.false_eq_true, if_false, ih absent.2, List.cons_append]

/-- A key already counted, once, has its entry counted once more in place. -/
theorem countColor_of_mem (nodup : (acc.map PaletteEntry.key).Nodup)
    (present : k ∈ acc.map PaletteEntry.key) :
    countColor k.1 k.2 acc = acc.map (PaletteEntry.bump k) := by
  induction acc with
  | nil => simp at present
  | cons e rest ih =>
      simp only [List.map_cons, List.nodup_cons] at nodup
      by_cases same : e.key = k
      · -- no later entry has the key, so the bump changes only `e`
        have rest_same : rest.map (PaletteEntry.bump k) = rest := by
          refine (List.map_congr_left fun x mem => ?_).trans (List.map_id rest)
          have : x.key ≠ k := fun h => nodup.1 (same ▸ h ▸ List.mem_map_of_mem mem)
          simp [PaletteEntry.bump, this]
        have hit : (e.hex == k.1 && e.variableName == k.2) = true := (matches_iff_key e).mpr same
        simp [countColor, hit, rest_same, PaletteEntry.bump, same]
      · have later : k ∈ rest.map PaletteEntry.key := by
          simp only [List.map_cons, List.mem_cons] at present
          exact present.resolve_left (Ne.symm same)
        have other : (e.hex == k.1 && e.variableName == k.2) = false := by
          rw [← Bool.not_eq_true, matches_iff_key]
          exact same
        simp [countColor, other, ih nodup.2 later, PaletteEntry.bump, same]

end Count

/-! ### The tally -/

/-- What the tally holds after the keys `seen`: each key met once, in the order first met,
with the number of times it was met. -/
structure Tallied (seen : List (String × Option String)) (acc : List PaletteEntry) : Prop where
  nodup : (acc.map PaletteEntry.key).Nodup
  mem_iff : ∀ k, k ∈ acc.map PaletteEntry.key ↔ k ∈ seen
  count : ∀ e ∈ acc, e.occurrences = seen.count e.key
  firstMet : acc.Pairwise fun a b => seen.idxOf a.key < seen.idxOf b.key

theorem tallied_nil : Tallied [] [] :=
  ⟨List.nodup_nil, by simp, by simp, List.Pairwise.nil⟩

namespace Tallied

variable {seen : List (String × Option String)} {acc : List PaletteEntry}
  {k : String × Option String}

theorem key_mem (h : Tallied seen acc) {e : PaletteEntry} (mem : e ∈ acc) : e.key ∈ seen :=
  (h.mem_iff e.key).mp (List.mem_map_of_mem mem)

/-- Meeting a key already met counts its entry once more. -/
theorem step_of_mem (h : Tallied seen acc) (met : k ∈ seen) :
    Tallied (seen ++ [k]) (acc.map (PaletteEntry.bump k)) := by
  have keys : (acc.map (PaletteEntry.bump k)).map PaletteEntry.key = acc.map PaletteEntry.key := by
    simp [Function.comp_def]
  refine ⟨keys ▸ h.nodup, fun k' => ?_, fun e' mem => ?_, ?_⟩
  · rw [keys, h.mem_iff]
    simp only [List.mem_append, List.mem_singleton]
    exact ⟨.inl, fun held => held.elim id fun same => same ▸ met⟩
  · obtain ⟨e, held, rfl⟩ := List.mem_map.mp mem
    rw [PaletteEntry.key_bump, List.count_append, List.count_singleton, ← h.count e held]
    unfold PaletteEntry.bump
    by_cases same : e.key = k
    · simp [same]
    · simp [same, Ne.symm same]
  · -- the keys stay where they were first met, before the new occurrence
    rw [List.pairwise_map]
    refine h.firstMet.imp_of_mem fun {a b} ma mb before => ?_
    simp only [PaletteEntry.key_bump, List.idxOf_append_of_mem (h.key_mem ma),
      List.idxOf_append_of_mem (h.key_mem mb)]
    exact before

/-- Meeting a new key appends it with a count of one, after every key met before. -/
theorem step_of_not_mem (h : Tallied seen acc) (fresh : k ∉ seen) :
    Tallied (seen ++ [k]) (acc ++ [⟨k.1, k.2, 1⟩]) := by
  have newKey : (⟨k.1, k.2, 1⟩ : PaletteEntry).key = k := rfl
  have apart : ∀ e ∈ acc, e.key ≠ k := fun e mem same => fresh (same ▸ h.key_mem mem)
  refine ⟨?_, fun k' => ?_, fun e mem => ?_, ?_⟩
  · rw [List.map_append, List.nodup_append]
    refine ⟨h.nodup, List.nodup_singleton _, fun a held b new => ?_⟩
    obtain ⟨e, mem, rfl⟩ := List.mem_map.mp held
    rw [List.map_singleton, List.mem_singleton] at new
    exact new ▸ newKey ▸ apart e mem
  · simp only [List.map_append, List.mem_append, h.mem_iff, List.map_singleton, newKey]
  · rw [List.count_append, List.count_singleton]
    rcases List.mem_append.mp mem with old | new
    · have : (k == e.key) = false := by simpa using (apart e old).symm
      simp [this, h.count e old]
    · rw [List.mem_singleton.mp new, newKey]
      simp [List.count_eq_zero.mpr fresh]
  · rw [List.pairwise_append]
    refine ⟨h.firstMet.imp_of_mem fun {a b} ma mb before => ?_, List.pairwise_singleton _ _,
      fun a ma b mb => ?_⟩
    · simpa only [List.idxOf_append_of_mem (h.key_mem ma),
        List.idxOf_append_of_mem (h.key_mem mb)] using before
    · -- every key met before comes first, the new key last
      rw [List.mem_singleton.mp mb, newKey, List.idxOf_append_of_mem (h.key_mem ma),
        List.idxOf_append, if_neg fresh, List.idxOf_cons_self, Nat.zero_add]
      exact List.idxOf_lt_length_of_mem (h.key_mem ma)

/-- Counting one more key keeps the tally. -/
theorem step (h : Tallied seen acc) (k : String × Option String) :
    Tallied (seen ++ [k]) (countColor k.1 k.2 acc) := by
  by_cases met : k ∈ seen
  · rw [countColor_of_mem h.nodup ((h.mem_iff k).mpr met)]
    exact h.step_of_mem met
  · rw [countColor_of_not_mem fun held => met ((h.mem_iff k).mp held)]
    exact h.step_of_not_mem met

/-- Counting the keys one after another keeps the tally. -/
theorem run (h : Tallied seen acc) (keys : List (String × Option String)) :
    Tallied (seen ++ keys) (keys.foldl (fun acc (hex, v) => countColor hex v acc) acc) := by
  induction keys generalizing seen acc with
  | nil => simpa using h
  | cons k keys ih =>
      have next := ih (h.step k)
      rwa [List.append_assoc, List.singleton_append] at next

end Tallied

theorem tallied_tally (keys : List (String × Option String)) : Tallied keys (tally keys) := by
  have counted := tallied_nil.run keys
  rw [List.nil_append] at counted
  exact counted

/-- The counts of a tally add up to the number of keys counted. -/
theorem Tallied.sum_occurrences {keys : List (String × Option String)} {acc : List PaletteEntry}
    (h : Tallied keys acc) : (acc.map PaletteEntry.occurrences).sum = keys.length := by
  have counts : acc.map PaletteEntry.occurrences = (acc.map PaletteEntry.key).map keys.count := by
    rw [List.map_map]
    exact List.map_congr_left fun e mem => h.count e mem
  -- the keys of the tally are the distinct keys, in another order
  have distinct : (acc.map PaletteEntry.key).Perm keys.dedup :=
    (List.perm_ext_iff_of_nodup h.nodup (List.nodup_dedup keys)).mpr fun k => by
      rw [h.mem_iff, List.mem_dedup]
  rw [counts, (distinct.map keys.count).sum_eq]
  -- the library counts with the equality of the keys, the same test as `==` on them
  convert List.sum_map_count_dedup_eq_length keys using 4
  · rfl
  · exact congrArg (fun eq => @List.count _ eq _ keys) (lawful_beq_subsingleton _ _)

/-! ### Sorting by count -/

/-- A stable sort keeps in place every class of elements that it may not reorder: the elements
of `l` that satisfy `p`, when the order accepts any two of them as they stand. -/
theorem filter_mergeSort_of_pairwise {α : Type} {le : α → α → Bool}
    (trans : ∀ a b c, le a b = true → le b c = true → le a c = true)
    (total : ∀ a b, (le a b || le b a) = true) (l : List α) (p : α → Bool)
    (ordered : (l.filter p).Pairwise fun a b => le a b = true) :
    (l.mergeSort le).filter p = l.filter p := by
  have kept : (l.filter p).Sublist (l.mergeSort le) :=
    List.sublist_mergeSort trans total ordered (List.filter_sublist)
  have inClass : (l.filter p).Sublist ((l.mergeSort le).filter p) := by
    simpa [List.filter_filter] using kept.filter p
  have sameLength : (l.filter p).length = ((l.mergeSort le).filter p).length :=
    (((List.mergeSort_perm l le).filter p).length_eq).symm
  exact (inClass.eq_of_length sameLength).symm

/-- The colours of a tree, each colour and variable once: with the number of fills, strokes and
gradient stops that give it, so the counts add up to their number; most frequent first, and
colours met equally often in the order they are first met, root after root, each subtree in
preorder, fills before strokes. -/
theorem paletteSummary_counts_first_met (t : AltTree) :
    let keys := paletteKeys t
    let summary := paletteSummary t
    (summary.map PaletteEntry.key).Nodup ∧
      (∀ k, k ∈ summary.map PaletteEntry.key ↔ k ∈ keys) ∧
      (∀ e ∈ summary, e.occurrences = keys.count e.key) ∧
      (summary.map PaletteEntry.occurrences).sum = keys.length ∧
      summary.Pairwise fun a b => b.occurrences < a.occurrences ∨
        (a.occurrences = b.occurrences ∧ keys.idxOf a.key < keys.idxOf b.key) := by
  intro keys summary
  have tallied := tallied_tally keys
  have trans : ∀ a b c : PaletteEntry, decide (b.occurrences ≤ a.occurrences) = true →
      decide (c.occurrences ≤ b.occurrences) = true →
        decide (c.occurrences ≤ a.occurrences) = true :=
    fun a b c hab hbc => by simp only [decide_eq_true_eq] at *; omega
  have total : ∀ a b : PaletteEntry,
      (decide (b.occurrences ≤ a.occurrences) ||
        decide (a.occurrences ≤ b.occurrences)) = true :=
    fun a b => by simp only [Bool.or_eq_true, decide_eq_true_eq]; omega
  have sorted : summary = (tally keys).mergeSort fun a b => b.occurrences ≤ a.occurrences :=
    paletteSummary_eq t
  have perm : summary.Perm (tally keys) := sorted ▸ List.mergeSort_perm _ _
  refine ⟨(perm.map _).nodup_iff.mpr tallied.nodup, fun k => ?_, fun e mem => ?_, ?_, ?_⟩
  · rw [(perm.map _).mem_iff, tallied.mem_iff]
  · exact tallied.count e (perm.mem_iff.mp mem)
  · rw [(perm.map _).sum_eq]
    exact tallied.sum_occurrences
  · -- by falling count, and in the tally's order among equal counts
    have falling : summary.Pairwise fun a b => b.occurrences ≤ a.occurrences := by
      simpa only [sorted, decide_eq_true_eq] using
        List.pairwise_mergeSort trans total (tally keys)
    have ties : summary.Pairwise fun a b =>
        a.occurrences = b.occurrences → keys.idxOf a.key < keys.idxOf b.key := by
      refine List.pairwise_iff_forall_sublist.mpr fun {a b} pair equal => ?_
      -- both lie in the class of their count, which the sort keeps as the tally has it
      have inClass : [a, b].Sublist (summary.filter fun e => e.occurrences == a.occurrences) := by
        simpa [equal] using pair.filter fun e => e.occurrences == a.occurrences
      rw [sorted, filter_mergeSort_of_pairwise trans total _ _
        (List.Pairwise.imp_of_mem (fun ma mb _ => by
          simp_all only [List.mem_filter, beq_iff_eq, decide_eq_true_eq, le_refl])
          (List.pairwise_of_forall fun _ _ => trivial))] at inClass
      have firstMet := tallied.firstMet.sublist (inClass.trans List.filter_sublist)
      rw [List.pairwise_pair] at firstMet
      exact firstMet
    refine (falling.and ties).imp fun {a b} ⟨le, tie⟩ => ?_
    rcases Nat.lt_or_eq_of_le le with lt | eq
    · exact .inl lt
    · exact .inr ⟨eq.symm, tie eq.symm⟩

end Handoff
