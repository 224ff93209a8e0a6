/-
Module: Handoff.Proofs.Scale.Tokens
Purpose: What a token table answers for a goal. Its values are sorted in the total order of
  doubles and searched for the first one at the least finite distance from the goal, which is
  the least such value in that order; the table is then searched for the first token whose
  value equals it. A goal of zero asks for the first token whose value is zero. A value is
  picked by its place among the values and a token by equality with it, so permuting a table
  whose values are pairwise distinct changes no answer.
Main exports: Float.beq_of_beq_of_beq, Float.totalKey_inj, NumericScale.FirstWithValue,
  NumericScale.LeastNearest, NumericScale.nearestValueWithin_values_iff,
  NumericScale.nearest_least_first_token.
-/
import Mathlib
import Handoff.Config
import Handoff.Proofs.Scale.Nearest

namespace Float

open Float.Model

/-! ### Equality and the total order of doubles -/

/-- `==` on doubles is symmetric. -/
theorem beq_symm {x y : Float} (h : (x == y) = true) : (y == x) = true := by
  change x.toModel.unpack.beq y.toModel.unpack = true at h
  show y.toModel.unpack.beq x.toModel.unpack = true
  rw [UnpackedFloat.beq_iff_ne_notANumber_and_eq] at h ⊢
  obtain ⟨nx, ny, same⟩ := h
  refine ⟨ny, nx, ?_⟩
  rcases same with same | ⟨zx, zy⟩ | ⟨zx, zy⟩
  · exact .inl same.symm
  · exact .inr (.inr ⟨zy, zx⟩)
  · exact .inr (.inl ⟨zy, zx⟩)

/-- Doubles equal to a third are equal to each other: `==` identifies the two zeros and
nothing else, and holds of no NaN. -/
theorem beq_of_beq_of_beq {x y v : Float} (hx : (x == v) = true) (hy : (y == v) = true) :
    (x == y) = true := by
  change x.toModel.unpack.beq v.toModel.unpack = true at hx
  change y.toModel.unpack.beq v.toModel.unpack = true at hy
  show x.toModel.unpack.beq y.toModel.unpack = true
  rw [UnpackedFloat.beq_iff_ne_notANumber_and_eq] at hx hy ⊢
  obtain ⟨nx, -, ex⟩ := hx
  obtain ⟨ny, -, ey⟩ := hy
  refine ⟨nx, ny, ?_⟩
  rcases ex with ex | ⟨ex, ev⟩ | ⟨ex, ev⟩ <;>
    rcases ey with ey | ⟨ey, ev'⟩ | ⟨ey, ev'⟩ <;> simp_all

/-- The key of the total order tells doubles apart: equal keys come from equal bits. -/
theorem totalKey_inj {x y : Float} (h : x.totalKey = y.totalKey) : x = y := by
  have hx := x.toBits.toNat_lt
  have hy := y.toBits.toNat_lt
  have bits : x.toBits.toNat = y.toBits.toNat := by
    unfold totalKey at h
    norm_num at h hx hy
    split_ifs at h <;> omega
  rw [← ofBits_toBits x, ← ofBits_toBits y, UInt64.toNat_inj.mp bits]

end Float

namespace Handoff

namespace NumericScale

variable {entries entries' : List (String × Float)} {goal v v' : Float} {e : String × Float}

/-! ### The first token with a value -/

/-- `e` is the first entry of `entries` whose value equals `v` as doubles compare: the two
zeros are equal, and a NaN is equal to nothing. -/
def FirstWithValue (entries : List (String × Float)) (v : Float) (e : String × Float) : Prop :=
  (e.2 == v) = true ∧
    ∃ before after, entries = before ++ e :: after ∧ ∀ b ∈ before, (b.2 == v) = false

theorem find?_eq_some_iff_firstWithValue :
    entries.find? (fun e => e.2 == v) = some e ↔ FirstWithValue entries v e := by
  simp [List.find?_eq_some_iff_append, FirstWithValue]

/-- In a table whose values are pairwise distinct, an entry equal to `v` is the first one. -/
theorem firstWithValue_iff_mem
    (distinct : (entries.map Prod.snd).Pairwise fun a b => (a == b) = false) :
    FirstWithValue entries v e ↔ e ∈ entries ∧ (e.2 == v) = true := by
  constructor
  · rintro ⟨equal, before, after, rfl, -⟩
    exact ⟨by simp, equal⟩
  · rintro ⟨mem, equal⟩
    obtain ⟨before, after, rfl⟩ := List.append_of_mem mem
    refine ⟨equal, before, after, rfl, fun b held => ?_⟩
    -- an earlier entry equal to `v` would equal `e`, which the table rules out
    have apart : (b.2 == e.2) = false := by
      rw [List.map_append, List.pairwise_append] at distinct
      exact distinct.2.2 b.2 (List.mem_map_of_mem held) e.2 (by simp)
    cases same : (b.2 == v)
    · rfl
    · rw [Float.beq_of_beq_of_beq same equal] at apart
      cases apart

/-! ### The least nearest value -/

/-- `v` is a value of the table at the least finite distance from `goal`, and the least value
at that distance in the total order of doubles (negative zero before positive zero). -/
structure LeastNearest (entries : List (String × Float)) (goal v : Float) : Prop where
  mem : v ∈ entries.map Prod.snd
  finite : (v - goal).abs.isFinite = true
  nearest : ∀ w ∈ entries.map Prod.snd, (w - goal).abs.isFinite = true →
    (v - goal).abs ≤ (w - goal).abs
  least : ∀ w ∈ entries.map Prod.snd, (w - goal).abs.isFinite = true →
    (w - goal).abs ≤ (v - goal).abs → v.totalKey ≤ w.totalKey

/-- There is one least nearest value. -/
theorem LeastNearest.unique (h : LeastNearest entries goal v) (h' : LeastNearest entries goal v') :
    v = v' := by
  apply Float.totalKey_inj
  apply le_antisymm
  · exact h.least v' h'.mem h'.finite (h'.nearest v h.mem h.finite)
  · exact h'.least v h.mem h.finite (h.nearest v' h'.mem h'.finite)

/-- Being least nearest reads the values only through membership. -/
theorem LeastNearest.of_perm (h : LeastNearest entries goal v) (perm : entries.Perm entries') :
    LeastNearest entries' goal v := by
  have mem : ∀ w, w ∈ entries.map Prod.snd ↔ w ∈ entries'.map Prod.snd :=
    fun w => (perm.map Prod.snd).mem_iff
  exact ⟨(mem v).mp h.mem, h.finite, fun w held => h.nearest w ((mem w).mpr held),
    fun w held => h.least w ((mem w).mpr held)⟩

/-! ### The sorted values -/

theorem values_perm (s : NumericScale) : s.values.Perm (s.entries.map Prod.snd) :=
  List.mergeSort_perm _ _

theorem values_sorted (s : NumericScale) :
    s.values.Pairwise fun a b => a.totalKey ≤ b.totalKey := by
  have sorted := @List.pairwise_mergeSort _ (fun a b : Float => decide (a.totalKey ≤ b.totalKey))
    (fun a b c hab hbc => by simp only [decide_eq_true_eq] at *; omega)
    (fun a b => by simp only [Bool.or_eq_true, decide_eq_true_eq]; omega)
    (s.entries.map Prod.snd)
  simpa only [values, decide_eq_true_eq] using sorted

/-- The first sorted value at the least finite distance is the least nearest value: an earlier
value at that distance would have been found first, and a later one is no smaller. -/
theorem leastNearest_of_firstNearest {s : NumericScale} {i : Nat}
    (nearest : FirstNearest (fun w => (w - goal).abs) s.values i (v - goal).abs)
    (at_i : s.values[i]? = some v) : LeastNearest s.entries goal v where
  mem := (values_perm s).mem_iff.mp (List.mem_of_getElem? at_i)
  finite := nearest.finite
  nearest w held finite := nearest.least w ((values_perm s).mem_iff.mpr held) finite
  least w held finite closer := by
    obtain ⟨j, hj, rfl⟩ := List.getElem_of_mem ((values_perm s).mem_iff.mpr held)
    obtain ⟨hi, rfl⟩ := List.getElem?_eq_some_iff.mp at_i
    rcases lt_trichotomy j i with before | same | after
    · have farther := nearest.first j _ before (List.getElem?_eq_getElem hj) finite
      exact absurd farther (Float.not_lt_of_le_of_number (Float.isNaN_eq_false_of_isFinite finite)
        nearest.isNaN_eq_false closer)
    · subst same
      exact le_rfl
    · exact List.pairwise_iff_getElem.mp (values_sorted s) i j hi hj after

/-- A goal other than zero snaps to the least nearest value of the table, when that value is
within the threshold. -/
theorem nearestValueWithin_values_iff (s : NumericScale) (thresholdPercent : Float)
    (nonzero : (goal == 0.0) = false) :
    nearestValueWithin goal s.values thresholdPercent = some v ↔
      LeastNearest s.entries goal v ∧
        withinThreshold (v - goal).abs goal thresholdPercent = true := by
  rw [nearestValueWithin_eq_nearestWithin _ _ nonzero,
    nearestWithin_eq_some_iff _ _ _ _ _ nonzero fun _ => Float.abs_abs _,
    withinThreshold_iff nonzero, Float.abs_abs]
  constructor
  · rintro ⟨i, nearest, at_i, within⟩
    exact ⟨leastNearest_of_firstNearest nearest at_i, within⟩
  · rintro ⟨least, within⟩
    -- the search finds a value, since `v` is at a finite distance, and that value is `v`
    cases found : nearestBy s.values (fun w => (w - goal).abs) with
    | none =>
      have infinite := (nearestBy_eq_none_iff _ _).mp found v
        ((values_perm s).mem_iff.mpr least.mem)
      exact absurd (infinite.symm.trans least.finite) (by simp)
    | some best =>
      obtain ⟨i, d⟩ := best
      have nearest := (nearestBy_eq_some_iff _ _ i d).mp found
      obtain ⟨w, at_i, rfl⟩ := nearest.exists_getElem?
      obtain rfl := (leastNearest_of_firstNearest nearest at_i).unique least
      exact ⟨i, nearest, at_i, within⟩

/-! ### The token a table gives -/

theorem nearest_eq_some_iff_of_zero (s : NumericScale) (thresholdPercent : Float)
    (zero : (goal == 0.0) = true) :
    s.nearest goal thresholdPercent = some e ↔ FirstWithValue s.entries 0.0 e := by
  rw [← find?_eq_some_iff_firstWithValue]
  simp [nearest, nearestValueWithin, zero]

theorem nearest_eq_some_iff (s : NumericScale) (thresholdPercent : Float)
    (nonzero : (goal == 0.0) = false) :
    s.nearest goal thresholdPercent = some e ↔
      ∃ v, LeastNearest s.entries goal v ∧
        withinThreshold (v - goal).abs goal thresholdPercent = true ∧
        FirstWithValue s.entries v e := by
  unfold nearest
  constructor
  · intro found
    split at found
    case h_1 v snapped =>
      obtain ⟨least, within⟩ :=
        (nearestValueWithin_values_iff s thresholdPercent nonzero).mp snapped
      exact ⟨v, least, within, find?_eq_some_iff_firstWithValue.mp found⟩
    case h_2 => cases found
  · rintro ⟨v, least, within, first⟩
    rw [(nearestValueWithin_values_iff s thresholdPercent nonzero).mpr ⟨least, within⟩]
    exact find?_eq_some_iff_firstWithValue.mpr first

/-- Tables that list the same entries with pairwise distinct values answer alike. -/
theorem nearest_perm {s t : NumericScale} (perm : s.entries.Perm t.entries)
    (distinct : (s.entries.map Prod.snd).Pairwise fun a b => (a == b) = false)
    (goal thresholdPercent : Float) :
    s.nearest goal thresholdPercent = t.nearest goal thresholdPercent := by
  have distinct' : (t.entries.map Prod.snd).Pairwise fun a b => (a == b) = false :=
    (perm.map Prod.snd).pairwise distinct fun {a b} apart => by
      cases same : (b == a)
      · rfl
      · rw [Float.beq_symm same] at apart
        cases apart
  -- with distinct values, the first entry equal to a value is the only one
  have sameFirst : ∀ v e, FirstWithValue s.entries v e ↔ FirstWithValue t.entries v e :=
    fun v e => by
      rw [firstWithValue_iff_mem distinct, firstWithValue_iff_mem distinct', perm.mem_iff]
  apply Option.ext
  intro e
  cases zero : (goal == 0.0)
  case true =>
    rw [nearest_eq_some_iff_of_zero s _ zero, nearest_eq_some_iff_of_zero t _ zero]
    exact sameFirst _ e
  case false =>
    rw [nearest_eq_some_iff s _ zero, nearest_eq_some_iff t _ zero]
    exact exists_congr fun v =>
      ⟨fun ⟨least, within, first⟩ => ⟨least.of_perm perm, within, (sameFirst v e).mp first⟩,
        fun ⟨least, within, first⟩ =>
          ⟨least.of_perm perm.symm, within, (sameFirst v e).mpr first⟩⟩

/-- The token a table gives for a goal. A goal of zero gives the first token whose value is
zero, and nothing if there is none. Any other goal gives a token exactly when the least value
at the least finite distance from the goal is within the threshold percentage of the goal, and
then the first token whose value equals that value. So two tables that list the same entries,
with pairwise distinct values, in different orders give the same token and value. -/
theorem nearest_least_first_token :
    (∀ (s : NumericScale) goal thresholdPercent e, (goal == 0.0) = true →
      (s.nearest goal thresholdPercent = some e ↔ FirstWithValue s.entries 0.0 e)) ∧
    (∀ (s : NumericScale) goal thresholdPercent e, (goal == 0.0) = false →
      (s.nearest goal thresholdPercent = some e ↔
        ∃ v, LeastNearest s.entries goal v ∧
          withinThreshold (v - goal).abs goal thresholdPercent = true ∧
          FirstWithValue s.entries v e)) ∧
    ∀ s t : NumericScale, s.entries.Perm t.entries →
      (s.entries.map Prod.snd).Pairwise (fun a b => (a == b) = false) →
      ∀ goal thresholdPercent, s.nearest goal thresholdPercent = t.nearest goal thresholdPercent :=
  ⟨fun s _ thresholdPercent _ zero => nearest_eq_some_iff_of_zero s thresholdPercent zero,
    fun s _ thresholdPercent _ nonzero => nearest_eq_some_iff s thresholdPercent nonzero,
    fun _ _ perm distinct => nearest_perm perm distinct⟩

/-- A goal halfway between two tokens gets the smaller value, in either order of the table. -/
theorem nearest_halfway_reordered :
    ([("3.5", 14.0), ("4", 16.0)] : List (String × Float)).Perm [("4", 16.0), ("3.5", 14.0)] ∧
      (([("3.5", 14.0), ("4", 16.0)] : List (String × Float)).map Prod.snd).Pairwise
        (fun a b => (a == b) = false) ∧
      (ofList [("3.5", 14.0), ("4", 16.0)]).nearest 15.0 15.0 =
        (ofList [("4", 16.0), ("3.5", 14.0)]).nearest 15.0 15.0 := by
  have perm : ([("3.5", 14.0), ("4", 16.0)] : List (String × Float)).Perm
      [("4", 16.0), ("3.5", 14.0)] := List.Perm.swap _ _ _
  have distinct : (([("3.5", 14.0), ("4", 16.0)] : List (String × Float)).map Prod.snd).Pairwise
      (fun a b => (a == b) = false) := by decide +kernel
  exact ⟨perm, distinct,
    nearest_least_first_token.2.2 (ofList _) (ofList _) perm distinct 15.0 15.0⟩

end NumericScale

end Handoff
