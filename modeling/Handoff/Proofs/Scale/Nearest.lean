/-
Module: Handoff.Proofs.Scale.Nearest
Purpose: What the search for the nearest candidate finds, over every candidate list and every
  distance: nothing exactly when no candidate has a finite distance, and otherwise the first
  candidate at the least finite distance. The scan keeps its best with a strict comparison, so
  the invariant it carries is "the first nearest of the candidates seen so far". Snapping a
  value to a scale and matching a colour to a palette are that search followed by one
  threshold test, against the goal and against √3.
Main exports: FirstNearest, nearestBy_eq_none_iff, nearestBy_eq_some_iff, nearestWithin,
  nearestWithin_eq_some_iff, Color.rgbDistance_abs, nearest_first_least_within.
-/
import Mathlib
import Handoff.Paint.Palette
import Handoff.Proofs.Float.Order

namespace Handoff

variable {α : Type}

/-- Candidate `i` of `cs`, at the finite distance `d`, is the first nearest one: no candidate
with a finite distance is nearer, and every earlier candidate with a finite distance is
farther. -/
structure FirstNearest (distance : α → Float) (cs : List α) (i : Nat) (d : Float) : Prop where
  at_index : cs[i]?.map distance = some d
  finite : d.isFinite = true
  least : ∀ c ∈ cs, (distance c).isFinite = true → d ≤ distance c
  first : ∀ j c, j < i → cs[j]? = some c → (distance c).isFinite = true → d < distance c

/-- What the scan holds after the candidates `seen`: nothing while none of them has a finite
distance, and then the first nearest of them. -/
def NearestSoFar (distance : α → Float) (seen : List α) : Option (Nat × Float) → Prop
  | none => ∀ c ∈ seen, (distance c).isFinite = false
  | some (i, d) => FirstNearest distance seen i d

/-- One step of the scan: the candidate at index `i` replaces the best so far when its distance
is finite and strictly below the best one. -/
def nearestStep (distance : α → Float) (i : Nat) (best : Option (Nat × Float)) (c : α) :
    Option (Nat × Float) :=
  if !(distance c).isFinite then best
  else match best with
    | some (_, bestD) => if distance c ≥ bestD then best else some (i, distance c)
    | none => some (i, distance c)

theorem nearestFrom_cons (distance : α → Float) (i : Nat) (best : Option (Nat × Float)) (c : α)
    (rest : List α) :
    nearestFrom distance i best (c :: rest) =
      nearestFrom distance (i + 1) (nearestStep distance i best c) rest := rfl

namespace FirstNearest

variable {distance : α → Float} {cs : List α} {i i' : Nat} {d d' : Float}

theorem exists_getElem? (h : FirstNearest distance cs i d) :
    ∃ c, cs[i]? = some c ∧ distance c = d :=
  Option.map_eq_some_iff.mp h.at_index

theorem lt_length (h : FirstNearest distance cs i d) : i < cs.length := by
  obtain ⟨c, get, -⟩ := h.exists_getElem?
  exact (List.getElem?_eq_some_iff.mp get).1

/-- A first nearest candidate is one with a finite distance. -/
theorem not_forall_infinite (h : FirstNearest distance cs i d) :
    ¬∀ c ∈ cs, (distance c).isFinite = false := fun infinite => by
  obtain ⟨c, get, rfl⟩ := h.exists_getElem?
  have infinite := infinite c (List.mem_of_getElem? get)
  exact absurd (infinite.symm.trans h.finite) (by simp)

theorem isNaN_eq_false (h : FirstNearest distance cs i d) : d.isNaN = false :=
  Float.isNaN_eq_false_of_isFinite h.finite

/-- The first nearest candidate comes no later than any other first nearest one. -/
theorem le_index (h : FirstNearest distance cs i d) (h' : FirstNearest distance cs i' d') :
    i ≤ i' := by
  by_contra! later
  obtain ⟨c, get, rfl⟩ := h.exists_getElem?
  obtain ⟨c', get', rfl⟩ := h'.exists_getElem?
  -- the later one would be at most as far as the earlier one, which is strictly farther
  have farther := h.first i' c' later get' h'.finite
  have least := h'.least c (List.mem_of_getElem? get) h.finite
  exact Float.not_lt_of_le_of_number h'.isNaN_eq_false h.isNaN_eq_false least farther

/-- There is one first nearest candidate. -/
theorem unique (h : FirstNearest distance cs i d) (h' : FirstNearest distance cs i' d') :
    i = i' ∧ d = d' := by
  obtain rfl : i = i' := le_antisymm (h.le_index h') (h'.le_index h)
  have same := h.at_index.symm.trans h'.at_index
  exact ⟨rfl, Option.some_injective _ same⟩

/-- A further candidate that is not nearer leaves the first nearest one in place. -/
theorem extend {seen : List α} (h : FirstNearest distance seen i d) (c : α)
    (farther : (distance c).isFinite = true → d ≤ distance c) :
    FirstNearest distance (seen ++ [c]) i d where
  at_index := by rw [List.getElem?_append_left h.lt_length]; exact h.at_index
  finite := h.finite
  least c' mem finite := by
    rcases List.mem_append.mp mem with old | new
    · exact h.least c' old finite
    · obtain rfl := List.mem_singleton.mp new
      exact farther finite
  first j c' earlier get finite := by
    rw [List.getElem?_append_left (earlier.trans h.lt_length)] at get
    exact h.first j c' earlier get finite

/-- A further candidate strictly nearer than every finite one seen is the first nearest. -/
theorem last {seen : List α} (c : α) (finite : (distance c).isFinite = true)
    (nearer : ∀ c' ∈ seen, (distance c').isFinite = true → distance c < distance c') :
    FirstNearest distance (seen ++ [c]) seen.length (distance c) where
  at_index := by simp
  finite := finite
  least c' mem finite' := by
    have number := Float.isNaN_eq_false_of_isFinite finite
    rcases List.mem_append.mp mem with old | new
    · exact Float.le_of_lt_of_number number (Float.isNaN_eq_false_of_isFinite finite')
        (nearer c' old finite')
    · obtain rfl := List.mem_singleton.mp new
      exact Float.le_refl_of_number number
  first j c' earlier get finite' := by
    rw [List.getElem?_append_left earlier] at get
    exact nearer c' (List.mem_of_getElem? get) finite'

end FirstNearest

variable {distance : α → Float}

/-- The step keeps the invariant: the first nearest of the candidates seen, one more seen. -/
theorem nearestSoFar_step {seen : List α} {best : Option (Nat × Float)} (c : α)
    (h : NearestSoFar distance seen best) :
    NearestSoFar distance (seen ++ [c]) (nearestStep distance seen.length best c) := by
  unfold nearestStep
  cases finite : (distance c).isFinite
  case false =>
    -- a candidate without a finite distance is passed over
    simp only [Bool.not_false, if_true]
    cases best with
    | none =>
        intro c' mem
        rcases List.mem_append.mp mem with old | new
        · exact h c' old
        · rw [List.mem_singleton.mp new]
          exact finite
    | some best => exact h.extend c fun finite' => absurd (finite.symm.trans finite') (by simp)
  case true =>
    simp only [Bool.not_true, Bool.false_eq_true, if_false]
    cases best with
    | none =>
        exact FirstNearest.last c finite fun c' mem finite' => by simp [h c' mem] at finite'
    | some best =>
        obtain ⟨i, d⟩ := best
        have number := Float.isNaN_eq_false_of_isFinite finite
        dsimp only
        split
        case isTrue farther => exact h.extend c fun _ => farther
        case isFalse nearer =>
          have below := Float.lt_of_not_le_of_number h.isNaN_eq_false number nearer
          exact FirstNearest.last c finite fun c' mem finite' =>
            Float.lt_of_lt_of_le_of_number number h.isNaN_eq_false
              (Float.isNaN_eq_false_of_isFinite finite') below (h.least c' mem finite')

/-- The scan from any point keeps the invariant over the rest of the candidates. -/
theorem nearestSoFar_nearestFrom (seen rest : List α) (best : Option (Nat × Float))
    (h : NearestSoFar distance seen best) :
    NearestSoFar distance (seen ++ rest) (nearestFrom distance seen.length best rest) := by
  induction rest generalizing seen best with
  | nil => simpa [nearestFrom] using h
  | cons c rest ih =>
      have step := ih (seen ++ [c]) _ (nearestSoFar_step c h)
      rw [nearestFrom_cons]
      simpa using step

theorem nearestSoFar_nearestBy (cs : List α) (distance : α → Float) :
    NearestSoFar distance cs (nearestBy cs distance) := by
  have start : NearestSoFar distance [] none := fun _ mem => absurd mem List.not_mem_nil
  exact nearestSoFar_nearestFrom [] cs none start

/-- The search finds nothing exactly when no candidate has a finite distance. -/
theorem nearestBy_eq_none_iff (cs : List α) (distance : α → Float) :
    nearestBy cs distance = none ↔ ∀ c ∈ cs, (distance c).isFinite = false := by
  have found := nearestSoFar_nearestBy cs distance
  constructor
  · intro none_found
    rw [none_found] at found
    exact found
  · intro infinite
    cases result : nearestBy cs distance with
    | none => rfl
    | some best =>
        obtain ⟨i, d⟩ := best
        rw [result] at found
        exact absurd infinite found.not_forall_infinite

/-- The search finds the first candidate at the least finite distance. -/
theorem nearestBy_eq_some_iff (cs : List α) (distance : α → Float) (i : Nat) (d : Float) :
    nearestBy cs distance = some (i, d) ↔ FirstNearest distance cs i d := by
  have found := nearestSoFar_nearestBy cs distance
  constructor
  · intro some_found
    rw [some_found] at found
    exact found
  · intro nearest
    cases result : nearestBy cs distance with
    | none => exact absurd ((nearestBy_eq_none_iff cs distance).mp result) nearest.not_forall_infinite
    | some best =>
        obtain ⟨i', d'⟩ := best
        rw [result] at found
        obtain ⟨rfl, rfl⟩ := found.unique nearest
        rfl

-- Ties keep the first candidate, and a NaN distance is passed over.
example : (nearestBy [3.0, 1.0, 1.0, 0.0 / 0.0] fun x => x).map Prod.fst = some 1 := by
  decide +kernel

/-! ### The threshold test -/

/-- The nearest candidate when its distance is within the threshold percentage of the
reference: the rule both the scale and the palette apply. -/
def nearestWithin (cs : List α) (distance : α → Float) (reference thresholdPercent : Float) :
    Option α :=
  match nearestBy cs distance with
  | some (i, deviation) =>
      if withinThreshold deviation reference thresholdPercent then cs[i]? else none
  | none => none

theorem withinThreshold_iff {deviation reference thresholdPercent : Float}
    (nonzero : (reference == 0.0) = false) :
    withinThreshold deviation reference thresholdPercent = true ↔
      deviation.abs / reference.abs * 100.0 ≤ thresholdPercent := by
  simp [withinThreshold, nonzero]

/-- Against a reference other than zero and for distances with a clear sign, the threshold
test accepts the first nearest candidate exactly when its distance is within the threshold
percentage of the reference. -/
theorem nearestWithin_eq_some_iff (cs : List α) (distance : α → Float)
    (reference thresholdPercent : Float) (v : α) (nonzero : (reference == 0.0) = false)
    (clear : ∀ c, (distance c).abs = distance c) :
    nearestWithin cs distance reference thresholdPercent = some v ↔
      ∃ i, FirstNearest distance cs i (distance v) ∧ cs[i]? = some v ∧
        distance v / reference.abs * 100.0 ≤ thresholdPercent := by
  unfold nearestWithin
  constructor
  · intro accepted
    split at accepted
    case h_1 i deviation result =>
      have nearest := (nearestBy_eq_some_iff cs distance i deviation).mp result
      split at accepted
      case isTrue within =>
        obtain ⟨c, get, rfl⟩ := nearest.exists_getElem?
        obtain rfl : c = v := Option.some_injective _ (get.symm.trans accepted)
        rw [withinThreshold_iff nonzero, clear] at within
        exact ⟨i, nearest, get, within⟩
      case isFalse => exact absurd accepted (by simp)
    case h_2 => exact absurd accepted (by simp)
  · rintro ⟨i, nearest, get, within⟩
    rw [(nearestBy_eq_some_iff cs distance i (distance v)).mpr nearest]
    dsimp only
    rw [if_pos ((withinThreshold_iff nonzero).mpr (by rwa [clear])), get]

/-- A goal other than zero snaps by the threshold test against itself. -/
theorem nearestValueWithin_eq_nearestWithin {goal : Float} (scale : List Float)
    (thresholdPercent : Float) (nonzero : (goal == 0.0) = false) :
    nearestValueWithin goal scale thresholdPercent =
      nearestWithin scale (fun e => (e - goal).abs) goal thresholdPercent := by
  rw [nearestValueWithin, if_neg (by simp [nonzero])]
  rfl

theorem Palette.nearest_eq_nearestWithin (p : Palette) (c : Color) (thresholdPercent : Float) :
    p.nearest c thresholdPercent =
      nearestWithin p.entries (fun e => e.color.rgbDistance c) (Float.sqrt 3.0)
        thresholdPercent := rfl

/-- The RGB distance has a clear sign: it is the root of a sum of squares. -/
theorem Color.rgbDistance_abs (c d : Color) : (c.rgbDistance d).abs = c.rgbDistance d := by
  apply Float.abs_eq_self
  apply Float.unpack_abs_sqrt_of_abs
  apply Float.unpack_abs_add_of_abs (Float.unpack_abs_add_of_abs _ _) <;>
    exact Float.unpack_abs_mul_self _

theorem sqrt_three_ne_zero : (Float.sqrt 3.0 == 0.0) = false := by decide +kernel

theorem abs_sqrt_three : (Float.sqrt 3.0).abs = Float.sqrt 3.0 := by
  apply Float.abs_eq_self
  exact Float.unpack_abs_sqrt_of_abs rfl

/-- The nearest entry of a scale or a palette: the search finds nothing exactly when no
candidate has a finite distance, and otherwise the first candidate at the least finite
distance; a goal of zero snaps to zero, any other goal snaps to the first nearest entry of the
scale when its deviation is within the threshold percentage of the goal, and a colour matches
the first nearest entry of the palette when its RGB distance is within the threshold
percentage of √3. -/
theorem nearest_first_least_within :
    (∀ {α : Type} (cs : List α) (distance : α → Float),
      (nearestBy cs distance = none ↔ ∀ c ∈ cs, (distance c).isFinite = false) ∧
      ∀ i d, nearestBy cs distance = some (i, d) ↔ FirstNearest distance cs i d) ∧
    (∀ goal scale thresholdPercent, (goal == 0.0) = true →
      nearestValueWithin goal scale thresholdPercent = some 0.0) ∧
    (∀ goal scale thresholdPercent v, (goal == 0.0) = false →
      (nearestValueWithin goal scale thresholdPercent = some v ↔
        ∃ i, FirstNearest (fun e => (e - goal).abs) scale i (v - goal).abs ∧ scale[i]? = some v ∧
          (v - goal).abs / goal.abs * 100.0 ≤ thresholdPercent)) ∧
    ∀ (p : Palette) (c : Color) thresholdPercent e,
      (p.nearest c thresholdPercent = some e ↔
        ∃ i, FirstNearest (fun e => e.color.rgbDistance c) p.entries i (e.color.rgbDistance c) ∧
          p.entries[i]? = some e ∧ e.color.rgbDistance c / Float.sqrt 3.0 * 100.0 ≤ thresholdPercent) := by
  refine ⟨fun cs distance => ⟨nearestBy_eq_none_iff cs distance, nearestBy_eq_some_iff cs distance⟩,
    ?zero, ?scale, ?palette⟩
  case zero =>
    intro goal scale thresholdPercent zero
    simp [nearestValueWithin, zero]
  case scale =>
    intro goal scale thresholdPercent v nonzero
    rw [nearestValueWithin_eq_nearestWithin scale thresholdPercent nonzero]
    exact nearestWithin_eq_some_iff scale _ goal thresholdPercent v nonzero fun e => Float.abs_abs _
  case palette =>
    intro p c thresholdPercent e
    rw [Palette.nearest_eq_nearestWithin, nearestWithin_eq_some_iff _ _ _ _ _ sqrt_three_ne_zero
      fun e => Color.rgbDistance_abs _ _, abs_sqrt_three]

end Handoff
