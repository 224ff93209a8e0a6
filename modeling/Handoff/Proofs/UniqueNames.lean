/-
Module: Handoff.Proofs.UniqueNames
Purpose: The names of a run are pairwise distinct. A base is handed out bare the first time it
  is asked for, unless that very text was handed out before; every other name is the base, an
  underscore and a counter of at least two digits. The candidate loop stops at the first
  candidate not yet handed out, and it never runs out of tries: the candidates of one base are
  pairwise distinct, so `n` names handed out cannot cover `n + 1` of them.
Main exports: zeroPadded_toList, zeroPadded_injective, UniqueNames.candidate_injective,
  UniqueNames.exists_untaken, UniqueNames.assign_spec, UniqueNames.assign_eq_base_iff,
  UniqueNames.assignMany, UniqueNames.assignAll_append, UniqueNames.assignAll_nodup,
  UniqueNames.assignAll_shape, UniqueNames.assignAll_eq_base_iff.
-/
import Handoff.Normalize.Names
import Mathlib

namespace Handoff

/-! ### Counter texts -/

/-- A counter's text is its decimal digits, zero padded on the left to two digits. -/
theorem zeroPadded_toList (n : Nat) :
    (zeroPadded n).toList =
      List.replicate (2 - (Nat.toDigits 10 n).length) '0' ++ Nat.toDigits 10 n := by
  unfold zeroPadded
  split
  · rename_i small
    simp [Nat.toDigits_of_lt_base small]
  · rename_i large
    have long : 2 ≤ (Nat.toDigits 10 n).length := by
      have notShort :=
        (Nat.length_toDigits_le_iff (b := 10) (n := n) (k := 1) (by decide) (by decide)).not
      simp only [Nat.pow_one, Nat.not_le] at notShort
      exact notShort.mpr (by omega)
    simp [Nat.sub_eq_zero_of_le long]

/-- The digits of a counter's text read back as the counter: leading zeros add nothing. -/
theorem ofDigitChars_zeroPadded (n : Nat) : Nat.ofDigitChars 10 (zeroPadded n).toList 0 = n := by
  rw [zeroPadded_toList, Nat.ofDigitChars_append, Nat.ofDigitChars_replicate_zero, Nat.mul_zero]
  exact Nat.ofDigitChars_ten_toDigits

theorem zeroPadded_injective : Function.Injective zeroPadded := fun m n same => by
  rw [← ofDigitChars_zeroPadded m, ← ofDigitChars_zeroPadded n, same]

namespace UniqueNames

/-! ### Candidates of one base -/

@[simp] theorem candidate_zero (base : String) : candidate base 0 = base := rfl

@[simp] theorem candidate_succ (base : String) (n : Nat) :
    candidate base (n + 1) = base ++ "_" ++ zeroPadded (n + 1) := rfl

/-- A numbered candidate is longer than its base, so it is never the bare base. -/
theorem candidate_succ_ne_base (base : String) (n : Nat) : candidate base (n + 1) ≠ base := by
  intro same
  have lengths := congrArg String.length same
  simp only [candidate_succ, String.length_append] at lengths
  have : "_".length = 1 := rfl
  omega

/-- Distinct counters give distinct candidates. -/
theorem candidate_injective (base : String) : Function.Injective (candidate base) := by
  intro m n same
  cases m with
  | zero =>
      cases n with
      | zero => rfl
      | succ n => exact absurd same.symm (candidate_succ_ne_base base n)
  | succ m =>
      cases n with
      | zero => exact absurd same (candidate_succ_ne_base base m)
      | succ n =>
          simp only [candidate_succ, String.append_assoc, String.append_right_inj] at same
          exact zeroPadded_injective same

/-- Among any `used.length + 1` consecutive candidates one is not taken. -/
theorem exists_untaken (used : List String) (base : String) (counter : Nat) :
    ∃ j, counter ≤ j ∧ j < counter + (used.length + 1) ∧ candidate base j ∉ used := by
  by_contra allTaken
  push Not at allTaken
  let tried := (List.range' counter (used.length + 1)).map (candidate base)
  have covered : tried ⊆ used := by
    intro c mem
    obtain ⟨j, inRange, rfl⟩ := List.mem_map.1 mem
    rw [List.mem_range'_1] at inRange
    exact allTaken j inRange.1 inRange.2
  have distinct : tried.Nodup := List.Nodup.map (candidate_injective base) List.nodup_range'
  have tooMany := (distinct.subperm covered).length_le
  simp only [tried, List.length_map, List.length_range'] at tooMany
  omega

/-! ### The candidate loop -/

/-- With an untaken candidate among the next `fuel`, the loop returns the first untaken
candidate from `counter` on, and the counter after it. -/
theorem firstFree_eq_first_untaken (used : List String) (base : String) :
    ∀ fuel counter, (∃ j, counter ≤ j ∧ j < counter + fuel ∧ candidate base j ∉ used) →
      ∃ k, counter ≤ k ∧ candidate base k ∉ used ∧
        (∀ j, counter ≤ j → j < k → candidate base j ∈ used) ∧
        firstFree used base fuel counter = (candidate base k, k + 1)
  | 0, _, ⟨_, lo, hi, _⟩ => absurd hi (by omega)
  | fuel + 1, counter, ⟨j, lo, hi, free⟩ => by
      by_cases taken : candidate base counter ∈ used
      · have later : counter + 1 ≤ j := by
          rcases Nat.eq_or_lt_of_le lo with rfl | lt
          · exact absurd taken free
          · exact lt
        obtain ⟨k, lo', untaken, before, run⟩ :=
          firstFree_eq_first_untaken used base fuel (counter + 1) ⟨j, later, by omega, free⟩
        refine ⟨k, by omega, untaken, fun i atLeast below => ?_, ?_⟩
        · rcases Nat.eq_or_lt_of_le atLeast with rfl | lt
          · exact taken
          · exact before i lt below
        · simp [firstFree, taken, run]
      · exact ⟨counter, Nat.le_refl _, taken, fun _ atLeast below => absurd below (by omega),
          by simp [firstFree, taken]⟩

/-! ### One call of `assign` -/

/-- The next counter tried for a base. -/
def counterOf (u : UniqueNames) (base : String) : Nat :=
  ((u.counters.find? fun e => e.1 == base).map Prod.snd).getD 0

@[simp] theorem counterOf_empty (base : String) : counterOf empty base = 0 := rfl

/-- Setting a base's counter changes the counter of that base only. -/
theorem counterOf_setCounter (counters : List (String × Nat)) (used : List String)
    (base b : String) (n : Nat) :
    counterOf ⟨setCounter base n counters, used⟩ b =
      if b = base then n else counterOf ⟨counters, used⟩ b := by
  induction counters with
  | nil =>
      by_cases same : b = base
      · subst same
        simp [setCounter, counterOf]
      · simp [setCounter, counterOf, same, Ne.symm same]
  | cons entry rest ih =>
      obtain ⟨key, m⟩ := entry
      by_cases hit : key = base
      · subst hit
        by_cases same : b = key
        · subst same
          simp [setCounter, counterOf]
        · simp [setCounter, counterOf, same, Ne.symm same]
      · have step : setCounter base n ((key, m) :: rest) = (key, m) :: setCounter base n rest := by
          simp [setCounter, hit]
        rw [step]
        by_cases found : key = b
        · subst found
          simp [counterOf, hit]
        · simp only [counterOf] at ih ⊢
          simp [found, ih]

/-- What one call does: it returns the first candidate from the base's counter on that was not
handed out, records it, and moves the base's counter past it. -/
theorem assign_spec (u : UniqueNames) (base : String) :
    ∃ k, counterOf u base ≤ k ∧ candidate base k ∉ u.used ∧
      (∀ j, counterOf u base ≤ j → j < k → candidate base j ∈ u.used) ∧
      u.assign base =
        (candidate base k, ⟨setCounter base (k + 1) u.counters, candidate base k :: u.used⟩) := by
  obtain ⟨k, lo, untaken, before, run⟩ :=
    firstFree_eq_first_untaken u.used base _ _ (exists_untaken u.used base (counterOf u base))
  refine ⟨k, lo, untaken, before, ?_⟩
  simp only [counterOf] at run
  simp only [assign, run]

/-- A name handed out is new. -/
theorem assign_fresh (u : UniqueNames) (base : String) : (u.assign base).1 ∉ u.used := by
  obtain ⟨k, -, untaken, -, run⟩ := assign_spec u base
  rw [run]
  exact untaken

theorem assign_used (u : UniqueNames) (base : String) :
    (u.assign base).2.used = (u.assign base).1 :: u.used := by
  obtain ⟨k, -, -, -, run⟩ := assign_spec u base
  rw [run]

/-- A name handed out is its base, or its base with a positive counter. -/
theorem assign_shape (u : UniqueNames) (base : String) :
    (u.assign base).1 = base ∨ ∃ k, 0 < k ∧ (u.assign base).1 = base ++ "_" ++ zeroPadded k := by
  obtain ⟨k, -, -, -, run⟩ := assign_spec u base
  rw [run]
  cases k with
  | zero => exact .inl rfl
  | succ k => exact .inr ⟨k + 1, Nat.succ_pos k, rfl⟩

/-- A name handed out for a base that is not empty is not empty. -/
theorem assign_ne_empty (u : UniqueNames) {base : String} (nonempty : base ≠ "") :
    (u.assign base).1 ≠ "" := by
  rcases assign_shape u base with bare | ⟨k, -, counted⟩
  · rwa [bare]
  · rw [counted]
    intro empty
    simpa using congrArg String.toList empty

/-- The bare base comes back exactly when the base was never asked for and its text was never
handed out. -/
theorem assign_eq_base_iff (u : UniqueNames) (base : String) :
    (u.assign base).1 = base ↔ counterOf u base = 0 ∧ base ∉ u.used := by
  obtain ⟨k, lo, untaken, before, run⟩ := assign_spec u base
  rw [run]
  constructor
  · intro bare
    have zero : k = 0 := candidate_injective base (bare.trans (candidate_zero base).symm)
    subst zero
    exact ⟨Nat.le_zero.mp lo, untaken⟩
  · rintro ⟨first, unused⟩
    cases k with
    | zero => rfl
    | succ k => exact absurd (before 0 (by omega) (by omega)) unused

/-- After a call, exactly the bases asked for so far have a counter. -/
theorem counterOf_assign_eq_zero_iff (u : UniqueNames) (base b : String) :
    counterOf (u.assign base).2 b = 0 ↔ counterOf u b = 0 ∧ b ≠ base := by
  obtain ⟨k, -, -, -, run⟩ := assign_spec u base
  rw [run, counterOf_setCounter]
  by_cases same : b = base
  · simp [same]
  · simp [same, counterOf]

/-! ### A sequence of calls -/

/-- The state after handing out names for the bases in order. -/
def assignMany (u : UniqueNames) : List String → UniqueNames
  | [] => u
  | base :: rest => (u.assign base).2.assignMany rest

theorem assignMany_append (u : UniqueNames) (xs ys : List String) :
    u.assignMany (xs ++ ys) = (u.assignMany xs).assignMany ys := by
  induction xs generalizing u with
  | nil => rfl
  | cons base rest ih => exact ih _

/-- Two sequences of calls in a row hand out what one call of both does. -/
theorem assignAll_append (u : UniqueNames) (xs ys : List String) :
    u.assignAll (xs ++ ys) = u.assignAll xs ++ (u.assignMany xs).assignAll ys := by
  induction xs generalizing u with
  | nil => rfl
  | cons base rest ih => simp [assignAll, assignMany, ih]

theorem assignAll_length (u : UniqueNames) (bases : List String) :
    (u.assignAll bases).length = bases.length := by
  induction bases generalizing u with
  | nil => rfl
  | cons base rest ih => simp [assignAll, ih]

theorem assignAll_ne_empty (u : UniqueNames) (bases : List String)
    (nonempty : ∀ base ∈ bases, base ≠ "") : ∀ name ∈ u.assignAll bases, name ≠ "" := by
  induction bases generalizing u with
  | nil => simp [assignAll]
  | cons base rest ih =>
      simp only [assignAll, List.mem_cons, forall_eq_or_imp] at nonempty ⊢
      exact ⟨assign_ne_empty u nonempty.1, ih _ nonempty.2⟩

/-- The names handed out by a sequence of calls are new and pairwise distinct. -/
theorem assignAll_nodup (u : UniqueNames) (bases : List String) :
    (u.assignAll bases).Nodup ∧ ∀ name ∈ u.assignAll bases, name ∉ u.used := by
  induction bases generalizing u with
  | nil => simp [assignAll]
  | cons base rest ih =>
      obtain ⟨distinct, fresh⟩ := ih (u.assign base).2
      rw [assign_used] at fresh
      simp only [assignAll, List.nodup_cons, List.mem_cons, forall_eq_or_imp]
      refine ⟨⟨fun mem => fresh _ mem (List.mem_cons_self ..), distinct⟩, assign_fresh u base,
        fun name mem used => fresh name mem (List.mem_cons_of_mem _ used)⟩

/-- Every name handed out by a sequence of calls is its base, or its base with a positive
counter. -/
theorem assignAll_shape (u : UniqueNames) (bases : List String) :
    ∀ (i : Nat) (base name : String), bases[i]? = some base →
      (u.assignAll bases)[i]? = some name → name = base ∨ ∃ k, 0 < k ∧ name = base ++ "_" ++ zeroPadded k := by
  induction bases generalizing u with
  | nil => simp
  | cons first rest ih =>
      intro i base name atBase atName
      cases i with
      | zero =>
          simp only [assignAll, List.getElem?_cons_zero, Option.some.injEq] at atBase atName
          subst atBase atName
          exact assign_shape u first
      | succ i =>
          exact ih (u.assign first).2 i base name (by simpa using atBase)
            (by simpa [assignAll] using atName)

/-- Call `i` of a sequence returns its bare base exactly when the base has no counter yet, was
not asked for by an earlier call, and was neither handed out before the sequence nor by an
earlier call. -/
theorem assignAll_eq_base_iff (u : UniqueNames) (bases : List String) :
    ∀ (i : Nat) (base name : String), bases[i]? = some base →
      (u.assignAll bases)[i]? = some name → (name = base ↔ counterOf u base = 0 ∧ base ∉ bases.take i ∧ base ∉ u.used ∧
        base ∉ (u.assignAll bases).take i) := by
  induction bases generalizing u with
  | nil => simp
  | cons first rest ih =>
      intro i base name atBase atName
      cases i with
      | zero =>
          simp only [assignAll, List.getElem?_cons_zero, Option.some.injEq] at atBase atName
          subst atBase atName
          simp [assign_eq_base_iff]
      | succ i =>
          have later := ih (u.assign first).2 i base name (by simpa using atBase)
            (by simpa [assignAll] using atName)
          rw [later, counterOf_assign_eq_zero_iff, assign_used]
          simp only [List.take_succ_cons, assignAll, List.mem_cons, not_or]
          tauto

end UniqueNames

end Handoff
