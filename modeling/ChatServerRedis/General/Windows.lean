import Mathlib.Order.Interval.Finset.Nat

/-! # Counting the marked ticks of a window

Ticks are numbered 1, 2, 3, ...; a window begins at every multiple of the period
and the first one at tick 1.  `resetCount` counts marked ticks and starts again
at a window's first tick, before that tick is counted; `resetCount_eq` says that
it is the number of marked ticks of the window so far.
-/

namespace Windows

variable (mark : Nat → Bool) (period : Nat)

/-- The first tick of the window that `tick` is in. -/
def start (tick : Nat) : Nat := max 1 (period * (tick / period))

def marksIn (first last : Nat) : Nat := ((Finset.Icc first last).filter fun tick => mark tick).card

def resetCount : Nat → Nat
  | 0 => 0
  | tick + 1 =>
    (if period ∣ tick + 1 then 0 else resetCount tick) + if mark (tick + 1) then 1 else 0

variable {mark period} {first last tick : Nat}

theorem marksIn_empty (empty : last < first) : marksIn mark first last = 0 := by
  simp [marksIn, Finset.Icc_eq_empty_of_lt empty]

theorem marksIn_succ (bound : first ≤ last + 1) :
    marksIn mark first (last + 1) = marksIn mark first last + if mark (last + 1) then 1 else 0 := by
  have split : Finset.Icc first (last + 1) = insert (last + 1) (Finset.Icc first last) := by
    ext tick
    simp only [Finset.mem_Icc, Finset.mem_insert]
    omega
  have outside : last + 1 ∉ (Finset.Icc first last).filter fun tick => mark tick := by simp
  simp only [marksIn, split, Finset.filter_insert]
  split
  · exact Finset.card_insert_of_notMem outside
  · rfl

theorem marksIn_mono {later : Nat} (bound : last ≤ later) :
    marksIn mark first last ≤ marksIn mark first later := by
  apply Finset.card_le_card
  apply Finset.filter_subset_filter
  exact Finset.Icc_subset_Icc_right bound

theorem start_le (called : 1 ≤ tick) : start period tick ≤ tick := by
  have multiple := Nat.mul_div_le tick period
  simp only [start]
  omega

theorem start_boundary (boundary : period ∣ tick + 1) :
    start period (tick + 1) = tick + 1 := by
  have multiple := Nat.mul_div_cancel' boundary
  simp only [start, multiple]
  omega

theorem start_inside (inside : ¬ period ∣ tick + 1) : start period (tick + 1) = start period tick := by
  have same : (tick + 1) / period = tick / period := by
    rw [Nat.succ_div, if_neg inside, Nat.add_zero]
  simp only [start, same]

/-- The counter holds the number of marked ticks of the window so far. -/
theorem resetCount_eq (tick : Nat) :
    resetCount mark period tick = marksIn mark (start period tick) tick := by
  induction tick with
  | zero => simp [resetCount, start, marksIn_empty]
  | succ tick inductionHypothesis =>
    rw [resetCount]
    by_cases boundary : period ∣ tick + 1
    · have alone : marksIn mark (tick + 1) tick = 0 := marksIn_empty (by omega)
      rw [if_pos boundary, start_boundary boundary, marksIn_succ (by omega), alone]
    · have bound : start period tick ≤ tick + 1 := by
        have known := @start_le period (tick + 1) (by omega)
        rwa [start_inside boundary] at known
      rw [if_neg boundary, start_inside boundary, marksIn_succ bound, inductionHypothesis]

/-- A marked tick counts more than any earlier one of its window. -/
theorem resetCount_lt (earlier : first < last)
    (window : first / period = last / period) (marked : mark last = true) :
    resetCount mark period first < resetCount mark period last := by
  obtain ⟨last, rfl⟩ : ∃ previous, last = previous + 1 := ⟨last - 1, by omega⟩
  have begin : start period first = start period (last + 1) := by simp only [start, window]
  have bound : start period (last + 1) ≤ last + 1 := start_le (by omega)
  have grows : marksIn mark (start period (last + 1)) first ≤ marksIn mark (start period (last + 1)) last :=
    marksIn_mono (by omega)
  rw [resetCount_eq, resetCount_eq, begin, marksIn_succ bound, if_pos marked]
  omega

/-- No window holds more marked ticks than it has ticks. -/
theorem resetCount_le (positive : 0 < period) (tick : Nat) :
    resetCount mark period tick ≤ period := by
  rw [resetCount_eq]
  have size : marksIn mark (start period tick) tick ≤ tick + 1 - start period tick := by
    rw [← Nat.card_Icc]
    exact Finset.card_filter_le _ _
  have parts := Nat.div_add_mod tick period
  have rest := Nat.mod_lt tick positive
  have begin : period * (tick / period) ≤ start period tick := Nat.le_max_right _ _
  omega

end Windows
