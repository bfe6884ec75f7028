import Mathlib

/-!
# The flow-control bound

`guard_increment_window` adds an increment to a window and raises `FlowControlError` when the
sum passes `2^31 - 1`. It has no lower bound: a negative increment or window passes. Applied
increment after increment, the window is the running sum, every window it returns is within
the bound, and the first sum that is not raises (`guard_increment_window_run`).
-/

namespace H2.Utilities

/-- `FlowControlError`, with the message it is raised with. -/
structure FlowControlError where
  message : String
  deriving DecidableEq, Repr

/-- `LARGEST_FLOW_CONTROL_WINDOW`. -/
def largestFlowControlWindow : Int := 2 ^ 31 - 1

/-- `guard_increment_window`; Python integers do not overflow. -/
def guardIncrementWindow (current increment : Int) : Except FlowControlError Int :=
  let newSize := current + increment
  if newSize > largestFlowControlWindow then
    .error ⟨"May not increment flow control window past " ++ toString largestFlowControlWindow⟩
  else .ok newSize

theorem guardIncrementWindow_of_le {current increment : Int}
    (within : current + increment ≤ largestFlowControlWindow) :
    guardIncrementWindow current increment = .ok (current + increment) := by
  simp [guardIncrementWindow, not_lt.mpr within]

theorem guardIncrementWindow_of_lt {current increment : Int}
    (past : largestFlowControlWindow < current + increment) :
    guardIncrementWindow current increment =
      .error ⟨"May not increment flow control window past " ++ toString largestFlowControlWindow⟩ := by
  simp [guardIncrementWindow, past]

example : guardIncrementWindow (2 ^ 31 - 2) 2 =
    .error ⟨"May not increment flow control window past " ++ toString largestFlowControlWindow⟩ :=
  guardIncrementWindow_of_lt (by decide)

example : guardIncrementWindow 0 (2 ^ 31 - 1) = .ok (2 ^ 31 - 1) := guardIncrementWindow_of_le (by decide)

theorem runningSums_cons (current increment : Int) (increments : List Int) :
    (∀ k < (increment :: increments).length,
      current + ((increment :: increments).take (k + 1)).sum ≤ largestFlowControlWindow) ↔
    current + increment ≤ largestFlowControlWindow ∧
      ∀ k < increments.length, current + increment + (increments.take (k + 1)).sum ≤ largestFlowControlWindow := by
  simp [Nat.forall_lt_succ_left, add_assoc]

/-- Increments applied one after another from `current`: the window is `current` plus their
sum when every running sum is within `2^31 - 1`, and the first running sum past it raises. -/
theorem guard_increment_window_run (current : Int) (increments : List Int) :
    increments.foldlM guardIncrementWindow current =
      if ∀ k < increments.length, current + (increments.take (k + 1)).sum ≤ largestFlowControlWindow then
        .ok (current + increments.sum)
      else .error ⟨"May not increment flow control window past " ++ toString largestFlowControlWindow⟩ := by
  induction increments generalizing current with
  | nil => simp [pure, Except.pure]
  | cons increment increments ih =>
    simp only [List.foldlM_cons, runningSums_cons]
    by_cases within : current + increment ≤ largestFlowControlWindow
    · simp only [guardIncrementWindow_of_le within, bind, Except.bind, ih, within, true_and, List.sum_cons, add_assoc]
    · simp only [guardIncrementWindow_of_lt (not_le.mp within), within, false_and, if_false]
      rfl

end H2.Utilities
