import FederatedLearning.Round.Evaluation
import Mathlib.Algebra.Order.Floor.Div
import Mathlib.Logic.Function.Iterate

/-!
# Examples split into batches

A pass of the batching loop takes as many examples as a batch may hold, or all that are
left.  The loop is over after as many passes as full batches would be needed, and the
sizes of the batches are what the passes take.
-/

namespace FederatedLearning.Round

variable {limit : Count} {total passes : Nat}

/-- What a pass of the batching loop leaves of the remaining examples. -/
def leave (limit : Count) (remaining : Nat) : Nat :=
  remaining - min remaining limit.value

theorem batchSizes_zero : batchSizes limit 0 = [] := by
  rw [batchSizes]

theorem batchSizes_of_pos (present : 0 < total) :
    batchSizes limit total = min total limit.value :: batchSizes limit (leave limit total) := by
  obtain ⟨total, rfl⟩ := Nat.exists_eq_succ_of_ne_zero (Nat.ne_of_gt present)
  rw [batchSizes]
  rfl

theorem leave_lt (present : 0 < total) : leave limit total < total := by
  have := limit.positive
  unfold leave
  omega

theorem sum_batchSizes (limit : Count) (total : Nat) : (batchSizes limit total).sum = total := by
  induction total using Nat.strong_induction_on with
  | _ total induction =>
      rcases Nat.eq_zero_or_pos total with rfl | present
      · rw [batchSizes_zero, List.sum_nil]
      · rw [batchSizes_of_pos present, List.sum_cons, induction _ (leave_lt present), leave]
        omega

/-- A pass brings the loop one full batch closer to its end. -/
theorem ceilDiv_eq_leave_add_one (present : 0 < total) :
    total ⌈/⌉ limit.value = leave limit total ⌈/⌉ limit.value + 1 := by
  have positive := limit.positive
  rw [Nat.ceilDiv_eq_add_pred_div, Nat.ceilDiv_eq_add_pred_div]
  have first : total + limit.value - 1 = total - 1 + limit.value := by omega
  rw [first, Nat.add_div_right _ positive, Nat.succ_inj]
  unfold leave
  rcases Nat.le_total total limit.value with last | more
  · rw [Nat.div_eq_of_lt (by omega), Nat.div_eq_of_lt (by omega)]
  · congr 1
    omega

theorem length_batchSizes (limit : Count) (total : Nat) :
    (batchSizes limit total).length = total ⌈/⌉ limit.value := by
  induction total using Nat.strong_induction_on with
  | _ total induction =>
      rcases Nat.eq_zero_or_pos total with rfl | present
      · rw [batchSizes_zero, zero_ceilDiv, List.length_nil]
      · rw [batchSizes_of_pos present, List.length_cons, induction _ (leave_lt present),
          ceilDiv_eq_leave_add_one present]

theorem iterate_leave (limit : Count) (total passes : Nat) :
    (leave limit)^[passes] total = total - passes * limit.value := by
  induction passes with
  | zero => simp
  | succ passes induction =>
      rw [Function.iterate_succ_apply', induction, leave, Nat.succ_mul]
      omega

/-- The loop is over once it has made as many passes as there are batches, and not
before. -/
theorem iterate_leave_eq_zero_iff :
    (leave limit)^[passes] total = 0 ↔ (batchSizes limit total).length ≤ passes := by
  rw [length_batchSizes, ceilDiv_le_iff_le_smul limit.positive, iterate_leave, smul_eq_mul,
    Nat.mul_comm]
  exact Nat.sub_eq_zero_iff_le

end FederatedLearning.Round
