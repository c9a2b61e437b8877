/-
Statistics fail for one reason only: the durations of the results are too large on average.
-/

import PlainScript.Proofs.Computation
import PlainScript.Proofs.Number.Double
import PlainScript.Report.Stats

namespace PlainScript

open Number

section

variable {dividend : Int} {divisor : Nat}

theorem quotient_of_lt (small : dividend.natAbs < Double.limit * divisor) :
    quotient dividend divisor = .ok (.ofQuotient dividend divisor) := by
  rw [quotient, Double.quotient?_of_lt small]

theorem quotient_of_le (divides : divisor ≠ 0)
    (large : Double.limit * divisor ≤ dividend.natAbs) :
    quotient dividend divisor = .error (.oversized dividend divisor) := by
  rw [quotient, Double.quotient?_of_le divides large]

end

namespace TestStats

variable {results : List TestResult}

/-- The sum of the durations stays below the limit of a number for each result. -/
def IsMeasurable (results : List TestResult) : Prop :=
  (totalOf results).natAbs < Double.limit * max 1 results.length

instance : DecidablePred IsMeasurable := fun _ => inferInstanceAs (Decidable (_ < _))

theorem perTest_of_lt {sum : Int} {total : Nat} (small : sum.natAbs < Double.limit * max 1 total) :
    ∃ average, perTest sum total = .ok average := by
  rw [perTest]
  split
  · exact ⟨_, rfl⟩
  · rename_i some
    rw [beq_iff_eq] at some
    rw [Nat.max_eq_right (Nat.pos_of_ne_zero some)] at small
    exact ⟨_, quotient_of_lt small⟩

/-- A share of the results has a quotient. -/
theorem perTest_of_le {part total : Nat} (part_le : part ≤ total) :
    ∃ rate, perTest part total = .ok rate := by
  refine perTest_of_lt (Nat.lt_of_le_of_lt part_le ?_)
  have twice := Nat.mul_le_mul_right (max 1 total) Double.one_lt_limit
  omega

theorem exists_perTest_count (status : Status) (results : List TestResult) :
    ∃ rate, perTest (count status results) results.length = .ok rate :=
  perTest_of_le List.countP_le_length

theorem exists_ofResults_of_isMeasurable (measurable : IsMeasurable results) :
    ∃ stats, ofResults results = .ok stats ∧ stats.totalDuration = totalOf results := by
  obtain ⟨rate, hasRate⟩ := exists_perTest_count .passed results
  obtain ⟨average, hasAverage⟩ := perTest_of_lt measurable
  rw [ofResults]
  simp only [hasRate, hasAverage]
  exact ⟨_, rfl, rfl⟩

/-- The whole numbers of statistics are counts of the results and the sum of their durations. -/
theorem fields_of_ofResults {stats : TestStats} (measured : ofResults results = .ok stats) :
    stats.total = results.length ∧ stats.passed = count .passed results ∧
      stats.failed = count .failed results ∧ stats.skipped = count .skipped results ∧
        stats.totalDuration = totalOf results := by
  obtain ⟨rate, -, measured⟩ := Except.exists_of_bind_eq_ok measured
  obtain ⟨average, -, measured⟩ := Except.exists_of_bind_eq_ok measured
  obtain rfl := Except.ok.inj measured
  exact ⟨rfl, rfl, rfl, rfl, rfl⟩

theorem ofResults_of_not_isMeasurable (large : ¬IsMeasurable results) :
    ofResults results = .error (.oversized (totalOf results) results.length) := by
  obtain ⟨rate, hasRate⟩ := exists_perTest_count .passed results
  have some : results.length ≠ 0 := by
    intro none
    rw [List.length_eq_zero_iff] at none
    subst none
    exact large (Nat.mul_pos (Nat.lt_of_succ_lt Double.one_lt_limit) (by decide))
  have beyond : Double.limit * results.length ≤ (totalOf results).natAbs := by
    rw [IsMeasurable, Nat.max_eq_right (Nat.pos_of_ne_zero some)] at large
    exact Nat.le_of_not_lt large
  have hasNone : perTest (totalOf results) results.length =
      .error (.oversized (totalOf results) results.length) := by
    rw [perTest, if_neg (by simpa using some), quotient_of_le some beyond]
  rw [ofResults]
  simp only [hasRate, hasNone]
  rfl

end TestStats

end PlainScript
