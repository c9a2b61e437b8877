/-
Which cases have code: those of supported dialects with a timeout that can be told. In seconds it
is told as a number with places, which has a limit, and in milliseconds as a whole number, which
has a limited count of digits.
-/

import PlainScript.Proofs.Number.Double
import PlainScript.Proofs.Number.Text
import PlainScript.Render.Code

namespace PlainScript

open Number

namespace Dialect

variable {dialect : Dialect} {milliseconds : Int} {timeout : String}

/-- The timeout can be told in the dialect. -/
def Tells (dialect : Dialect) (milliseconds : Int) : Prop :=
  match dialect with
  | seleniumPython => milliseconds.natAbs < Double.limit * 1000
  | _ => isShort milliseconds = true

theorem exists_timeoutText_iff :
    (∃ timeout, dialect.timeoutText milliseconds = .ok timeout) ↔ dialect.Tells milliseconds := by
  cases dialect with
  | seleniumPython =>
      rw [timeoutText, Tells]
      rcases Nat.lt_or_ge milliseconds.natAbs (Double.limit * 1000) with small | large
      · rw [Double.quotient?_of_lt small]
        exact iff_of_true ⟨_, rfl⟩ small
      · rw [Double.quotient?_of_le (by decide) large]
        exact iff_of_false (by simp) (Nat.not_lt_of_le large)
  | _ =>
      rw [timeoutText, Tells, intText]
      · split <;> simp_all
      · simp
      · simp

/-- The timeout is to be told in seconds, and these are too many for a number with places. -/
theorem timeoutText_eq_oversized_iff :
    dialect.timeoutText milliseconds = .error .oversized ↔
      dialect = seleniumPython ∧ Double.limit * 1000 ≤ milliseconds.natAbs := by
  cases dialect with
  | seleniumPython =>
      rw [timeoutText, eq_self, true_and]
      rcases Nat.lt_or_ge milliseconds.natAbs (Double.limit * 1000) with small | large
      · rw [Double.quotient?_of_lt small]
        exact iff_of_false (by simp) (Nat.not_le_of_lt small)
      · rw [Double.quotient?_of_le (by decide) large]
        exact iff_of_true rfl large
  | _ =>
      rw [timeoutText, intText]
      · split <;> simp
      · simp

/-- A timeout that is told is a number. -/
theorem isNumeral_of_timeoutText (told : dialect.timeoutText milliseconds = .ok timeout) :
    IsNumeral timeout := by
  have whole (told : intText milliseconds = .ok timeout) : IsNumeral timeout := by
    rw [intText] at told
    split at told
    · exact Except.ok.inj told ▸ isNumeral_toString_int milliseconds
    · cases told
  cases dialect with
  | seleniumPython =>
      rw [timeoutText] at told
      split at told
      · exact Except.ok.inj told ▸ Double.isNumeral_briefText _
      · cases told
  | _ => exact whole told

end Dialect

section

variable {case : TestCase} {options : RenderOptions} {generated : GeneratedCode}

/-- What has code has a dialect. -/
theorem exists_dialect_of_render (rendered : render case options = .ok generated) :
    ∃ dialect, Dialect.find options.framework options.language = .ok dialect := by
  rw [render] at rendered
  cases found : Dialect.find options.framework options.language with
  | error cause =>
      rw [found] at rendered
      cases rendered
  | ok dialect => exact ⟨dialect, rfl⟩

theorem render_eq_unsupported_iff (case : TestCase) {cause : Unsupported} :
    render case options = .error (.unsupported cause) ↔
      Dialect.find options.framework options.language = .error cause := by
  rw [render]
  cases Dialect.find options.framework options.language with
  | error other =>
      constructor
      · exact fun failed => congrArg _ (RenderFault.unsupported.inj (Except.error.inj failed))
      · rintro ⟨⟩
        rfl
  | ok dialect =>
      change ((dialect.timeoutText options.timeout).mapError RenderFault.timeout >>= _) = _ ↔ _
      cases dialect.timeoutText options.timeout <;>
        exact iff_of_false (fun failed => by cases failed) (fun absurd => by cases absurd)

/-- The timeout of the options has no text in their dialect, and that is not reported. -/
def RenderOptions.IsOversized (options : RenderOptions) : Prop :=
  Dialect.find options.framework options.language = .ok .seleniumPython ∧
    Double.limit * 1000 ≤ options.timeout.natAbs

theorem render_eq_oversized_iff (case : TestCase) :
    render case options = .error (.timeout .oversized) ↔ options.IsOversized := by
  rw [render, RenderOptions.IsOversized]
  cases Dialect.find options.framework options.language with
  | error other =>
      exact iff_of_false (fun failed => by cases failed) (fun oversized => by cases oversized.1)
  | ok dialect =>
      rw [Except.ok.injEq, ← Dialect.timeoutText_eq_oversized_iff]
      change ((dialect.timeoutText options.timeout).mapError RenderFault.timeout >>= _) = _ ↔ _
      cases dialect.timeoutText options.timeout with
      | error cause =>
          constructor
          · exact fun failed => congrArg _ (RenderFault.timeout.inj (Except.error.inj failed))
          · rintro ⟨⟩
            rfl
      | ok timeout =>
          exact iff_of_false (fun failed => by cases failed) (fun absurd => by cases absurd)

variable {dialect : Dialect}
  (supported : Dialect.find options.framework options.language = .ok dialect)
include supported

/-- Code is that of its dialect, with the timeout as it is told there. -/
theorem render_eq_ok_iff : render case options = .ok generated ↔
    ∃ timeout, dialect.timeoutText options.timeout = .ok timeout ∧
      generated = ⟨dialect.code options case timeout, options.framework, options.language,
        dialect.dependencies, dialect.setup case.heading⟩ := by
  rw [render, supported]
  change ((dialect.timeoutText options.timeout).mapError RenderFault.timeout >>= _) = _ ↔ _
  cases dialect.timeoutText options.timeout with
  | error cause => exact iff_of_false (fun done => by cases done) (by simp)
  | ok timeout =>
      constructor
      · exact fun done => ⟨timeout, rfl, (Except.ok.inj done).symm⟩
      · rintro ⟨_, ⟨⟩, rfl⟩
        rfl

theorem exists_code_of_render (rendered : render case options = .ok generated) :
    ∃ timeout, dialect.timeoutText options.timeout = .ok timeout ∧
      generated.code = dialect.code options case timeout := by
  obtain ⟨timeout, told, rfl⟩ := (render_eq_ok_iff supported).mp rendered
  exact ⟨timeout, told, rfl⟩

/-- In a supported dialect a case has code exactly if the timeout can be told. -/
theorem exists_render_iff (case : TestCase) :
    (∃ generated, render case options = .ok generated) ↔ dialect.Tells options.timeout := by
  rw [← Dialect.exists_timeoutText_iff]
  constructor
  · rintro ⟨generated, rendered⟩
    obtain ⟨timeout, told, -⟩ := exists_code_of_render supported rendered
    exact ⟨timeout, told⟩
  · rintro ⟨timeout, told⟩
    exact ⟨_, (render_eq_ok_iff supported).mpr ⟨timeout, told, rfl⟩⟩

end

end PlainScript
