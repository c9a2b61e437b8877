/-
The line of a statement shows its texts: it is unfinished if one of them is, and clean if all of
them are.
-/

import PlainScript.Proofs.Check.Clean
import PlainScript.Render.Line

namespace PlainScript

open Strict

/-- The texts that the line of a statement shows; not every check compares with a value. -/
def Statement.shown : Statement → List String
  | note text => [text]
  | goto url => [url]
  | fill target text => [target, text]
  | click target => [target]
  | checkUrl value => [value]
  | checkElement check target value => if check.needsValue then [target, value] else [target]

namespace Dialect

variable {statement : Statement}

/-- The plain pieces of the texts stand in the line. -/
theorem shows_line (dialect : Dialect) {text : String} (shown : text ∈ statement.shown) :
    Literal.Shows (dialect.line statement) text := by
  have itself := Literal.Shows.refl text
  cases statement with
  | checkElement check target value =>
      cases check <;>
        simp only [Statement.shown, ElementCheck.needsValue, if_true, Bool.false_eq_true, if_false,
          List.mem_cons, List.not_mem_nil, or_false] at shown <;>
        cases dialect <;>
        delta line Statement.playwrightScript Statement.playwrightPython Statement.seleniumPython
          Statement.seleniumJava Statement.cypress ElementCheck.playwrightScript
          ElementCheck.playwrightPython ElementCheck.seleniumPython ElementCheck.seleniumJava
          ElementCheck.cypress <;>
        dsimp only <;>
        grind
  | _ =>
      simp only [Statement.shown, List.mem_cons, List.not_mem_nil, or_false] at shown
      cases dialect <;>
        delta line Statement.playwrightScript Statement.playwrightPython Statement.seleniumPython
          Statement.seleniumJava Statement.cypress <;>
        dsimp only <;>
        grind

/-- A line that shows an unfinished text is unfinished. -/
theorem unfinished_line (dialect : Dialect) {text : String} (shown : text ∈ statement.shown)
    (unfinished : Unfinished text) : Unfinished (dialect.line statement) :=
  unfinished.of_shows (shows_line dialect shown)

/-- A line that shows clean texts only is clean. -/
theorem clean_line (dialect : Dialect) (clean : ∀ text ∈ statement.shown, Clean text) :
    Clean (dialect.line statement) := by
  cases statement with
  | checkElement check target value =>
      cases check <;>
        simp only [Statement.shown, ElementCheck.needsValue, if_true, Bool.false_eq_true, if_false,
          List.mem_cons, List.not_mem_nil, or_false, forall_eq_or_imp, forall_eq] at clean <;>
        cases dialect <;>
        delta line Statement.playwrightScript Statement.playwrightPython Statement.seleniumPython
          Statement.seleniumJava Statement.cypress ElementCheck.playwrightScript
          ElementCheck.playwrightPython ElementCheck.seleniumPython ElementCheck.seleniumJava
          ElementCheck.cypress <;>
        dsimp only <;>
        simp (disch := (apply guarded_ofList; decide)) only [clean_append_barrier_append_iff,
          clean_front_append_iff, clean_append_back_iff, clean_quote_iff, clean_quoteDouble_iff,
          clean, and_self]
  | checkUrl value =>
      simp only [Statement.shown, List.mem_cons, List.not_mem_nil, or_false, forall_eq] at clean
      cases dialect with
      | playwrightPython =>
          -- The words after the literal begin with a blank, which a marker has inside.
          change Clean ("assert " ++ Literal.quote value ++ " in page.url")
          rw [clean_append_barrier_append_iff (isBarrier_quote clean)]
          exact ⟨clean_ofList (by decide), clean_ofList (by decide)⟩
      | _ =>
          delta line Statement.playwrightScript Statement.seleniumPython Statement.seleniumJava
            Statement.cypress
          dsimp only
          simp (disch := (apply guarded_ofList; decide)) only [clean_append_back_iff,
            clean_front_append_iff, clean_quote_iff, clean_quoteDouble_iff, clean]
  | _ =>
      simp only [Statement.shown, List.mem_cons, List.not_mem_nil, or_false, forall_eq_or_imp,
        forall_eq] at clean
      cases dialect <;>
        delta line Statement.playwrightScript Statement.playwrightPython Statement.seleniumPython
          Statement.seleniumJava Statement.cypress <;>
        dsimp only <;>
        simp (disch := (apply guarded_ofList; decide)) only [clean_append_barrier_append_iff,
          clean_front_append_iff, clean_append_back_iff, clean_quote_iff, clean_quoteDouble_iff,
          clean, and_self]

end Dialect

end PlainScript
