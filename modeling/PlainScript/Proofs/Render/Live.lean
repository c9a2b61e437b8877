/-
Live code: the line of a statement that is no note begins with a letter, and so it is no comment.
The line of a complete step of known action carries out what the step asks for.
-/

import PlainScript.Proofs.Check.Strict
import PlainScript.Proofs.Render.Deed

namespace PlainScript

open Strict

/-- The text begins with a letter. -/
def BeginsWithLetter (text : String) : Prop := text.toList.head?.any Char.isAlpha = true

theorem isBlank_eq_false_of_isAlpha {c : Char} (letter : c.isAlpha = true) :
    Text.isBlank c = false := by
  delta Char.isAlpha Char.isUpper Char.isLower at letter
  simp only [Bool.or_eq_true, Bool.and_eq_true, decide_eq_true_eq, UInt32.le_iff_toNat_le,
    ge_iff_le] at letter
  have upper : 'A'.val.toNat = 65 ∧ 'Z'.val.toNat = 90 := ⟨rfl, rfl⟩
  have lower : 'a'.val.toNat = 97 ∧ 'z'.val.toNat = 122 := ⟨rfl, rfl⟩
  have code : c.toNat = c.val.toNat := rfl
  simp only [Text.isBlank, Bool.or_eq_false_iff, Bool.and_eq_false_iff, decide_eq_false_iff_not,
    beq_eq_false_iff_ne]
  omega

theorem beginsWithLetter_ofList {chars : List Char}
    (letter : chars.head?.any Char.isAlpha = true) : BeginsWithLetter (.ofList chars) := by
  rwa [BeginsWithLetter, String.toList_ofList]

theorem BeginsWithLetter.append {left : String} (begins : BeginsWithLetter left)
    (right : String) : BeginsWithLetter (left ++ right) := by
  obtain ⟨c, head, letter⟩ := (Option.any_eq_true _ _).mp begins
  simp [BeginsWithLetter, List.head?_append, head, letter]

namespace Dialect

variable (dialect : Dialect)

/-- The lines of all statements but notes begin with a word of the dialect. -/
theorem beginsWithLetter_line {statement : Statement} (live : ∀ text, statement ≠ .note text) :
    BeginsWithLetter (dialect.line statement) := by
  cases statement with
  | note text => exact absurd rfl (live text)
  | checkElement check target value =>
      cases check <;> cases dialect <;>
        delta line Statement.playwrightScript Statement.playwrightPython Statement.seleniumPython
          Statement.seleniumJava Statement.cypress ElementCheck.seleniumPython
          ElementCheck.seleniumJava <;>
        dsimp only <;>
        repeat' first
          | with_reducible apply BeginsWithLetter.append
          | exact beginsWithLetter_ofList (by decide)
  | _ =>
      cases dialect <;>
        delta line Statement.playwrightScript Statement.playwrightPython Statement.seleniumPython
          Statement.seleniumJava Statement.cypress <;>
        dsimp only <;>
        repeat' first
          | with_reducible apply BeginsWithLetter.append
          | exact beginsWithLetter_ofList (by decide)

/-- An indented line that begins with a letter is no comment. -/
theorem isComment_indent_append {text : String} (begins : BeginsWithLetter text) :
    isComment (dialect.indent ++ text).toList = false := by
  obtain ⟨c, head, letter⟩ := (Option.any_eq_true _ _).mp begins
  obtain ⟨rest, same⟩ := List.head?_eq_some_iff.mp head
  have spaces : ∀ c ∈ dialect.indent.toList, Text.isBlank c = true := by
    cases dialect <;> simp [indent, Text.isBlank]
  have kept : Chars.trimLeft (dialect.indent.toList ++ [c]) = [c] := by
    rw [Chars.trimLeft, List.dropWhile_append_of_pos spaces, List.dropWhile_cons_of_neg]
    simp [isBlank_eq_false_of_isAlpha letter]
  have whole : (dialect.indent ++ text).toList = dialect.indent.toList ++ [c] ++ rest := by
    simp [same]
  rw [whole]
  exact isComment_eq_false (by rw [kept]; exact letter) rest

/-- The line of the step is no comment, and it is the line of what the step asks for. -/
structure Executes (base : String) (step : Step) : Prop where
  deed : ∃ deed, step.deed? dialect.framework base = some deed ∧
    dialect.line (dialect.statement base step) = dialect.line (deed.statement dialect.argument)
  live : isComment (dialect.indent ++ dialect.line (dialect.statement base step)).toList = false

/-- The line of a complete step of known action is executed. -/
theorem executes_of_complete (base : String) {step : Step} (known : step.IsKnown)
    (complete : ¬ step.IsIncomplete dialect.framework) : dialect.Executes base step := by
  obtain ⟨deed, asked, same⟩ := dialect.exists_deed base known complete
  refine ⟨⟨deed, asked, same⟩, ?_⟩
  rw [same]
  refine dialect.isComment_indent_append (dialect.beginsWithLetter_line ?_)
  cases deed <;> exact nofun

end Dialect

end PlainScript
