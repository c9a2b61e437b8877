/-
Reading a file back: line ends are unified, which moves no line and puts no text on one line that
was not there.
-/

import PlainScript.File.Directory
import PlainScript.Proofs.Text.Occurrence

namespace PlainScript.File

variable {piece chars : List Char}

/-- Text without carriage returns is read as it is. -/
theorem unifyLineEnds_eq_self (absent : '\r' ∉ chars) : unifyLineEnds chars = chars := by
  induction chars using unifyLineEnds.induct with
  | case1 rest _ => exact absurd List.mem_cons_self absent
  | case2 rest _ _ => exact absurd List.mem_cons_self absent
  | case3 c rest paired other ih =>
      rw [unifyLineEnds.eq_3 c rest paired other, ih (List.not_mem_of_not_mem_cons absent)]
  | case4 => rfl

theorem linesFrom_lineFeed_cons (before rest : List Char) :
    Chars.linesFrom before ('\n' :: rest) = before.reverse :: Chars.linesFrom [] rest := by
  rw [Chars.linesFrom, if_pos (by decide)]
  intro _ same
  exact absurd same (by decide)

theorem linesFrom_unifyLineEnds (before chars : List Char) :
    Chars.linesFrom before (unifyLineEnds chars) = Chars.linesFrom before chars := by
  induction chars using unifyLineEnds.induct generalizing before with
  | case1 rest ih => rw [unifyLineEnds, linesFrom_lineFeed_cons, ih, Chars.linesFrom]
  | case2 rest single ih =>
      rw [unifyLineEnds.eq_2 rest single, linesFrom_lineFeed_cons, ih,
        Chars.linesFrom.eq_3 _ _ _ fun later _ => single later, if_pos (by decide)]
  | case3 c rest paired other ih =>
      rw [unifyLineEnds.eq_3 c rest paired other,
        Chars.linesFrom.eq_3 _ _ _ fun _ same _ => other same, Chars.linesFrom.eq_3 _ _ _ paired,
        ih, ih]
  | case4 => rfl

/-- The lines are read as they were written. -/
theorem lines_unifyLineEnds (chars : List Char) :
    Chars.lines (unifyLineEnds chars) = Chars.lines chars :=
  linesFrom_unifyLineEnds [] chars

/-- Text on one line in front of a line feed is empty. -/
theorem eq_nil_of_prefix_lineFeed {rest : List Char} (oneLine : '\n' ∉ piece)
    (before : piece <+: '\n' :: rest) : piece = [] := by
  rcases List.prefix_cons_iff.mp before with empty | ⟨later, rfl, -⟩
  · exact empty
  · exact absurd List.mem_cons_self oneLine

theorem prefix_of_prefix_unifyLineEnds (oneLine : '\n' ∉ piece)
    (before : piece <+: unifyLineEnds chars) : piece <+: chars := by
  induction chars using unifyLineEnds.induct generalizing piece with
  | case1 rest _ =>
      rw [unifyLineEnds] at before
      rw [eq_nil_of_prefix_lineFeed oneLine before]
      exact List.nil_prefix
  | case2 rest single _ =>
      rw [unifyLineEnds.eq_2 rest single] at before
      rw [eq_nil_of_prefix_lineFeed oneLine before]
      exact List.nil_prefix
  | case3 c rest paired other ih =>
      rw [unifyLineEnds.eq_3 c rest paired other] at before
      rcases List.prefix_cons_iff.mp before with rfl | ⟨later, rfl, behind⟩
      · exact List.nil_prefix
      · rw [List.mem_cons, not_or] at oneLine
        exact List.cons_prefix_cons.mpr ⟨rfl, ih oneLine.2 behind⟩
  | case4 => exact before

/-- Text on one line that is read was written so. -/
theorem infix_of_infix_unifyLineEnds (oneLine : '\n' ∉ piece)
    (inside : piece <:+: unifyLineEnds chars) : piece <:+: chars := by
  induction chars using unifyLineEnds.induct with
  | case1 rest ih =>
      rw [unifyLineEnds] at inside
      rcases List.infix_cons_iff.mp inside with before | inside
      · rw [eq_nil_of_prefix_lineFeed oneLine before]
        exact List.nil_infix
      · exact List.infix_cons (List.infix_cons (ih inside))
  | case2 rest single ih =>
      rw [unifyLineEnds.eq_2 rest single] at inside
      rcases List.infix_cons_iff.mp inside with before | inside
      · rw [eq_nil_of_prefix_lineFeed oneLine before]
        exact List.nil_infix
      · exact List.infix_cons (ih inside)
  | case3 c rest paired other ih =>
      have whole := unifyLineEnds.eq_3 c rest paired other
      rw [whole] at inside
      rcases List.infix_cons_iff.mp inside with before | inside
      · rw [← whole] at before
        exact (prefix_of_prefix_unifyLineEnds oneLine before).isInfix
      · exact List.infix_cons (ih inside)
  | case4 => exact inside

end PlainScript.File
