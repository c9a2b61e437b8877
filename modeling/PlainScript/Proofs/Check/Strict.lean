/-
What a passed check says of the code: the values stand in its statements, and nothing in it is
unfinished.
-/

import PlainScript.Check.Strict
import PlainScript.Proofs.Check.Clean
import PlainScript.Proofs.Check.Masking
import PlainScript.Proofs.Text.Pieces

namespace PlainScript.Strict

/-! Unfinished code -/

/-- The check finds gaps exactly in unfinished code. -/
theorem gaps_eq_nil_iff (code : String) : gaps code = [] ↔ ¬ Unfinished code := by
  have markers : Order.sort (fun first second : String => decide (first ≤ second))
      (Marker.findAll code).eraseDups = [] ↔ ¬ Marker.Stands code.toList := by
    rw [← Marker.findAll_eq_nil_iff]
    simp [List.eq_nil_iff_forall_not_mem]
  have tags : (if Text.contains code Unresolved.tag then [Gap.unresolvedSelector] else []) = [] ↔
      ¬ Unresolved.tag.toList <:+: code.toList := by
    rw [← Text.contains_eq_false_iff]
    cases Text.contains code Unresolved.tag <;> simp
  rw [gaps, List.append_eq_nil_iff, List.map_eq_nil_iff, markers, tags, Unfinished, not_or]
  exact and_comm

/-! Values in the code -/

/-- The value stands in one line of the code that is no comment. -/
def ShownIn (code value : String) : Prop :=
  ∃ line ∈ Chars.lines code.toList, isComment line = false ∧ value.toList <:+: line

/-- A line whose first character, spaces apart, is a letter is no comment. -/
theorem isComment_eq_false {front : List Char}
    (begins : (Chars.trimLeft front).head?.any Char.isAlpha = true) (back : List Char) :
    isComment (front ++ back) = false := by
  obtain ⟨c, head, letter⟩ := (Option.any_eq_true _ _).mp begins
  obtain ⟨rest, same⟩ := List.head?_eq_some_iff.mp head
  have whole : Chars.trimLeft (front ++ back) = c :: (rest ++ back) := by
    rw [Chars.trimLeft] at same ⊢
    rw [List.dropWhile_append, same]
    rfl
  have other : c ≠ '/' ∧ c ≠ '#' := by
    constructor <;>
    · rintro rfl
      exact absurd letter (by decide)
  simp [isComment, whole, List.isPrefixOf, other.1.symm, other.2.symm]

/-- The characters of the statements: the lines that are no comments, one below the other. -/
theorem toList_statements (code : String) :
    (statements code).toList =
      ['\n'].intercalate ((Chars.lines code.toList).filter fun line => !isComment line) := by
  rw [statements, String.toList_ofList]

/-- What stands in the statements and on one line stands in a line that is no comment. -/
theorem shownIn_of_infix_statements {code value : String} (nonempty : value.toList ≠ [])
    (oneLine : '\n' ∉ value.toList) (inside : value.toList <:+: (statements code).toList) :
    ShownIn code value := by
  have guarded := Chars.guards_singleton nonempty oneLine
  rw [toList_statements, Chars.infix_intercalate_iff nonempty guarded] at inside
  obtain ⟨line, member, inLine⟩ := inside
  rw [List.mem_filter, Bool.not_eq_true'] at member
  exact ⟨line, member.1, member.2, inLine⟩

/-- A value without blanks that the check has found is shown in the code. -/
theorem shownIn_of_missing_eq_nil {instruction code : String} {values : List (String × String)}
    (found : missing (body instruction code) values = []) {value : String × String}
    (member : value ∈ values) (nonempty : value.2 ≠ "")
    (unbroken : ∀ c ∈ value.2.toList, Text.isBlank c = false) : ShownIn code value.2 := by
  have spaceless : ' ' ∉ value.2.toList := fun inside => by
    simpa [Text.isBlank] using unbroken ' ' inside
  have oneLine : '\n' ∉ value.2.toList := fun inside => by
    simpa [Text.isBlank] using unbroken '\n' inside
  have inBody : value.2.toList <:+: (body instruction code).toList := by
    rw [missing, List.map_eq_nil_iff, List.filter_eq_nil_iff] at found
    simpa [← Text.contains_iff_infix] using found value member
  exact shownIn_of_infix_statements (by simpa using nonempty) oneLine
    (Masking.infix_of_infix_mask spaceless inBody)

/-! Verdicts -/

/-- A check without deviations misses no value. -/
theorem missing_eq_nil_of_check {instruction code : String} {values : List (String × String)}
    {context : List String} (passed : (check instruction code values context).deviations = []) :
    missing (body instruction code) values = [] :=
  (List.append_eq_nil_iff.mp passed).1

/-- The gaps of a verdict are those of the code. -/
theorem gaps_verdict (text code : String) (values : List (String × String)) (locks : List Lock)
    (context : List String) : (verdict text code values locks context).gaps = gaps code := by
  rw [verdict]
  split
  · rfl
  · exact List.append_nil _

/-- A verdict without deviations misses neither a value nor the value of a lock. -/
theorem missing_eq_nil_of_verdict {text code : String} {values : List (String × String)}
    {locks : List Lock} {context : List String}
    (passed : (verdict text code values locks context).deviations = []) :
    missing (body text code) values = [] ∧ missing (body text code) (lockValues locks) = [] := by
  rw [verdict] at passed
  split at passed
  · rename_i none
    refine ⟨missing_eq_nil_of_check passed, ?_⟩
    simp [List.isEmpty_iff.mp none, lockValues, missing]
  · obtain ⟨byValues, byLocks⟩ := List.append_eq_nil_iff.mp passed
    exact ⟨missing_eq_nil_of_check byValues,
      missing_eq_nil_of_check (List.append_eq_nil_iff.mp byLocks).1⟩

/-- Nothing is incomplete exactly when every lock that holds has a value that is filled in. -/
theorem incomplete_gaps_eq_nil_iff (locks : List Lock) :
    (incomplete locks).gaps = [] ↔ ∀ lock ∈ locks, lock.isLocked = true →
      lock.value ≠ "" ∧ Text.contains lock.value "<" = false ∧
        Text.contains lock.value "TODO" = false := by
  simp [incomplete, List.filter_eq_nil_iff, String.isEmpty_iff, and_assoc]

/-! Verdicts on characters -/

/-- The characters of the code that counts. -/
def bodyChars (instruction : String) (code : List Char) : List Char :=
  Masking.maskChars (['\n'].intercalate ((Chars.lines code).filter fun line => !isComment line))
    ((titles instruction).map String.toList)

theorem toList_body (instruction code : String) :
    (body instruction code).toList = bodyChars instruction code.toList := by
  rw [body, Masking.mask, String.toList_ofList, toList_statements, bodyChars]

/-- Whether the check finds nothing in the characters that count. -/
def isClean (body : List Char) (values : List (String × String)) (context : List String) : Bool :=
  let scanned := Masking.maskChars body ((values.map (·.2) ++ context).map String.toList)
  (values.all fun value => Chars.contains value.2.toList body) &&
    (forbidden ++ placeholders).all fun token => !Chars.contains token.toList scanned

theorem deviations_check_eq_nil_iff (instruction code : String) (values : List (String × String))
    (context : List String) : (check instruction code values context).deviations = [] ↔
      isClean (bodyChars instruction code.toList) values context = true := by
  simp [check, missing, additions, isClean, Text.contains, Masking.mask, toList_body,
    List.filter_eq_nil_iff]

/-- Without locks a verdict finds nothing if the characters are finished and clean. -/
theorem verdict_eq_nil {instruction code : String} {values : List (String × String)}
    {context : List String} (unmarked : Marker.findFrom 0 code.toList = [])
    (untagged : Chars.contains Unresolved.tag.toList code.toList = false)
    (clean : isClean (bodyChars instruction code.toList) values context = true) :
    verdict instruction code values [] context = ⟨[], []⟩ := by
  have finished : gaps code = [] := by
    simp [gaps, Marker.findAll, unmarked, Text.contains, untagged, Order.sort]
  have clean := (deviations_check_eq_nil_iff instruction code values context).mpr clean
  rw [verdict, List.isEmpty_nil, if_pos rfl, ← clean, ← finished]
  rfl

end PlainScript.Strict
