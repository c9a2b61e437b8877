/-
Names of calls in texts. A requirement is met by any text that holds one of its names, and so a
joined text meets those that its parts meet, where no name can cross the joints.
-/

import PlainScript.Check.Compliance
import PlainScript.Proofs.Literal.Weft
import PlainScript.Proofs.Number.Text

namespace PlainScript

open Literal

namespace Requirement

/-- The names of the calls, by their characters. -/
def names : Requirement → List (List Char)
  | navigation =>
      [['p', 'a', 'g', 'e', '.', 'g', 'o', 't', 'o'], ['c', 'y', '.', 'v', 'i', 's', 'i', 't'],
        ['d', 'r', 'i', 'v', 'e', 'r', '.', 'g', 'e', 't']]
  | filling =>
      [['.', 'f', 'i', 'l', 'l', '('], ['.', 't', 'y', 'p', 'e', '('],
        ['s', 'e', 'n', 'd', '_', 'k', 'e', 'y', 's'], ['s', 'e', 'n', 'd', 'K', 'e', 'y', 's']]
  | clicking => [['c', 'l', 'i', 'c', 'k']]
  | assertion =>
      [['e', 'x', 'p', 'e', 'c', 't'], ['a', 's', 's', 'e', 'r', 't'],
        ['.', 's', 'h', 'o', 'u', 'l', 'd', '(']]

theorem map_toList_calls (requirement : Requirement) :
    requirement.calls.map String.toList = requirement.names := by
  cases requirement <;> rfl

/-- A requirement is met where one of its names stands. -/
theorem isMet_iff (requirement : Requirement) (text : String) :
    requirement.isMet text = true ↔ ∃ name ∈ requirement.names, name <:+: text.toList := by
  simp only [isMet, List.any_eq_true, Text.contains_iff_infix, ← map_toList_calls, List.mem_map,
    exists_exists_and_eq_and]

/-- Names are plain, and none begins with a character of an escape. -/
theorem plain_of_mem_names {requirement : Requirement} {name : List Char}
    (member : name ∈ requirement.names) :
    name ≠ [] ∧ isPlain name = true ∧ name.head? ≠ some 'n' := by
  have all : ∀ requirement : Requirement, ∀ name ∈ requirement.names,
      name ≠ [] ∧ isPlain name = true ∧ name.head? ≠ some 'n' := by
    intro requirement
    cases requirement <;> decide
  exact all requirement name member

/-- The names that requirements other than the given one look for. -/
def namesBut (own : Option Requirement) : List (List Char) :=
  ([navigation, filling, clicking, assertion].filter fun other => own ≠ some other).flatMap names

theorem mem_namesBut {own : Option Requirement} {requirement : Requirement}
    (other : own ≠ some requirement) {name : List Char} (member : name ∈ requirement.names) :
    name ∈ namesBut own := by
  refine List.mem_flatMap.mpr ⟨requirement, List.mem_filter.mpr ⟨?_, by simpa using other⟩, member⟩
  cases requirement <;> decide

theorem mem_namesBut_none {requirement : Requirement} {name : List Char}
    (member : name ∈ requirement.names) : name ∈ namesBut none :=
  mem_namesBut (Option.some_ne_none _).symm member

/-- None of these names stands in the text. -/
abbrev isSilentBut (own : Option Requirement) (text : String) : Bool :=
  (namesBut own).all fun name => !Chars.contains name text.toList

/-- No name goes on behind the end of the text. -/
abbrev isClosed (text : String) : Bool :=
  (namesBut none).all fun name => Chars.closes name text.toList

/-- No name that begins before the text goes on in it. -/
abbrev isOpened (text : String) : Bool :=
  (namesBut none).all fun name => Chars.opens name text.toList

/-- Nothing of a name stands at either end of the text, nor the whole of it inside. -/
abbrev isSeparator (text : String) : Bool :=
  (namesBut none).all fun name => Chars.guards name text.toList

/-- Nothing of a name stands at the end of the text, nor the whole of it inside. -/
abbrev isFront (text : String) : Bool :=
  isClosed text && isSilentBut none text

/-- Nothing of a name stands at the beginning of the text, nor the whole of it inside. -/
abbrev isBack (text : String) : Bool :=
  isOpened text && isSilentBut none text

/-! Written texts are judged by their characters -/

theorem silent_ofList {own : Option Requirement} {chars : List Char}
    (absent : ((namesBut own).all fun name => !Chars.contains name chars) = true) :
    isSilentBut own (.ofList chars) = true := by
  rwa [isSilentBut, String.toList_ofList]

theorem silent_append_ofList {own : Option Requirement} {front back : List Char}
    (absent : ((namesBut own).all fun name => !Chars.contains name (front ++ back)) = true) :
    isSilentBut own (.ofList front ++ .ofList back) = true := by
  rwa [isSilentBut, String.toList_append, String.toList_ofList, String.toList_ofList]

theorem front_ofList {chars : List Char}
    (judged : (((namesBut none).all fun name => Chars.closes name chars) &&
      (namesBut none).all fun name => !Chars.contains name chars) = true) :
    isFront (.ofList chars) = true := by
  rwa [isFront, isClosed, isSilentBut, String.toList_ofList]

theorem back_ofList {chars : List Char}
    (judged : (((namesBut none).all fun name => Chars.opens name chars) &&
      (namesBut none).all fun name => !Chars.contains name chars) = true) :
    isBack (.ofList chars) = true := by
  rwa [isBack, isOpened, isSilentBut, String.toList_ofList]

theorem back_append_ofList {front back : List Char}
    (judged : (((namesBut none).all fun name => Chars.opens name (front ++ back)) &&
      (namesBut none).all fun name => !Chars.contains name (front ++ back)) = true) :
    isBack (.ofList front ++ .ofList back) = true := by
  rwa [isBack, isOpened, isSilentBut, String.toList_append, String.toList_ofList,
    String.toList_ofList]

theorem judged_ofList {judge : List Char → List Char → Bool} {chars : List Char}
    (judged : ((namesBut none).all fun name => judge name chars) = true) :
    ((namesBut none).all fun name => judge name (String.ofList chars).toList) = true := by
  rwa [String.toList_ofList]

variable {requirement : Requirement} {left right text : String}

theorem isMet_eq_false {own : Option Requirement} (silent : isSilentBut own text = true)
    (other : own ≠ some requirement) : requirement.isMet text = false := by
  rw [← Bool.not_eq_true, isMet_iff]
  rintro ⟨name, member, inside⟩
  have absent := List.all_eq_true.mp silent name (mem_namesBut other member)
  rw [(Chars.contains_iff_infix name text.toList).mpr inside] at absent
  cases absent

theorem isMet_eq_false_of_silent (silent : isSilentBut none text = true) :
    requirement.isMet text = false :=
  isMet_eq_false silent (Option.some_ne_none _).symm

/-- A text meets no other requirements than those that its parts meet, nor fewer, if each name
that stands in it stands in a part. -/
theorem isMet_eq_any {parts : List String} (seams : ∀ name ∈ requirement.names,
      name <:+: text.toList ↔ ∃ part ∈ parts, name <:+: part.toList) :
    requirement.isMet text = parts.any requirement.isMet := by
  rw [Bool.eq_iff_iff, List.any_eq_true]
  simp only [isMet_iff]
  constructor
  · rintro ⟨name, member, inside⟩
    obtain ⟨part, listed, inPart⟩ := (seams name member).mp inside
    exact ⟨part, listed, name, member, inPart⟩
  · rintro ⟨part, listed, name, member, inPart⟩
    exact ⟨name, member, (seams name member).mpr ⟨part, listed, inPart⟩⟩

/-- Where no name crosses the joint, the parts decide. -/
theorem isMet_append (parted : ∀ name ∈ requirement.names,
      Chars.closes name left.toList = true ∨ Chars.opens name right.toList = true) :
    requirement.isMet (left ++ right) = (requirement.isMet left || requirement.isMet right) := by
  have parts : requirement.isMet (left ++ right) = [left, right].any requirement.isMet := by
    refine isMet_eq_any fun name member => ?_
    rw [String.toList_append, Chars.infix_append_iff_of_closes_or_opens (parted name member)]
    simp
  rw [parts, List.any_cons, List.any_cons, List.any_nil, Bool.or_false]

theorem isMet_closed_append (closed : isClosed left = true) :
    requirement.isMet (left ++ right) = (requirement.isMet left || requirement.isMet right) :=
  isMet_append fun name member =>
    .inl (List.all_eq_true.mp closed name (mem_namesBut_none member))

theorem isMet_front_append (front : isFront left = true) :
    requirement.isMet (left ++ right) = requirement.isMet right := by
  rw [isFront, Bool.and_eq_true] at front
  rw [isMet_closed_append front.1, isMet_eq_false_of_silent front.2, Bool.false_or]

theorem isMet_append_back (back : isBack right = true) :
    requirement.isMet (left ++ right) = requirement.isMet left := by
  rw [isBack, Bool.and_eq_true] at back
  have parted : requirement.isMet (left ++ right) =
      (requirement.isMet left || requirement.isMet right) :=
    isMet_append fun name member =>
      .inr (List.all_eq_true.mp back.1 name (mem_namesBut_none member))
  rw [parted, isMet_eq_false_of_silent back.2, Bool.or_false]

/-- Behind a text without dots an opening bracket begins anew: the names that it is part of begin
with a dot. -/
theorem isMet_dotless_append (dotless : '.' ∉ left.toList)
    (opened : ((namesBut none).all fun name => Chars.opensWord name right.toList) = true) :
    requirement.isMet (left ++ right) = (requirement.isMet left || requirement.isMet right) := by
  have parts : requirement.isMet (left ++ right) = [left, right].any requirement.isMet := by
    refine isMet_eq_any fun name member => ?_
    have word := List.all_eq_true.mp opened name (mem_namesBut_none member)
    rw [Chars.opensWord, Bool.or_eq_true, beq_iff_eq] at word
    rw [String.toList_append]
    rcases word with dotted | opened
    · obtain ⟨rest, rfl⟩ := List.head?_eq_some_iff.mp dotted
      have absent : ¬ '.' :: rest <:+: left.toList := fun inside =>
        dotless (inside.subset List.mem_cons_self)
      rw [Chars.cons_infix_append_iff dotless]
      simp [absent]
    · rw [Chars.infix_append_iff_of_closes_or_opens (.inr opened)]
      simp
  rw [parts, List.any_cons, List.any_cons, List.any_nil, Bool.or_false]

/-- A separator parts what stands on its two sides. -/
theorem isMet_append_separator_append {separator : String}
    (guarded : isSeparator separator = true) :
    requirement.isMet (left ++ (separator ++ right)) =
      (requirement.isMet left || requirement.isMet right) := by
  have parts : requirement.isMet (left ++ (separator ++ right)) =
      [left, right].any requirement.isMet := by
    refine isMet_eq_any fun name member => ?_
    rw [← String.append_assoc, String.toList_append, String.toList_append,
      Chars.infix_append_guard_append_iff
        (List.all_eq_true.mp guarded name (mem_namesBut_none member))]
    simp
  rw [parts, List.any_cons, List.any_cons, List.any_nil, Bool.or_false]

/-- Every name has a character that no number is written with. -/
theorem isMet_eq_false_of_isNumeral (numeral : Number.IsNumeral text) :
    requirement.isMet text = false := by
  have other : ((namesBut none).all fun name => name.any fun c => !Number.isNumeral c) = true := by
    decide
  rw [← Bool.not_eq_true, isMet_iff]
  rintro ⟨name, member, inside⟩
  obtain ⟨c, inName, letter⟩ :=
    List.any_eq_true.mp (List.all_eq_true.mp other name (mem_namesBut_none member))
  rw [numeral c (inside.subset inName)] at letter
  cases letter

/-- Nothing crosses the delimiters of a literal. -/
theorem isMet_weave (asked : Mark) (words : String) (parts : List (String × String)) :
    requirement.isMet (.ofList (weave asked words parts)) =
      (requirement.isMet words ||
        parts.any fun part => requirement.isMet part.1 || requirement.isMet part.2) := by
  have listed : requirement.isMet (.ofList (weave asked words parts)) =
      (words :: parts.flatMap fun part => [part.1, part.2]).any requirement.isMet := by
    refine isMet_eq_any fun name member => ?_
    obtain ⟨nonempty, plain, start⟩ := plain_of_mem_names member
    rw [String.toList_ofList, infix_weave_iff nonempty plain start, List.exists_mem_cons_iff]
    refine or_congr_right ?_
    simp only [List.mem_flatMap, List.mem_cons, List.not_mem_nil, or_false]
    constructor
    · rintro ⟨part, inParts, inValue | inWords⟩
      exacts [⟨_, ⟨part, inParts, .inl rfl⟩, inValue⟩, ⟨_, ⟨part, inParts, .inr rfl⟩, inWords⟩]
    · rintro ⟨_, ⟨part, inParts, rfl | rfl⟩, inside⟩
      exacts [⟨part, inParts, .inl inside⟩, ⟨part, inParts, .inr inside⟩]
  rw [listed, List.any_cons, List.any_flatMap]
  simp

/-- Joined texts meet what one of them meets. -/
theorem isMet_intercalate {separator : String} (guarded : isSeparator separator = true)
    (parts : List String) :
    requirement.isMet (separator.intercalate parts) = parts.any requirement.isMet := by
  refine isMet_eq_any fun name member => ?_
  rw [String.toList_intercalate, Chars.infix_intercalate_iff (plain_of_mem_names member).1
    (List.all_eq_true.mp guarded name (mem_namesBut_none member))]
  simp

end Requirement

end PlainScript
