/-
Filling in placeholders: in a text that is woven of placeholders and of characters between them,
test data are put in for the placeholders that spell a key in capitals, and the others are left.
-/

import PlainScript.Proofs.Text.Caseless
import PlainScript.Proofs.Text.Occurrence
import PlainScript.TestData.Placeholder

namespace PlainScript

namespace Placeholder

/-! Woven texts -/

/-- The name can stand between doubled braces. -/
structure IsName (name : List Char) : Prop where
  nonempty : name ≠ []
  opens : '{' ∉ name
  closes : '}' ∉ name

/-- The text is woven of the placeholders with these names and of characters between them. Braces
are doubled in placeholders only. -/
inductive Woven : List (List Char) → List Char → Prop
  | nil : Woven [] []
  | char {c : Char} {names : List (List Char)} {chars : List Char} (other : c ≠ '{')
      (rest : Woven names chars) : Woven names (c :: chars)
  | brace {c : Char} {names : List (List Char)} {chars : List Char} (other : c ≠ '{')
      (rest : Woven names chars) : Woven names ('{' :: c :: chars)
  | placeholder {name : List Char} {names : List (List Char)} {chars : List Char}
      (isName : IsName name) (rest : Woven names chars) :
      Woven (name :: names) ('{' :: '{' :: name ++ '}' :: '}' :: chars)

variable {name key value chars : List Char} {names : List (List Char)}

theorem Woven.append {others : List (List Char)} {more : List Char} (first : Woven names chars)
    (second : Woven others more) : Woven (names ++ others) (chars ++ more) := by
  induction first with
  | nil => exact second
  | char other _ ih => exact .char other ih
  | brace other _ ih => exact .brace other ih
  | placeholder isName _ ih => simpa using Woven.placeholder isName ih

/-- A text without opening braces has no placeholder. -/
theorem woven_of_notMem (absent : '{' ∉ chars) : Woven [] chars := by
  induction chars with
  | nil => exact .nil
  | cons c chars ih =>
      rw [List.mem_cons, not_or] at absent
      exact .char (Ne.symm absent.1) (ih absent.2)

/-! Names -/

theorem nameAt?_eq_none {c : Char} (other : c ≠ '{') (chars : List Char) :
    nameAt? (c :: chars) = none ∧ nameAt? ('{' :: c :: chars) = none := by
  simp [nameAt?, opening, List.isPrefixOf, Ne.symm other]

/-- All up to the first closing brace. -/
theorem takeWhile_unclosed (closes : '}' ∉ name) (chars : List Char) :
    (name ++ '}' :: chars).takeWhile (· != '}') = name := by
  have unclosed : ∀ c ∈ name, (c != '}') = true := by
    intro c member
    rw [bne_iff_ne]
    exact fun same => closes (same ▸ member)
  rw [List.takeWhile_append_of_pos unclosed, List.takeWhile_cons_of_neg (by decide),
    List.append_nil]

/-- A placeholder is read up to its first closing brace. -/
theorem nameAt?_placeholder (isName : IsName name) (chars : List Char) :
    nameAt? ('{' :: '{' :: name ++ '}' :: '}' :: chars) = some name := by
  have read := takeWhile_unclosed isName.closes ('}' :: chars)
  have after : ('{' :: '{' :: (name ++ '}' :: '}' :: chars)).drop (2 + name.length) =
      '}' :: '}' :: chars := by
    rw [Nat.add_comm]
    exact List.drop_left
  have nonempty : name.isEmpty = false := by simpa using isName.nonempty
  simp [nameAt?, opening, closing, List.isPrefixOf, read, after, nonempty]

theorem namesFrom_length_append (front back : List Char) :
    namesFrom front.length (front ++ back) = namesFrom 0 back := by
  induction front with
  | nil => rfl
  | cons c front ih => exact ih

/-- The names of a woven text are found as they are. -/
theorem Woven.namesFrom_eq (woven : Woven names chars) : namesFrom 0 chars = names := by
  induction woven with
  | nil => rfl
  | char other _ ih =>
      rw [namesFrom, (nameAt?_eq_none other _).1]
      exact ih
  | brace other _ ih =>
      rw [namesFrom, (nameAt?_eq_none other _).2]
      dsimp only
      rw [namesFrom, (nameAt?_eq_none other _).1]
      exact ih
  | @placeholder name names chars isName _ ih =>
      have rest := namesFrom_length_append ('{' :: name ++ ['}', '}']) chars
      have length : ('{' :: name ++ ['}', '}']).length = name.length + 3 := by simp
      have same : '{' :: name ++ ['}', '}'] ++ chars = '{' :: name ++ '}' :: '}' :: chars := by simp
      rw [List.cons_append, namesFrom, ← List.cons_append, nameAt?_placeholder isName]
      dsimp only
      rw [← same, ← length, rest, ih]

theorem names_eq_map {text : String} (woven : Woven names text.toList) :
    Placeholder.names text = names.map .ofList := by
  rw [Placeholder.names, woven.namesFrom_eq]

/-! Putting in a value -/

/-- A value is put in for the placeholder of its key, in capitals. -/
theorem replace_ofKey (text key value : String) :
    Text.replace text (ofKey key) value =
      .ofList (Chars.replaceFrom (opening ++ (Text.upper key).toList ++ closing) value.toList 0
        text.toList) := by
  rw [Text.replace, Chars.replace, ofKey, String.toList_ofList, if_neg (by simp [opening])]

/-- A placeholder with another name does not begin with the placeholder of the key. -/
theorem name_eq_of_begins (unclosed : '}' ∉ name) (closes : '}' ∉ key)
    (before : opening ++ key ++ closing <+: '{' :: '{' :: name ++ '}' :: '}' :: chars) :
    name = key := by
  obtain ⟨after, same⟩ := before
  have same' : key ++ '}' :: '}' :: after = name ++ '}' :: '}' :: chars := by
    simpa [opening, closing] using same
  have read := congrArg (List.takeWhile (· != '}')) same'
  rw [takeWhile_unclosed closes, takeWhile_unclosed unclosed] at read
  exact read.symm

theorem isPrefixOf_eq_false {c : Char} (other : c ≠ '{') (key rest : List Char) :
    (opening ++ key ++ closing).isPrefixOf (c :: rest) = false ∧
      (opening ++ key ++ closing).isPrefixOf ('{' :: c :: rest) = false := by
  simp [opening, List.isPrefixOf, Ne.symm other]

/-- The placeholders of other keys are left. -/
theorem replaceFrom_placeholder_of_ne (unopened : '{' ∉ name) (unclosed : '}' ∉ name)
    (closes : '}' ∉ key) (other : name ≠ key) (value chars : List Char) :
    Chars.replaceFrom (opening ++ key ++ closing) value 0
        ('{' :: '{' :: name ++ '}' :: '}' :: chars) =
      '{' :: '{' :: name ++ '}' :: '}' ::
        Chars.replaceFrom (opening ++ key ++ closing) value 0 chars := by
  -- Neither brace begins the placeholder of the key, and no brace opens after them.
  have first : (opening ++ key ++ closing).isPrefixOf
      ('{' :: '{' :: name ++ '}' :: '}' :: chars) = false := by
    rw [Bool.eq_false_iff, Ne, List.isPrefixOf_iff_prefix]
    exact fun before => other (name_eq_of_begins unclosed closes before)
  have second : (opening ++ key ++ closing).isPrefixOf
      ('{' :: name ++ '}' :: '}' :: chars) = false := by
    cases name with
    | nil => exact (isPrefixOf_eq_false (by decide) key _).2
    | cons c rest =>
        exact (isPrefixOf_eq_false (fun opens => unopened (opens ▸ List.mem_cons_self)) key _).2
  have foreign : '{' ∉ name ++ ['}', '}'] := by simpa using unopened
  have text : name ++ '}' :: '}' :: chars = name ++ ['}', '}'] ++ chars := by simp
  have begins : (opening ++ key ++ closing).head? = some '{' := rfl
  simp only [List.cons_append] at first second
  simp only [List.cons_append, Chars.replaceFrom, first, second, Bool.false_eq_true, if_false]
  rw [text, Chars.replaceFrom_front_append begins foreign, List.append_assoc]
  rfl

/-- Putting in a value without placeholders takes the placeholders of the key, and leaves a woven
text. -/
theorem Woven.replaceFrom (woven : Woven names chars) (closes : '}' ∉ key)
    (plain : Woven [] value) :
    Woven (names.filter fun name => name != key)
      (Chars.replaceFrom (opening ++ key ++ closing) value 0 chars) := by
  induction woven with
  | nil => exact .nil
  | char other _ ih =>
      rw [Chars.replaceFrom, (isPrefixOf_eq_false other key _).1, if_neg Bool.false_ne_true]
      exact .char other ih
  | brace other _ ih =>
      rw [Chars.replaceFrom, (isPrefixOf_eq_false other key _).2, if_neg Bool.false_ne_true,
        Chars.replaceFrom, (isPrefixOf_eq_false other key _).1, if_neg Bool.false_ne_true]
      exact .brace other ih
  | @placeholder name names chars isName _ ih =>
      by_cases same : name = key
      · subst same
        have text : '{' :: '{' :: name ++ '}' :: '}' :: chars =
            opening ++ name ++ closing ++ chars := by
          simp [opening, closing]
        rw [text, Chars.replaceFrom_piece_append (by simp [opening]),
          List.filter_cons_of_neg (by simp)]
        exact plain.append ih
      · rw [replaceFrom_placeholder_of_ne isName.opens isName.closes closes same,
          List.filter_cons_of_pos (by simpa using same)]
        exact .placeholder isName ih

end Placeholder

namespace TestData

open Placeholder

/-- The entry has a key that can stand in a placeholder and a value without placeholders. -/
structure CanFill (entry : String × String) : Prop where
  key : '}' ∉ entry.1.toList
  value : Woven [] entry.2.toList

/-- Of a woven text the placeholders are left that spell no key of the entries in capitals. -/
theorem woven_fillFrom {names : List (List Char)} {text : String} (woven : Woven names text.toList)
    {entries : List (String × String)} (canFill : ∀ entry ∈ entries, CanFill entry) :
    Woven (names.filter fun name =>
        entries.all fun entry => name != (Text.upper entry.1).toList)
      (fillFrom text entries).toList := by
  induction entries generalizing names text with
  | nil => simpa [fillFrom] using woven
  | cons entry entries ih =>
      rw [List.forall_mem_cons] at canFill
      have closes : '}' ∉ (Text.upper entry.1).toList := by
        rw [Text.upper, String.toList_ofList]
        exact Chars.notMem_upper (Text.isCaseless_separators '}' (by simp)) canFill.1.key
      have replaced : Woven (names.filter fun name => name != (Text.upper entry.1).toList)
          (Text.replace text (ofKey entry.1) entry.2).toList := by
        rw [replace_ofKey, String.toList_ofList]
        exact woven.replaceFrom closes canFill.1.value
      have filled := ih replaced canFill.2
      have kept : (names.filter fun name => name != (Text.upper entry.1).toList).filter
          (fun name => entries.all fun entry => name != (Text.upper entry.1).toList) =
          names.filter fun name =>
            (entry :: entries).all fun entry => name != (Text.upper entry.1).toList := by
        rw [List.filter_filter]
        refine List.filter_congr fun name _ => ?_
        rw [List.all_cons, Bool.and_comm]
      rw [kept] at filled
      rw [fillFrom, List.foldl_cons, ← fillFrom]
      exact filled

/-- Whether a key of the variables or of the valid data spells the name in capitals. -/
def fills (data : TestData) (name : String) : Bool :=
  (data.globals ++ data.entries .valid).any fun entry => Text.upper entry.1 == name

/-- Of a woven text the placeholders are left that spell no key in capitals. -/
theorem names_fill {data : TestData} {names : List (List Char)} {text : String}
    (woven : Woven names text.toList)
    (canFill : ∀ entry ∈ data.globals ++ data.entries .valid, CanFill entry) :
    Placeholder.names (data.fill .valid text) =
      (Placeholder.names text).filter fun name => !data.fills name := by
  have filled := woven_fillFrom woven canFill
  have both : fillFrom text (data.globals ++ data.entries .valid) = data.fill .valid text := by
    rw [fill, fillFrom, fillFrom, fillFrom, List.foldl_append]
  rw [both] at filled
  rw [names_eq_map filled, names_eq_map woven, List.filter_map]
  refine congrArg (List.map String.ofList) (List.filter_congr fun name _ => ?_)
  rw [Function.comp_apply, fills, List.not_any_eq_all_not]
  refine congrArg _ (funext fun entry => ?_)
  rw [Bool.eq_iff_iff, bne_iff_ne, Bool.not_eq_true', beq_eq_false_iff_ne]
  exact not_congr ⟨fun same => by rw [same, String.ofList_toList],
    fun same => by rw [same, String.toList_ofList]⟩

end TestData

end PlainScript
