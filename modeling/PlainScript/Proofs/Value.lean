/-
Records of named fields: fields of different names are put into a record one behind the other, and
the numbers of a record are those of its fields.
-/

import PlainScript.Proofs.Computation
import PlainScript.Value.Display

namespace PlainScript.Value

/-- The entries of a record with the given fields. -/
def entriesOf (fields : List (String × Value)) : List (Value × Value) :=
  fields.map fun field => (.text field.1, field.2)

/-- An entry of a new name is put behind those before it. -/
theorem putEntry_entriesOf {before : List (String × Value)} {names : List String} {name : String}
    (distinct : (before.map Prod.fst ++ name :: names).Nodup) (value : Value) :
    putEntry (entriesOf before) (.text name) value = entriesOf (before ++ [(name, value)]) := by
  rw [List.nodup_append] at distinct
  have other : (entriesOf before).any (fun entry => entry.1.same (.text name)) = false := by
    rw [List.any_eq_false]
    intro entry member same
    obtain ⟨field, inside, rfl⟩ := List.mem_map.mp member
    rw [Value.same, beq_iff_eq] at same
    exact distinct.2.2 field.1 (List.mem_map_of_mem inside) name List.mem_cons_self same
  rw [putEntry, other]
  simp [entriesOf]

/-- Fields of different names stay as they are. -/
theorem putAll_entriesOf {fields : List (String × Value)}
    (distinct : (fields.map Prod.fst).Nodup) : putAll (entriesOf fields) = entriesOf fields := by
  have onward (before : List (String × Value)) (fields : List (String × Value))
      (distinct : (before.map Prod.fst ++ fields.map Prod.fst).Nodup) :
      (entriesOf fields).foldl (fun sofar entry => putEntry sofar entry.1 entry.2)
        (entriesOf before) = entriesOf (before ++ fields) := by
    induction fields generalizing before with
    | nil => rw [List.append_nil]; rfl
    | cons field fields ih =>
        rw [List.map_cons] at distinct
        change (entriesOf fields).foldl _ (putEntry (entriesOf before) (.text field.1) field.2) = _
        rw [putEntry_entriesOf distinct, ih _ (by simpa using distinct), List.append_assoc]
        rfl
  exact onward [] fields distinct

/-! Numbers that can be written -/

@[simp]
theorem hasShortNumbers_int (number : Int) :
    hasShortNumbers (.int number) = Number.isShort number := rfl

@[simp]
theorem hasShortNumbers_text (content : String) : hasShortNumbers (.text content) = true := rfl

@[simp]
theorem hasShortNumbers_float (number : Number.Double) :
    hasShortNumbers (.float number) = true := rfl

@[simp]
theorem hasShortNumbers_list (items : List Value) :
    hasShortNumbers (.list items) = items.all hasShortNumbers := by
  rw [hasShortNumbers]
  induction items with
  | nil => rw [haveShortNumbers, List.all_nil]
  | cons item items ih => rw [haveShortNumbers, List.all_cons, ih]

@[simp]
theorem hasShortNumbers_ofFields (fields : List (String × Value)) :
    hasShortNumbers (.ofFields fields) = fields.all fun field => hasShortNumbers field.2 := by
  rw [ofFields, hasShortNumbers]
  induction fields with
  | nil => rw [List.map_nil, entriesHaveShortNumbers, List.all_nil]
  | cons field fields ih =>
      rw [List.map_cons, entriesHaveShortNumbers, List.all_cons, hasShortNumbers_text, Bool.true_and]
      exact congrArg _ ih

/-- All that can keep a value from being told is the count of the digits. -/
theorem not_fails_tell {kind : Number.Unwritable → Prop} (other : ¬ kind .overlong)
    (value : Value) : ¬ Fails kind value.tell := by
  rw [tell]
  split
  · exact not_fails_ok
  · rwa [fails_error_iff]

end PlainScript.Value
