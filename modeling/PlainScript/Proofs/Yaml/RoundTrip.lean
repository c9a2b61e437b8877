/-
A document that is written is read back, if it does not nest too deeply. Its texts may be folded over
lines and its lists may stand below their keys; the reader sees neither.
-/

import PlainScript.Proofs.Yaml.Node

namespace PlainScript.Yaml

/-! Levels -/

/-- A document nests within so many levels. -/
def NestsWithin (levels : Nat) (value : Value) : Prop := (nodeOf value).isWithin levels = true

section Levels

variable {levels : Nat}

theorem nestsWithin_scalar {value : Value} {tag : Tag} {content : String}
    (node : nodeOf value = .scalar tag content) : NestsWithin levels value := by
  rw [NestsWithin, node, Node.isWithin]

theorem nestsWithin_text (content : String) : NestsWithin levels (.text content) :=
  nestsWithin_scalar rfl

theorem nestsWithin_list {items : List Value} (parts : ∀ item ∈ items, NestsWithin levels item) :
    NestsWithin (levels + 1) (.list items) := by
  change (nodesOf items).all (Node.isWithin levels) = true
  induction items with
  | nil => rfl
  | cons item items ih =>
      rw [List.forall_mem_cons] at parts
      rw [nodesOf, List.all_cons, Bool.and_eq_true]
      exact ⟨parts.1, ih parts.2⟩

theorem nestsWithin_ofFields {fields : List (String × Value)}
    (parts : ∀ field ∈ fields, NestsWithin levels field.2) :
    NestsWithin (levels + 1) (.ofFields fields) := by
  change (entryNodes (Value.entriesOf fields)).all
    (fun entry => entry.1.isWithin levels && entry.2.isWithin levels) = true
  induction fields with
  | nil => rfl
  | cons field fields ih =>
      rw [List.forall_mem_cons] at parts
      change ((Node.isWithin levels (.scalar .text _) && (nodeOf field.2).isWithin levels) &&
        (entryNodes (Value.entriesOf fields)).all _) = true
      rw [Node.isWithin, Bool.true_and, Bool.and_eq_true]
      exact ⟨parts.1, ih parts.2⟩

end Levels

/-! Values -/

/-- A document is the value of its node. -/
def IsValue (value : Value) : Prop := valueOf (nodeOf value) = .ok value

theorem isValue_scalar {value : Value} {tag : Tag} {content : String}
    (node : nodeOf value = .scalar tag content) (read : scalarValue tag content = .ok value) :
    IsValue value := by
  rw [IsValue, node, valueOf, read]

theorem isValue_list {items : List Value} (values : ∀ item ∈ items, IsValue item) :
    IsValue (.list items) := by
  have read : valuesOf (nodesOf items) = .ok items := by
    induction items with
    | nil => rw [nodesOf, valuesOf]
    | cons item items ih =>
        rw [List.forall_mem_cons] at values
        rw [nodesOf, valuesOf, values.1, ih values.2]
        rfl
  change valueOf (.list .list (nodesOf items)) = .ok (.list items)
  rw [valueOf, read]
  rfl

theorem entriesOf_entryNodes {fields : List (String × Value)}
    (values : ∀ field ∈ fields, IsValue field.2) :
    entriesOf (entryNodes (Value.entriesOf fields)) = .ok ([], Value.entriesOf fields) := by
  induction fields with
  | nil => rw [Value.entriesOf, List.map_nil, entryNodes, entriesOf]
  | cons field fields ih =>
      rw [List.forall_mem_cons] at values
      have key : keyOf (.scalar .text field.1) = .ok (.text field.1) := by
        rw [keyOf, valueOf]
        · rfl
        · rintro _ ⟨⟩
      rw [Value.entriesOf, List.map_cons, ← Value.entriesOf, entryNodes, keyText,
        String.ofList_toList, entriesOf, if_neg Tag.noConfusion, key, values.1, ih values.2]
      rfl

theorem isValue_record {fields : List (String × Value)} (distinct : (fields.map Prod.fst).Nodup)
    (values : ∀ field ∈ fields, IsValue field.2) : IsValue (.ofFields fields) := by
  change valueOf (.record .record (entryNodes (Value.entriesOf fields))) = .ok (.ofFields fields)
  rw [valueOf, entriesOf_entryNodes values]
  change Except.ok (Value.record (putAll ([] ++ Value.entriesOf fields))) = _
  rw [List.nil_append, Value.putAll_entriesOf distinct]
  rfl

theorem IsDocument.isValue {value : Value} (document : IsDocument value) : IsValue value := by
  induction document with
  | null => exact isValue_scalar rfl rfl
  | bool truth => exact isValue_scalar rfl (by cases truth <;> rfl)
  | text content basic => exact isValue_scalar rfl rfl
  | list items parts ih => exact isValue_list ih
  | record fields distinct basic parts ih => exact isValue_record distinct ih

/-- What is written for a record of printable fields is read back as that record. -/
theorem read_write {fields : List (String × Value)} (filled : fields ≠ [])
    (holds : HoldsDocuments fields) (within : NestsWithin mostLevels (.ofFields fields)) :
    read (write (.ofFields fields)) = .ok (.ofFields fields) := by
  obtain ⟨field, fields, rfl⟩ := List.exists_cons_of_ne_nil filled
  have shallow : (nodeOf (.ofFields (field :: fields))).isWithin mostLevels = true := within
  rw [read, tokens_write holds]
  change Except.mapError _ (ofNode (Node.ofTokens? _)) = _
  rw [ofTokens?_valueTokens holds.isDocument, ofNode, if_pos shallow, holds.isDocument.isValue]
  rfl

end PlainScript.Yaml
