/-
The nodes that the tokens of a document build, and the value that they stand for. Every level takes
a bounded part of the fuel, so four steps for a token suffice.
-/

import PlainScript.Proofs.Yaml.Tokens
import PlainScript.Yaml.Reader

namespace PlainScript.Yaml

open Node

/-! Nodes of values -/

mutual

/-- The node of a document. -/
def nodeOf : Value → Node
  | .null => .scalar .null "null"
  | .bool truth => .scalar .bool (if truth then "true" else "false")
  | .text content => .scalar .text content
  | .list items => .list .list (nodesOf items)
  | .record entries => .record .record (entryNodes entries)
  | _ => Node.empty

def nodesOf : List Value → List Node
  | [] => []
  | item :: items => nodeOf item :: nodesOf items

def entryNodes : List (Value × Value) → List (Node × Node)
  | [] => []
  | (key, value) :: entries =>
      (.scalar .text (.ofList (keyText key)), nodeOf value) :: entryNodes entries

end

variable {handles : Handles} {position : Position} {fuel : Nat} {tokens rest : List Token}
  {anchors : Anchors}

/-! Reading nodes -/

/-- A token that a node without properties begins with. -/
def BeginsNode : Token → Prop
  | .scalar _ _ | .openBracket | .openBrace | .blockSequence | .blockMapping => True
  | _ => False

/-- A token that its content begins with. -/
def IsBare : Token → Prop
  | .dash => True
  | token => BeginsNode token

theorem readNode_bare {first : Token} (bare : IsBare first) (fuel : Nat) (position : Position)
    (tokens : List Token) (anchors : Anchors) :
    readNode handles (fuel + 1) position ⟨first :: tokens, anchors⟩ =
      readContent handles fuel position false none ⟨first :: tokens, anchors⟩ := by
  have unnamed : readNode handles (fuel + 1) position ⟨first :: tokens, anchors⟩ =
      (readContent handles fuel position false none ⟨first :: tokens, anchors⟩).map
        fun found => (found.1, found.2) := by
    rw [readNode]
    cases first <;> first | rfl | cases bare
  rw [unnamed]
  cases readContent handles fuel position false none ⟨first :: tokens, anchors⟩ <;> rfl

theorem readNode_scalar (content : String) (plain : Bool) (enough : 2 ≤ fuel) :
    readNode handles fuel position ⟨.scalar content plain :: tokens, anchors⟩ =
      some (.scalar (scalarTag none content plain) content, ⟨tokens, anchors⟩) := by
  obtain ⟨fuel, rfl⟩ := Nat.exists_eq_add_of_le' enough
  rw [readNode_bare (by exact True.intro)]
  rfl

/-- With enough fuel a value is read, whatever follows it. A list right below its key ends in front
of what is no item. -/
def IsRead (handles : Handles) (value : Value) : Prop :=
  ∀ (below : Bool) (position : Position) (fuel : Nat) (rest : List Token) (anchors : Anchors),
    position ≠ .flow → (below = true → position = .entry ∧ rest.head? ≠ some .dash) →
      4 * (valueTokens below value).length ≤ fuel →
        readNode handles fuel position ⟨valueTokens below value ++ rest, anchors⟩ =
          some (nodeOf value, ⟨rest, anchors⟩)

theorem isRead_scalar {value : Value} {content : String} {plain : Bool}
    (single : ∀ below, valueTokens below value = [.scalar content plain])
    (node : nodeOf value = .scalar (scalarTag none content plain) content) :
    IsRead handles value := by
  intro below position fuel rest anchors _ _ enough
  rw [single] at enough ⊢
  rw [node]
  exact readNode_scalar content plain (Nat.le_trans (show 2 ≤ 4 by decide) enough)

theorem scalarTag_textToken (chars : List Char) :
    scalarTag none (.ofList chars) (allowsPlain chars) = .text := by
  cases allowed : allowsPlain chars with
  | false => rfl
  | true =>
      simp only [allowsPlain, Bool.and_eq_true] at allowed
      exact eq_of_beq allowed.1.1.1.1.1.1

theorem isRead_null : IsRead handles .null := by
  refine isRead_scalar (fun _ => rfl) ?_
  rw [show scalarTag none "null" true = .null by decide]
  rfl

theorem isRead_bool (truth : Bool) : IsRead handles (.bool truth) := by
  refine isRead_scalar (fun _ => rfl) ?_
  have tagged : scalarTag none (if truth then "true" else "false") true = .bool := by
    cases truth <;> decide
  rw [tagged]
  rfl

theorem isRead_text (content : String) : IsRead handles (.text content) := by
  refine isRead_scalar (fun _ => rfl) ?_
  rw [scalarTag_textToken, String.ofList_toList]
  rfl

/-- The first token of a value begins a node, or is the dash of a list right below its key. -/
theorem exists_valueTokens {value : Value} (document : IsDocument value) (below : Bool) :
    ∃ first more, valueTokens below value = first :: more ∧ IsBare first ∧
      (first = .dash → below = true) := by
  cases document with
  | null => exact ⟨_, _, rfl, True.intro, nofun⟩
  | bool truth => exact ⟨_, _, rfl, True.intro, nofun⟩
  | text content basic => exact ⟨_, _, rfl, True.intro, nofun⟩
  | list items parts =>
      cases items with
      | nil => exact ⟨_, _, rfl, True.intro, nofun⟩
      | cons item items =>
          cases below with
          | true => exact ⟨_, _, rfl, True.intro, fun _ => rfl⟩
          | false => exact ⟨_, _, rfl, True.intro, nofun⟩
  | record fields distinct basic parts =>
      cases fields with
      | nil => exact ⟨_, _, rfl, True.intro, nofun⟩
      | cons field fields => exact ⟨_, _, rfl, True.intro, nofun⟩

/-- A document that has to stand somewhere is read there. -/
theorem readNodeOr_eq {value : Value} (document : IsDocument value) (read : IsRead handles value)
    {below : Bool} {stops : List Token} (block : position ≠ .flow)
    (followed : below = true → position = .entry ∧ rest.head? ≠ some .dash)
    (others : ∀ stop ∈ stops, stop ∈ [.dash, .key, .value, .blockEnd])
    (notDash : below = true → Token.dash ∉ stops)
    (enough : 4 * (valueTokens below value).length < fuel) :
    readNodeOr handles fuel position stops ⟨valueTokens below value ++ rest, anchors⟩ =
      some (nodeOf value, ⟨rest, anchors⟩) := by
  obtain ⟨fuel, rfl⟩ : ∃ less, fuel = less + 1 := Nat.exists_eq_succ_of_ne_zero (by omega)
  obtain ⟨first, more, begins, bare, dashed⟩ := exists_valueTokens document below
  have onward : Stream.startsWith ⟨valueTokens below value ++ rest, anchors⟩ stops = false := by
    rw [Stream.startsWith, Stream.peek, begins]
    refine Bool.eq_false_iff.mpr fun stop => ?_
    have listed := List.contains_iff_mem.mp stop
    have usual := others first listed
    simp only [List.mem_cons, List.not_mem_nil, or_false] at usual
    rcases usual with rfl | rfl | rfl | rfl
    · exact notDash (dashed rfl) listed
    · exact bare
    · exact bare
    · exact bare
  rw [readNodeOr, onward, if_neg Bool.false_ne_true]
  exact read below position fuel rest anchors block followed (by omega)

/-! Lists -/

/-- The items of a block are read to its end. -/
theorem readItems_eq {items : List Value} (documents : ∀ item ∈ items, IsDocument item)
    (reads : ∀ item ∈ items, IsRead handles item)
    (enough : 4 * (itemTokens items).length < fuel) :
    readItems handles fuel ⟨itemTokens items ++ .blockEnd :: rest, anchors⟩ =
      some (nodesOf items, ⟨rest, anchors⟩) := by
  induction items generalizing fuel with
  | nil =>
      obtain ⟨fuel, rfl⟩ : ∃ less, fuel = less + 1 := Nat.exists_eq_succ_of_ne_zero (by omega)
      rfl
  | cons item items ih =>
      obtain ⟨fuel, rfl⟩ : ∃ less, fuel = less + 1 := Nat.exists_eq_succ_of_ne_zero (by omega)
      rw [List.forall_mem_cons] at documents reads
      rw [itemTokens, List.length_cons, List.length_append] at enough
      have first := @readNodeOr_eq handles .block fuel (itemTokens items ++ .blockEnd :: rest)
        anchors item documents.1 reads.1 false [.dash, .blockEnd] (by decide)
        (absurd · Bool.false_ne_true) (by decide) (absurd · Bool.false_ne_true) (by omega)
      have later : readItems handles fuel ⟨itemTokens items ++ .blockEnd :: rest, anchors⟩ =
          some (nodesOf items, ⟨rest, anchors⟩) := ih documents.2 reads.2 (by omega)
      rw [itemTokens, List.cons_append, List.append_assoc, readItems]
      change (readNodeOr handles fuel .block [.dash, .blockEnd] ⟨valueTokens false item ++
        (itemTokens items ++ .blockEnd :: rest), anchors⟩ >>= _) = _
      rw [first]
      change (readItems handles fuel ⟨itemTokens items ++ .blockEnd :: rest, anchors⟩ >>= _) = _
      rw [later]
      rfl

/-- The items right below a key are read up to what is no item. -/
theorem readDashes_eq {items : List Value} (documents : ∀ item ∈ items, IsDocument item)
    (reads : ∀ item ∈ items, IsRead handles item) (ends : rest.head? ≠ some .dash)
    (fueled : 0 < fuel) (enough : 4 * (itemTokens items).length ≤ fuel + 2) :
    readDashes handles fuel ⟨itemTokens items ++ rest, anchors⟩ =
      some (nodesOf items, ⟨rest, anchors⟩) := by
  induction items generalizing fuel with
  | nil =>
      obtain ⟨fuel, rfl⟩ : ∃ less, fuel = less + 1 := Nat.exists_eq_succ_of_ne_zero (by omega)
      rw [itemTokens, List.nil_append, readDashes, Stream.peek]
      split
      · rename_i dash
        exact absurd dash ends
      · rfl
  | cons item items ih =>
      obtain ⟨fuel, rfl⟩ : ∃ less, fuel = less + 1 := Nat.exists_eq_succ_of_ne_zero (by omega)
      rw [List.forall_mem_cons] at documents reads
      rw [itemTokens, List.length_cons, List.length_append] at enough
      have first := @readNodeOr_eq handles .block fuel (itemTokens items ++ rest) anchors item
        documents.1 reads.1 false [.dash, .key, .value, .blockEnd] (by decide)
        (absurd · Bool.false_ne_true) (by decide) (absurd · Bool.false_ne_true) (by omega)
      have later : readDashes handles fuel ⟨itemTokens items ++ rest, anchors⟩ =
          some (nodesOf items, ⟨rest, anchors⟩) := ih documents.2 reads.2 (by omega) (by omega)
      rw [itemTokens, List.cons_append, List.append_assoc, readDashes]
      change (readNodeOr handles fuel .block [.dash, .key, .value, .blockEnd]
        ⟨valueTokens false item ++ (itemTokens items ++ rest), anchors⟩ >>= _) = _
      rw [first]
      change (readDashes handles fuel ⟨itemTokens items ++ rest, anchors⟩ >>= _) = _
      rw [later]
      rfl

/-- A block begins at any place that is not inside of brackets. -/
theorem readNode_block {first : Token} (begins : first = .blockSequence ∨ first = .blockMapping)
    (block : position ≠ .flow) (fuel : Nat) :
    readNode handles (fuel + 2) position ⟨first :: tokens, anchors⟩ =
      if first = .blockSequence then
        (readItems handles fuel ⟨tokens, anchors⟩).map fun (items, stream) =>
          (.list .list items, stream)
      else
        (readEntries handles fuel ⟨tokens, anchors⟩).map fun (entries, stream) =>
          (.record .record entries, stream) := by
  rcases begins with rfl | rfl
  · rw [readNode_bare (by exact True.intro), if_pos rfl]
    cases position with
    | block => rfl
    | entry => rfl
    | flow => exact absurd rfl block
  · rw [readNode_bare (by exact True.intro), if_neg Token.noConfusion]
    cases position with
    | block => rfl
    | entry => rfl
    | flow => exact absurd rfl block

theorem isRead_list {items : List Value} (documents : ∀ item ∈ items, IsDocument item)
    (reads : ∀ item ∈ items, IsRead handles item) : IsRead handles (.list items) := by
  intro below position fuel rest anchors block followed enough
  cases items with
  | nil =>
      obtain ⟨fuel, rfl⟩ : ∃ less, fuel = less + 3 :=
        Nat.exists_eq_add_of_le' (Nat.le_trans (show 3 ≤ 8 by decide) enough)
      change readNode handles (fuel + 3) position ⟨.openBracket :: .closeBracket :: rest, anchors⟩ =
        _
      rw [readNode_bare (by exact True.intro)]
      cases position <;> rfl
  | cons item items =>
      cases below with
      | true =>
          obtain ⟨rfl, ends⟩ := followed rfl
          have dashed : 0 < (valueTokens true (.list (item :: items))).length := Nat.succ_pos _
          obtain ⟨fuel, rfl⟩ : ∃ less, fuel = less + 2 := Nat.exists_eq_add_of_le' (by omega)
          have dashes := @readDashes_eq handles fuel rest anchors _ documents reads ends
            (by omega) enough
          change readNode handles (fuel + 2) .entry ⟨.dash :: _, anchors⟩ = _
          rw [readNode_bare (by exact True.intro)]
          change (readDashes handles fuel ⟨itemTokens (item :: items) ++ rest, anchors⟩).map _ = _
          rw [dashes]
          rfl
      | false =>
          rw [valueTokens, if_neg Bool.false_ne_true, List.length_cons, List.length_append,
            List.length_singleton] at enough
          obtain ⟨fuel, rfl⟩ : ∃ less, fuel = less + 2 := Nat.exists_eq_add_of_le' (by omega)
          have block' := @readItems_eq handles fuel rest anchors _ documents reads (by omega)
          rw [valueTokens, if_neg Bool.false_ne_true, List.cons_append, List.append_assoc,
            List.singleton_append, readNode_block (.inl rfl) block, if_pos rfl, block']
          rfl

/-! Records -/

/-- The entries of a block are read to its end. -/
theorem readEntries_eq {fields : List (String × Value)}
    (basic : ∀ field ∈ fields, ∀ c ∈ field.1.toList, IsBasic c)
    (documents : ∀ field ∈ fields, IsDocument field.2)
    (reads : ∀ field ∈ fields, IsRead handles field.2)
    (enough : 4 * (entryTokens (Value.entriesOf fields)).length < fuel) :
    readEntries handles fuel
        ⟨entryTokens (Value.entriesOf fields) ++ .blockEnd :: rest, anchors⟩ =
      some (entryNodes (Value.entriesOf fields), ⟨rest, anchors⟩) := by
  induction fields generalizing fuel with
  | nil =>
      obtain ⟨fuel, rfl⟩ : ∃ less, fuel = less + 1 := Nat.exists_eq_succ_of_ne_zero (by omega)
      rfl
  | cons field fields ih =>
      rw [List.forall_mem_cons] at basic documents reads
      rw [Value.entriesOf, List.map_cons, ← Value.entriesOf] at enough ⊢
      rw [entryTokens, keyText, List.length_cons, List.length_cons, List.length_cons,
        List.length_append] at enough
      obtain ⟨fuel, rfl⟩ : ∃ less, fuel = less + 2 := Nat.exists_eq_add_of_le' (by omega)
      have key (rest : List Token) := @readNodeOr_eq handles .entry (fuel + 1) rest anchors
        (.text field.1) (.text field.1 basic.1) (isRead_text field.1) false
        [.key, .value, .blockEnd] (by decide) (absurd · Bool.false_ne_true) (by decide)
        (absurd · Bool.false_ne_true) (show 4 < fuel + 1 by omega)
      have ends : (entryTokens (Value.entriesOf fields) ++ .blockEnd :: rest).head? ≠
          some .dash := by
        cases fields <;> rintro ⟨⟩
      have value := @readNodeOr_eq handles .entry fuel
        (entryTokens (Value.entriesOf fields) ++ .blockEnd :: rest) anchors field.2 documents.1
        reads.1 (isSimpleKey field.1.toList) [.key, .value, .blockEnd] (by decide)
        (fun _ => ⟨rfl, ends⟩) (by decide) (fun _ => by decide) (by omega)
      have later : readEntries handles (fuel + 1)
          ⟨entryTokens (Value.entriesOf fields) ++ .blockEnd :: rest, anchors⟩ =
            some (entryNodes (Value.entriesOf fields), ⟨rest, anchors⟩) :=
        ih basic.2 documents.2 reads.2 (by omega)
      rw [entryTokens, keyText]
      change (readNodeOr handles (fuel + 1) .entry [.key, .value, .blockEnd]
        ⟨textToken field.1.toList :: .value :: (valueTokens _ field.2 ++ _) ++ .blockEnd :: rest,
          anchors⟩ >>= _) = _
      rw [List.cons_append, List.cons_append, List.append_assoc]
      change (readNodeOr handles (fuel + 1) .entry [.key, .value, .blockEnd]
        ⟨valueTokens false (.text field.1) ++ _, anchors⟩ >>= _) = _
      rw [key]
      change (readNodeOr handles fuel .entry [.key, .value, .blockEnd] ⟨valueTokens _ field.2 ++ _,
        anchors⟩ >>= _) = _
      rw [value]
      change (readEntries handles (fuel + 1) ⟨_ ++ .blockEnd :: rest, anchors⟩ >>= _) = _
      rw [later, entryNodes, keyText, String.ofList_toList]
      rfl

theorem isRead_record {fields : List (String × Value)}
    (basic : ∀ field ∈ fields, ∀ c ∈ field.1.toList, IsBasic c)
    (documents : ∀ field ∈ fields, IsDocument field.2)
    (reads : ∀ field ∈ fields, IsRead handles field.2) : IsRead handles (.ofFields fields) := by
  intro below position fuel rest anchors block followed enough
  cases fields with
  | nil =>
      obtain ⟨fuel, rfl⟩ : ∃ less, fuel = less + 3 :=
        Nat.exists_eq_add_of_le' (Nat.le_trans (show 3 ≤ 8 by decide) enough)
      change readNode handles (fuel + 3) position ⟨.openBrace :: .closeBrace :: rest, anchors⟩ = _
      rw [readNode_bare (by exact True.intro)]
      cases position <;> rfl
  | cons field fields =>
      change 4 * (.blockMapping :: (entryTokens (Value.entriesOf (field :: fields)) ++
        [.blockEnd])).length ≤ fuel at enough
      rw [List.length_cons, List.length_append, List.length_singleton] at enough
      obtain ⟨fuel, rfl⟩ : ∃ less, fuel = less + 2 := Nat.exists_eq_add_of_le' (by omega)
      have entries := @readEntries_eq handles fuel rest anchors _ basic documents reads (by omega)
      change readNode handles (fuel + 2) position ⟨.blockMapping ::
        (entryTokens (Value.entriesOf (field :: fields)) ++ [.blockEnd]) ++ rest, anchors⟩ = _
      rw [List.cons_append, List.append_assoc, List.singleton_append,
        readNode_block (.inr rfl) block, if_neg Token.noConfusion, entries]
      rfl

theorem IsDocument.isRead {value : Value} (document : IsDocument value) :
    IsRead handles value := by
  induction document with
  | null => exact isRead_null
  | bool truth => exact isRead_bool truth
  | text content basic => exact isRead_text content
  | list items parts ih => exact isRead_list parts ih
  | record fields distinct basic parts ih => exact isRead_record basic parts ih

/-- The tokens of a document are read to its node. -/
theorem ofTokens?_valueTokens {value : Value} (document : IsDocument value) :
    ofTokens? (valueTokens false value) = some (nodeOf value) := by
  obtain ⟨first, more, begins, bare, dashed⟩ := exists_valueTokens document false
  have read : readNode usualHandles (4 * (valueTokens false value).length + 4) .block
      ⟨valueTokens false value ++ [], []⟩ = some (nodeOf value, ⟨[], []⟩) :=
    document.isRead false .block _ [] [] nofun nofun (Nat.le_add_right _ 4)
  rw [List.append_nil] at read
  have whole : readDocument usualHandles (valueTokens false value) = some (nodeOf value) := by
    rw [readDocument, read]
    rfl
  have plain : (isDirective first || first == .documentStart) = false := by
    cases first <;> first | rfl | cases bare
  rw [begins, ofTokens?, plain, if_neg Bool.false_ne_true, ← begins, whole]

end PlainScript.Yaml
