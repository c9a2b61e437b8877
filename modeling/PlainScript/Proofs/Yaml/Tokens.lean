/-
The tokens of a written document. Each value is scanned where it stands, behind a mark or behind the
colon of its key, and from it the items and entries of blocks, line by line.
-/

import PlainScript.Proofs.Value
import PlainScript.Proofs.Yaml.Scan
import PlainScript.Yaml.Writer

namespace PlainScript.Yaml

/-! Documents -/

/-- A document of printable texts, truths, lists and records, each name once in its record. -/
inductive IsDocument : Value → Prop where
  | null : IsDocument .null
  | bool (truth : Bool) : IsDocument (.bool truth)
  | text (content : String) (basic : ∀ c ∈ content.toList, IsBasic c) : IsDocument (.text content)
  | list (items : List Value) (parts : ∀ item ∈ items, IsDocument item) : IsDocument (.list items)
  | record (fields : List (String × Value)) (distinct : (fields.map Prod.fst).Nodup)
      (basic : ∀ field ∈ fields, ∀ c ∈ field.1.toList, IsBasic c)
      (parts : ∀ field ∈ fields, IsDocument field.2) : IsDocument (.ofFields fields)

/-- Fields of a document. -/
structure HoldsDocuments (fields : List (String × Value)) : Prop where
  distinct : (fields.map Prod.fst).Nodup
  basic : ∀ field ∈ fields, ∀ c ∈ field.1.toList, IsBasic c
  parts : ∀ field ∈ fields, IsDocument field.2

theorem HoldsDocuments.isDocument {fields : List (String × Value)} (holds : HoldsDocuments fields) :
    IsDocument (.ofFields fields) :=
  .record fields holds.distinct holds.basic holds.parts

/-! Scalars -/

/-- The token of a text. -/
def textToken (chars : List Char) : Token := .scalar (.ofList chars) (allowsPlain chars)

variable {indent column count margin : Nat} {chars written rest : List Char} {split : Bool}
  {token : Token} {tokens all : List Token} {margins : List Nat} {keyAllowed : Bool}

theorem neighbours_eq_false {first second : Char → Bool}
    (never : (∀ c ∈ chars, first c = false) ∨ ∀ c ∈ chars, second c = false) :
    neighbours first second chars = false := by
  induction chars with
  | nil => rfl
  | cons c chars ih =>
      cases chars with
      | nil => rfl
      | cons d chars =>
          rw [neighbours]
          rcases never with never | never
          · rw [List.forall_mem_cons] at never
            rw [never.1, ih (.inl never.2)]
            rfl
          · rw [List.forall_mem_cons] at never
            rw [never.2 d List.mem_cons_self, ih (.inr never.2), Bool.and_false]
            rfl

theorem isMultiline_eq_false (basic : ∀ c ∈ chars, IsBasic c) : isMultiline chars = false :=
  List.any_eq_false.mpr fun c member => by simp [(basic c member).isLineMark_eq_false]

theorem allowsSingle_eq_true (basic : ∀ c ∈ chars, IsBasic c) : allowsSingle chars = true := by
  have unmarked : ∀ c ∈ chars, isLineMark c = false := fun c member =>
    (basic c member).isLineMark_eq_false
  have usual : chars.any isSpecial = false :=
    List.any_eq_false.mpr fun c member => by simp [(basic c member).isSpecial_eq_false]
  rw [allowsSingle, neighbours_eq_false (.inl unmarked), neighbours_eq_false (.inr unmarked), usual]
  rfl

theorem textChars_eq (basic : ∀ c ∈ chars, IsBasic c) (split : Bool) (indent column : Nat) :
    textChars split indent column chars =
      if allowsPlain chars then plainChars split indent false column chars
      else '\'' :: singleChars split indent none (column + 1) chars ++ ['\''] := by
  unfold textChars
  rw [allowsSingle_eq_true basic, isMultiline_eq_false basic, Bool.not_false, Bool.or_true,
    Bool.and_self, if_pos rfl]

open Scan

theorem spells_textChars (basic : ∀ c ∈ chars, IsBasic c) (split : Bool) (indent column : Nat) :
    Spells indent (textChars split indent column chars) (textToken chars) := by
  rw [textChars_eq basic, textToken]
  cases allowed : allowsPlain chars with
  | true =>
      have text := isPlainText_of_allowsPlain basic allowed
      exact .plain text (writesPlain_plainChars text.toIsPhrase column)
  | false => exact .quoted (writesQuoted_singleChars basic none (column + 1))

theorem textChars_unsplit_indent (basic : ∀ c ∈ chars, IsBasic c) (indent other column : Nat) :
    textChars false indent column chars = textChars false other column chars := by
  rw [textChars_eq basic, textChars_eq basic, plainChars_unsplit, plainChars_unsplit,
    singleChars_unsplit_indent basic indent other]

/-- A key in front of its colon is written in one line. -/
theorem textChars_unsplit (basic : ∀ c ∈ chars, IsBasic c) (indent column : Nat) :
    (∀ c ∈ textChars false indent column chars, IsBasic c) ∧
      (textChars false indent column chars).length ≤ 2 * chars.length + 2 := by
  rw [textChars_eq basic]
  split
  · rw [plainChars_unsplit]
    exact ⟨basic, by omega⟩
  · obtain ⟨inside, length⟩ := @singleChars_unsplit indent chars basic none (column + 1)
    refine ⟨?_, ?_⟩
    · intro c member
      rw [List.cons_append, List.mem_cons, List.mem_append, List.mem_singleton] at member
      rcases member with rfl | member | rfl
      · exact isBasic_quote
      · exact inside c member
      · exact isBasic_quote
    · rw [List.cons_append, List.length_cons, List.length_append, List.length_singleton]
      omega

/-! Tokens of values -/

mutual

/-- The tokens of a value. A list right below its key is no block of its own. -/
def valueTokens (below : Bool) : Value → List Token
  | .null => [.scalar "null" true]
  | .bool truth => [.scalar (if truth then "true" else "false") true]
  | .text content => [textToken content.toList]
  | .list [] => [.openBracket, .closeBracket]
  | .list (item :: items) =>
      if below then itemTokens (item :: items)
      else .blockSequence :: (itemTokens (item :: items) ++ [.blockEnd])
  | .record [] => [.openBrace, .closeBrace]
  | .record (entry :: entries) => .blockMapping :: (entryTokens (entry :: entries) ++ [.blockEnd])
  | _ => []

def itemTokens : List Value → List Token
  | [] => []
  | item :: items => .dash :: (valueTokens false item ++ itemTokens items)

def entryTokens : List (Value × Value) → List Token
  | [] => []
  | (key, value) :: entries =>
      .key :: textToken (keyText key) :: .value ::
        (valueTokens (isSimpleKey (keyText key)) value ++ entryTokens entries)

end

/-- The tokens of a value are scanned behind a mark, and behind the colon of a simple key. -/
structure Scans (value : Value) : Prop where
  marked {indent count : Nat} {rest : List Char} {tokens all : List Token} {margins : List Nat}
    (starts : StartsToken rest) (outside : count ≤ indent)
    (later : YieldsAt count rest ((valueTokens false value).reverse ++ tokens) (indent + 1) margins
      true all) :
    YieldsAt (indent + 1) (afterMark indent value ++ (newLine count ++ rest)) tokens (indent + 1)
      margins true all
  keyed {indent count column : Nat} {rest : List Char} {tokens all : List Token}
    {margins : List Nat} (width : Nat) (starts : StartsToken rest) (outside : count ≤ indent)
    (beyond : indent < column)
    (later : YieldsAt count rest ((valueTokens true value).reverse ++ tokens) (indent + 1) margins
      true all) :
    YieldsAt column (afterKey indent width value ++ (newLine count ++ rest)) tokens (indent + 1)
      margins false all

theorem exists_afterMark (indent : Nat) (value : Value) :
    ∃ chars, afterMark indent value = ' ' :: chars := by
  unfold afterMark
  exact ⟨_, rfl⟩

theorem separates_afterKey (indent column : Nat) (value : Value) (rest : List Char) :
    separates (afterKey indent column value ++ rest).head? = true := by
  unfold afterKey
  split <;> rfl

/-- A scalar behind a space. -/
theorem yieldsAt_inline (spells : Spells (indent + 2) written token) (starts : StartsToken rest)
    (outside : count ≤ indent) (beyond : indent < column)
    (later : YieldsAt count rest (token :: tokens) (indent + 1) margins true all) :
    YieldsAt column (' ' :: written ++ (newLine count ++ rest)) tokens (indent + 1) margins
      keyAllowed all := by
  refine YieldsAt.space (spells.startsToken _) ?_
  exact YieldsAt.scalar spells (by omega) (by omega) (by omega) (by omega) starts (by omega) later

/-- A value of one scalar. -/
theorem scans_of_spells {value : Value}
    (spells : ∀ indent column, Spells indent (inlineChars indent column value) token)
    (marked : ∀ indent, afterMark indent value = ' ' :: inlineChars (indent + 2) (indent + 2) value)
    (keyed : ∀ indent column,
      afterKey indent column value = ' ' :: inlineChars (indent + 2) (column + 2) value)
    (single : ∀ below, valueTokens below value = [token]) : Scans value where
  marked starts outside later := by
    rw [single] at later
    rw [marked]
    exact yieldsAt_inline (spells _ _) starts outside (Nat.lt_succ_self _) later
  keyed width starts outside beyond later := by
    rw [single] at later
    rw [keyed]
    exact yieldsAt_inline (spells _ _) starts outside beyond later

theorem scans_text {content : String} (basic : ∀ c ∈ content.toList, IsBasic c) :
    Scans (.text content) := by
  refine scans_of_spells (fun indent column => ?_) (fun _ => rfl) (fun _ _ => rfl) fun _ => rfl
  exact spells_textChars basic true indent column

/-- A plain text that is not split is written as it is. -/
theorem spells_plainText (text : IsPlainText chars) (indent : Nat) :
    Spells indent chars (.scalar (.ofList chars) true) := by
  have writes := @writesPlain_plainChars indent chars false text.toIsPhrase 0
  rw [plainChars_unsplit] at writes
  exact .plain text writes

theorem scans_null : Scans .null := by
  refine scans_of_spells (fun indent column => ?_) (fun _ => rfl) (fun _ _ => rfl) fun _ => rfl
  exact @spells_plainText "null".toList
    ⟨⟨by decide, ⟨'n', rfl, by decide⟩, by decide, by decide⟩, by decide⟩ indent

theorem scans_bool (truth : Bool) : Scans (.bool truth) := by
  cases truth with
  | true =>
      refine scans_of_spells (fun indent column => ?_) (fun _ => rfl) (fun _ _ => rfl) fun _ => rfl
      exact @spells_plainText "true".toList
        ⟨⟨by decide, ⟨'t', rfl, by decide⟩, by decide, by decide⟩, by decide⟩ indent
  | false =>
      refine scans_of_spells (fun indent column => ?_) (fun _ => rfl) (fun _ _ => rfl) fun _ => rfl
      exact @spells_plainText "false".toList
        ⟨⟨by decide, ⟨'f', rfl, by decide⟩, by decide, by decide⟩, by decide⟩ indent

/-- An empty collection. -/
theorem scans_of_brackets {opening closing : Char} {opened closed : Token} {value : Value}
    (brackets : IsBrackets opening closing opened closed)
    (marked : ∀ indent, afterMark indent value = [' ', opening, closing])
    (keyed : ∀ indent column, afterKey indent column value = [' ', opening, closing])
    (both : ∀ below, valueTokens below value = [opened, closed]) : Scans value := by
  have inline {indent count column : Nat} {rest : List Char} {tokens all : List Token}
      {margins : List Nat} {keyAllowed : Bool} (starts : StartsToken rest)
      (beyond : indent < column)
      (later : YieldsAt count rest (closed :: opened :: tokens) (indent + 1) margins true all) :
      YieldsAt column (' ' :: opening :: closing :: (newLine count ++ rest)) tokens (indent + 1)
        margins keyAllowed all := by
    obtain ⟨⟨basic, noSpace, noComment, -⟩, -⟩ := brackets.basic
    exact YieldsAt.space (startsToken_cons basic noSpace noComment _)
      (YieldsAt.brackets brackets (Nat.le_succ_of_le beyond) starts later)
  refine ⟨fun starts outside later => ?_, fun width starts outside beyond later => ?_⟩
  · rw [both] at later
    rw [marked]
    exact inline starts (Nat.lt_succ_self _) later
  · rw [both] at later
    rw [keyed]
    exact inline starts beyond later

/-! Lists -/

variable {outer : List Nat} {opened : List Token}

theorem startsToken_itemsChars (item : Value) (items : List Value) (rest : List Char) :
    StartsToken (itemsChars indent (item :: items) ++ rest) := by
  rw [itemsChars]
  exact startsToken_cons (by decide) (by decide) (by decide) _

/-- The items of a list, each in a line of its own. -/
theorem yieldsAt_items {item : Value} {items : List Value}
    (parts : ∀ part ∈ item :: items, Scans part)
    (opens : Opens indent .blockSequence tokens margin margins opened outer)
    (starts : StartsToken rest) (outside : count ≤ indent)
    (later : YieldsAt count rest ((itemTokens (item :: items)).reverse ++ opened) (indent + 1)
      outer true all) :
    YieldsAt indent (itemsChars indent (item :: items) ++ (newLine count ++ rest)) tokens margin
      margins true all := by
  induction items generalizing item tokens margin margins opened outer with
  | nil =>
      obtain ⟨chars, spaced⟩ := exists_afterMark indent item
      rw [itemsChars, itemsChars, List.isEmpty_nil, if_pos rfl, List.append_nil, List.append_nil]
      rw [List.cons_append, spaced]
      refine YieldsAt.mark .dash opens ?_
      change YieldsAt _ ((' ' :: chars) ++ _) _ _ _ _ _
      rw [← spaced]
      refine (parts item List.mem_cons_self).marked starts outside ?_
      simpa only [itemTokens, List.append_nil, List.reverse_cons, List.append_assoc,
        List.singleton_append] using later
  | cons second items ih =>
      obtain ⟨chars, spaced⟩ := exists_afterMark indent item
      rw [List.forall_mem_cons] at parts
      rw [itemsChars, List.isEmpty_cons, if_neg Bool.false_ne_true]
      simp only [List.append_assoc, List.cons_append]
      rw [spaced]
      refine YieldsAt.mark .dash opens ?_
      change YieldsAt _ ((' ' :: chars) ++ _) _ _ _ _ _
      rw [← spaced]
      refine parts.1.marked (startsToken_itemsChars second items _) (Nat.le_refl _) ?_
      refine ih parts.2 (.already rfl) ?_
      rw [itemTokens] at later
      simpa only [List.reverse_cons, List.reverse_append, List.append_assoc,
        List.singleton_append] using later

theorem scans_list {items : List Value} (parts : ∀ item ∈ items, Scans item) :
    Scans (.list items) := by
  cases items with
  | nil => exact scans_of_brackets .list (fun _ => rfl) (fun _ _ => rfl) fun _ => rfl
  | cons item items =>
      refine ⟨fun {indent count rest tokens all margins} starts outside later => ?_,
        fun {indent count column rest tokens all margins} width starts outside beyond later => ?_⟩
      · change YieldsAt _ (' ' :: (itemsChars (indent + 2) (item :: items) ++ _)) _ _ _ _ _
        refine YieldsAt.space (startsToken_itemsChars item items _) ?_
        refine yieldsAt_items parts (.newly (Nat.le_succ _)) starts (by omega) ?_
        refine YieldsAt.blockEnd starts (by omega) ?_
        simpa [valueTokens] using later
      · change YieldsAt _ (newLine indent ++ itemsChars indent (item :: items) ++ _) _ _ _ _ _
        rw [List.append_assoc]
        refine YieldsAt.newLine (startsToken_itemsChars item items _) ?_
        exact yieldsAt_items parts (.already rfl) starts outside later

/-! Records -/

/-- The name of a field is printable, and its value is scanned. -/
structure ScansField (field : String × Value) : Prop where
  basic : ∀ c ∈ field.1.toList, IsBasic c
  scans : Scans field.2

theorem entriesChars_cons (indent : Nat) (name : String) (value : Value)
    (entries : List (Value × Value)) :
    entriesChars indent ((.text name, value) :: entries) =
      (if isSimpleKey name.toList then
        textChars false indent indent name.toList ++ ':' ::
          afterKey indent (indent + (textChars false indent indent name.toList).length) value
      else
        '?' :: ' ' :: textChars true (indent + 2) (indent + 2) name.toList ++
          newLine indent ++ ':' :: afterMark indent value) ++
        (if entries.isEmpty then [] else newLine indent) ++ entriesChars indent entries := rfl

theorem startsToken_entriesChars {field : String × Value} (basic : ∀ c ∈ field.1.toList, IsBasic c)
    (fields : List (String × Value)) (rest : List Char) :
    StartsToken (entriesChars indent (Value.entriesOf (field :: fields)) ++ rest) := by
  rw [Value.entriesOf, List.map_cons, entriesChars_cons]
  split
  · simp only [List.append_assoc]
    exact (spells_textChars basic false indent indent).startsToken _
  · exact startsToken_cons (by decide) (by decide) (by decide) _

/-- One entry; what follows it begins in a column that is not to the right of it. -/
theorem yieldsAt_entry {field : String × Value} (part : ScansField field)
    (opens : Opens indent .blockMapping tokens margin margins opened outer)
    (starts : StartsToken rest) (outside : count ≤ indent)
    (later : YieldsAt count rest
      ((valueTokens (isSimpleKey field.1.toList) field.2).reverse ++
        (.value :: textToken field.1.toList :: .key :: opened)) (indent + 1) outer true all) :
    YieldsAt indent ((if isSimpleKey field.1.toList then
        textChars false indent indent field.1.toList ++ ':' ::
          afterKey indent (indent + (textChars false indent indent field.1.toList).length) field.2
      else
        '?' :: ' ' :: textChars true (indent + 2) (indent + 2) field.1.toList ++
          newLine indent ++ ':' :: afterMark indent field.2) ++ (newLine count ++ rest))
      tokens margin margins true all := by
  cases simple : isSimpleKey field.1.toList with
  | true =>
      rw [simple] at later
      rw [if_pos rfl, List.append_assoc, List.cons_append]
      obtain ⟨oneLine, length⟩ := textChars_unsplit part.basic indent indent
      have spells := spells_textChars part.basic false (indent + 1) indent
      rw [textChars_unsplit_indent part.basic (indent + 1) indent] at spells
      simp only [isSimpleKey, Bool.and_eq_true, decide_eq_true_eq] at simple
      refine YieldsAt.simpleKey spells (Nat.succ_pos _) opens.margin_le oneLine (by omega)
        (separates_afterKey ..) opens ?_
      exact part.scans.keyed _ starts outside (by omega) later
  | false =>
      rw [simple] at later
      rw [if_neg Bool.false_ne_true]
      simp only [List.append_assoc, List.cons_append]
      have spells := spells_textChars part.basic true (indent + 2) (indent + 2)
      obtain ⟨chars, spaced⟩ := exists_afterMark indent field.2
      refine YieldsAt.mark .question opens (YieldsAt.space (spells.startsToken _) ?_)
      refine YieldsAt.scalar spells (by omega) (by omega) (by omega) (by omega)
        (startsToken_cons (by decide) (by decide) (by decide) _) (Nat.lt_succ_self _) ?_
      rw [spaced]
      refine YieldsAt.colon ?_
      change YieldsAt _ ((' ' :: chars) ++ _) _ _ _ _ _
      rw [← spaced]
      exact part.scans.marked starts outside later

/-- The entries of a record, each from a line of its own on. -/
theorem yieldsAt_entries {field : String × Value} {fields : List (String × Value)}
    (parts : ∀ part ∈ field :: fields, ScansField part)
    (opens : Opens indent .blockMapping tokens margin margins opened outer)
    (starts : StartsToken rest) (outside : count ≤ indent)
    (later : YieldsAt count rest
      ((entryTokens (Value.entriesOf (field :: fields))).reverse ++ opened)
      (indent + 1) outer true all) :
    YieldsAt indent
      (entriesChars indent (Value.entriesOf (field :: fields)) ++ (newLine count ++ rest))
      tokens margin margins true all := by
  induction fields generalizing field tokens margin margins opened outer with
  | nil =>
      rw [Value.entriesOf, List.map_cons, List.map_nil, entriesChars_cons, entriesChars,
        List.isEmpty_nil, if_pos rfl, List.append_nil, List.append_nil]
      refine yieldsAt_entry (parts field List.mem_cons_self) opens starts outside ?_
      rw [Value.entriesOf, List.map_cons, List.map_nil, entryTokens, entryTokens] at later
      simpa [keyText] using later
  | cons second fields ih =>
      rw [List.forall_mem_cons] at parts
      have basic := (parts.2 second List.mem_cons_self).basic
      rw [Value.entriesOf, List.map_cons, entriesChars_cons, ← Value.entriesOf]
      change YieldsAt _ (_ ++ newLine indent ++ _ ++ _) _ _ _ _ _
      rw [List.append_assoc, List.append_assoc]
      refine yieldsAt_entry parts.1 opens (startsToken_entriesChars basic fields _)
        (Nat.le_refl _) ?_
      refine ih parts.2 (.already rfl) ?_
      rw [Value.entriesOf, List.map_cons, entryTokens, ← Value.entriesOf] at later
      simpa [keyText] using later

theorem scans_record {fields : List (String × Value)}
    (parts : ∀ field ∈ fields, ScansField field) : Scans (.ofFields fields) := by
  cases fields with
  | nil => exact scans_of_brackets .record (fun _ => rfl) (fun _ _ => rfl) fun _ => rfl
  | cons field fields =>
      have basic := (parts field List.mem_cons_self).basic
      refine ⟨fun {indent count rest tokens all margins} starts outside later => ?_,
        fun {indent count column rest tokens all margins} width starts outside beyond later => ?_⟩
      · change YieldsAt _
          (' ' :: (entriesChars (indent + 2) (Value.entriesOf (field :: fields)) ++ _)) _ _ _ _ _
        refine YieldsAt.space (startsToken_entriesChars basic fields _) ?_
        refine yieldsAt_entries parts (.newly (Nat.le_succ _)) starts (by omega) ?_
        refine YieldsAt.blockEnd starts (by omega) ?_
        simpa [Value.ofFields, Value.entriesOf, valueTokens] using later
      · change YieldsAt _ (newLine (indent + 2) ++
          entriesChars (indent + 2) (Value.entriesOf (field :: fields)) ++ _) _ _ _ _ _
        rw [List.append_assoc]
        refine YieldsAt.newLine (startsToken_entriesChars basic fields _) ?_
        refine yieldsAt_entries parts (.newly (Nat.le_succ _)) starts (by omega) ?_
        refine YieldsAt.blockEnd starts (by omega) ?_
        simpa [Value.ofFields, Value.entriesOf, valueTokens] using later

/-- Every document is scanned where it stands. -/
theorem IsDocument.scans {value : Value} (document : IsDocument value) : Scans value := by
  induction document with
  | null => exact scans_null
  | bool truth => exact scans_bool truth
  | text content basic => exact scans_text basic
  | list items parts ih => exact scans_list ih
  | record fields distinct basic parts ih =>
      exact scans_record fun field member => ⟨basic field member, ih field member⟩

/-! Characters -/

/-- Text of printable characters and line feeds. -/
def IsLegible (chars : List Char) : Prop := ∀ c ∈ chars, IsBasic c ∨ c = '\n'

theorem isLegible_append {more : List Char} (legible : IsLegible chars) (also : IsLegible more) :
    IsLegible (chars ++ more) :=
  List.forall_mem_append.mpr ⟨legible, also⟩

theorem isLegible_cons {c : Char} (basic : IsBasic c) (legible : IsLegible chars) :
    IsLegible (c :: chars) :=
  List.forall_mem_cons.mpr ⟨.inl basic, legible⟩

theorem isLegible_newLine (indent : Nat) : IsLegible (newLine indent) :=
  List.forall_mem_cons.mpr ⟨.inr rfl, fun _ member => .inl (isBasic_of_mem_replicate member)⟩

theorem WritesGap.isLegible {gap joint : List Char} (writes : WritesGap indent gap joint) :
    IsLegible joint := by
  cases writes with
  | spaces count => exact fun _ member => .inl (isBasic_of_mem_replicate member)
  | fold => exact isLegible_newLine indent

theorem Scan.Spells.isLegible (spells : Spells indent written token) : IsLegible written := by
  cases spells with
  | plain text writes =>
      clear text
      induction writes with
      | last word => exact fun c member => .inl (word.basic c member).1
      | word word between later ih =>
          exact isLegible_append (fun c member => .inl (word.basic c member).1)
            (isLegible_append between.isLegible ih)
  | quoted writes =>
      refine isLegible_cons isBasic_quote (isLegible_append ?_ (isLegible_cons isBasic_quote nofun))
      induction writes with
      | nil => exact nofun
      | char basic noSpace noQuote later ih => exact isLegible_cons basic ih
      | quote later ih => exact isLegible_cons isBasic_quote (isLegible_cons isBasic_quote ih)
      | gap between unspaced later ih => exact isLegible_append between.isLegible ih

theorem isLegible_itemsChars {items : List Value}
    (parts : ∀ item ∈ items, ∀ indent, IsLegible (afterMark indent item)) (indent : Nat) :
    IsLegible (itemsChars indent items) := by
  induction items with
  | nil => exact nofun
  | cons item items ih =>
      rw [List.forall_mem_cons] at parts
      rw [itemsChars]
      refine isLegible_append (isLegible_append (isLegible_cons (by decide) (parts.1 indent)) ?_)
        (ih parts.2)
      split
      · exact nofun
      · exact isLegible_newLine indent

/-- What is written for a value behind a mark or a key is legible. -/
def WritesLegibly (value : Value) : Prop :=
  (∀ indent, IsLegible (afterMark indent value)) ∧
    ∀ indent column, IsLegible (afterKey indent column value)

theorem isLegible_entriesChars {fields : List (String × Value)}
    (basic : ∀ field ∈ fields, ∀ c ∈ field.1.toList, IsBasic c)
    (parts : ∀ field ∈ fields, WritesLegibly field.2) (indent : Nat) :
    IsLegible (entriesChars indent (Value.entriesOf fields)) := by
  induction fields with
  | nil => exact List.forall_mem_nil _
  | cons field fields ih =>
      rw [List.forall_mem_cons] at basic parts
      rw [Value.entriesOf, List.map_cons, entriesChars_cons, ← Value.entriesOf]
      have key (split : Bool) (indent column : Nat) :=
        (spells_textChars basic.1 split indent column).isLegible
      refine isLegible_append (isLegible_append ?_ ?_) (ih basic.2 parts.2)
      · split
        · exact isLegible_append (key _ _ _) (isLegible_cons (by decide) (parts.1.2 _ _))
        · rw [List.cons_append, List.cons_append, List.append_assoc]
          exact isLegible_cons (by decide) (isLegible_cons (by decide) (isLegible_append (key _ _ _)
            (isLegible_append (isLegible_newLine _) (isLegible_cons (by decide) (parts.1.1 _)))))
      · split
        · exact List.forall_mem_nil _
        · exact isLegible_newLine indent

theorem IsDocument.writesLegibly {value : Value} (document : IsDocument value) :
    WritesLegibly value := by
  have inline {chars : List Char} (legible : IsLegible chars) : IsLegible (' ' :: chars) :=
    isLegible_cons (by decide) legible
  have word {word : List Char} (basic : ∀ c ∈ word, IsBasic c) : IsLegible (' ' :: word) :=
    inline fun c member => .inl (basic c member)
  induction document with
  | null =>
      have spelled : ∀ c ∈ "null".toList, IsBasic c := by decide
      exact ⟨fun _ => word spelled, fun _ _ => word spelled⟩
  | bool truth =>
      have spelled : ∀ c ∈ (if truth then "true" else "false").toList, IsBasic c := by
        cases truth <;> decide
      exact ⟨fun _ => word spelled, fun _ _ => word spelled⟩
  | text content basic =>
      exact ⟨fun _ => inline (spells_textChars basic _ _ _).isLegible,
        fun _ _ => inline (spells_textChars basic _ _ _).isLegible⟩
  | list items parts ih =>
      have items' := isLegible_itemsChars fun item member => (ih item member).1
      cases items with
      | nil =>
          have brackets : ∀ c ∈ ['[', ']'], IsBasic c := by decide
          exact ⟨fun _ => word brackets, fun _ _ => word brackets⟩
      | cons item items =>
          exact ⟨fun indent => inline (items' (indent + 2)),
            fun indent _ => isLegible_append (isLegible_newLine indent) (items' indent)⟩
  | record fields distinct basic parts ih =>
      have entries := isLegible_entriesChars basic ih
      cases fields with
      | nil =>
          have braces : ∀ c ∈ ['\x7b', '\x7d'], IsBasic c := by decide
          exact ⟨fun _ => word braces, fun _ _ => word braces⟩
      | cons field fields =>
          exact ⟨fun indent => inline (entries (indent + 2)),
            fun indent _ => isLegible_append (isLegible_newLine _) (entries (indent + 2))⟩

/-! The whole text -/

section

variable {field : String × Value} {fields : List (String × Value)}

theorem toList_write (field : String × Value) (fields : List (String × Value)) :
    (write (.ofFields (field :: fields))).toList =
      entriesChars 0 (Value.entriesOf (field :: fields)) ++ (newLine 0 ++ []) :=
  String.toList_ofList

theorem isLegible_write (holds : HoldsDocuments (field :: fields)) :
    IsLegible (write (.ofFields (field :: fields))).toList := by
  rw [toList_write]
  refine isLegible_append (isLegible_entriesChars holds.basic ?_ 0)
    (isLegible_append (isLegible_newLine 0) nofun)
  exact fun part member => (holds.parts part member).writesLegibly

theorem tokens_eq {text : List Char} (allowed : text.all isAllowed = true)
    (unmarked : (text.head? == some '\ufeff') = false) :
    Yaml.tokens text = (Scan.start text).finish (text.length + 1) := by
  unfold Yaml.tokens
  rw [if_pos allowed, unmarked]
  rfl

/-- A written record yields its tokens. -/
theorem tokens_write (holds : HoldsDocuments (field :: fields)) :
    Yaml.tokens (write (.ofFields (field :: fields))).toList =
      some (valueTokens false (.ofFields (field :: fields))) := by
  have legible := isLegible_write holds
  have allowed : (write (.ofFields (field :: fields))).toList.all isAllowed = true := by
    rw [List.all_eq_true]
    intro c member
    rcases legible c member with basic | rfl
    · exact basic.isAllowed
    · rfl
  have unmarked : ((write (.ofFields (field :: fields))).toList.head? == some '\ufeff') =
      false := by
    refine beq_eq_false_iff_ne.mpr fun mark => ?_
    rcases legible _ (List.mem_of_head? mark) with basic | same
    · exact absurd basic (by decide)
    · exact absurd same (by decide)
  have ended := yieldsAt_end
    ((entryTokens (Value.entriesOf (field :: fields))).reverse ++ [.blockMapping]) true
  have whole : YieldsAt 0 (write (.ofFields (field :: fields))).toList [] 0 [] true
      (valueTokens false (.ofFields (field :: fields))) := by
    rw [toList_write]
    refine yieldsAt_entries (fun part member => ⟨holds.basic part member,
      (holds.parts part member).scans⟩) (.newly (Nat.le_refl 0)) startsToken_nil (Nat.le_refl 0) ?_
    simpa [Value.ofFields, Value.entriesOf, valueTokens] using ended
  generalize (write (.ofFields (field :: fields))).toList = chars at allowed unmarked whole ⊢
  rw [tokens_eq allowed unmarked]
  exact whole (Place.start chars) rfl rfl

end

end PlainScript.Yaml
