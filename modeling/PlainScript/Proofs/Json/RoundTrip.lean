/-
Reading what was written: texts, whole numbers that are not too long, lists and records of distinct
names come back from every layout that reading undoes, and numbers with places as numbers with
places. No more levels are needed than the document has.
-/

import PlainScript.Proofs.Json.Number
import PlainScript.Proofs.Json.Text
import PlainScript.Proofs.Number.Text
import PlainScript.Proofs.Value

namespace PlainScript.Json

open Number
open Value (entriesOf putEntry_entriesOf)

/-! Written values by their form -/

namespace Layout

variable (layout : Layout) (depth : Nat)

theorem valueChars_int (number : Int) :
    layout.valueChars depth (.int number) = (toString number).toList := rfl

theorem valueChars_float (number : Number.Double) :
    layout.valueChars depth (.float number) = floatChars number := rfl

theorem valueChars_text (content : String) :
    layout.valueChars depth (.text content) = layout.quoted content := rfl

theorem valueChars_list_nil : layout.valueChars depth (.list []) = ['[', ']'] := rfl

theorem valueChars_list_cons (item : Value) (items : List Value) :
    layout.valueChars depth (.list (item :: items)) =
      '[' :: layout.lineStart (depth + 1) ++ layout.valueChars (depth + 1) item ++
        layout.itemsChars (depth + 1) items ++ layout.lineStart depth ++ [']'] := rfl

theorem valueChars_record_nil : layout.valueChars depth (.record []) = ['\x7b', '\x7d'] := rfl

theorem valueChars_record_cons (name : String) (value : Value) (entries : List (Value × Value)) :
    layout.valueChars depth (.record ((.text name, value) :: entries)) =
      '\x7b' :: layout.lineStart (depth + 1) ++ layout.quoted name ++ [':', ' '] ++
        layout.valueChars (depth + 1) value ++ layout.entriesChars (depth + 1) entries ++
        layout.lineStart depth ++ ['\x7d'] := rfl

end Layout

/-! Documents -/

/-- A document of texts, short whole numbers, and at most so many levels of lists and records, each
name once in its record. -/
inductive IsDocument : (levels : Nat) → Value → Prop where
  | text {levels : Nat} (content : String) : IsDocument levels (.text content)
  | int {levels : Nat} (number : Int) (short : isShort number = true) :
      IsDocument levels (.int number)
  | list {levels : Nat} (items : List Value) (parts : ∀ item ∈ items, IsDocument levels item) :
      IsDocument (levels + 1) (.list items)
  | record {levels : Nat} (fields : List (String × Value)) (distinct : (fields.map Prod.fst).Nodup)
      (parts : ∀ field ∈ fields, IsDocument levels field.2) :
      IsDocument (levels + 1) (.ofFields fields)

/-- Fields that hold documents; their names are among the given ones and in that order. -/
structure HoldsDocuments (levels : Nat) (names : List String) (fields : List (String × Value)) :
    Prop where
  ordered : (fields.map Prod.fst).Sublist names
  parts : ∀ field ∈ fields, IsDocument levels field.2

namespace HoldsDocuments

variable {levels : Nat} {names others : List String} {fields more : List (String × Value)}

theorem nil : HoldsDocuments levels [] [] :=
  ⟨List.Sublist.refl _, by simp⟩

theorem cons (name : String) {value : Value} (document : IsDocument levels value)
    (holds : HoldsDocuments levels names fields) :
    HoldsDocuments levels (name :: names) ((name, value) :: fields) :=
  ⟨holds.ordered.cons_cons name, List.forall_mem_cons.mpr ⟨document, holds.parts⟩⟩

theorem append (holds : HoldsDocuments levels names fields)
    (also : HoldsDocuments levels others more) :
    HoldsDocuments levels (names ++ others) (fields ++ more) := by
  refine ⟨?_, List.forall_mem_append.mpr ⟨holds.parts, also.parts⟩⟩
  rw [List.map_append]
  exact holds.ordered.append also.ordered

/-- A field that may be left out. -/
theorem toList {α : Type} (name : String) {encode : α → Value}
    (documents : ∀ content, IsDocument levels (encode content)) (value : Option α) :
    HoldsDocuments levels [name] (value.toList.map fun content => (name, encode content)) := by
  cases value with
  | none => exact ⟨List.nil_sublist _, by simp⟩
  | some content => exact nil.cons name (documents content)

/-- Fields of different names are those of a document. -/
theorem isDocument (holds : HoldsDocuments levels names fields) (distinct : names.Nodup) :
    IsDocument (levels + 1) (.ofFields fields) :=
  .record fields (distinct.sublist holds.ordered) holds.parts

end HoldsDocuments

/-- A list of encoded documents is a document. -/
theorem isDocument_map {levels : Nat} {α : Type} {encode : α → Value} {values : List α}
    (documents : ∀ value ∈ values, IsDocument levels (encode value)) :
    IsDocument (levels + 1) (.list (values.map encode)) :=
  .list _ (List.forall_mem_map.mpr documents)

/-! Values -/

/-- What a written value is read as: a number with places may come back as another one. -/
inductive ReadsAs : (levels : Nat) → Value → Value → Prop where
  | text {levels : Nat} (content : String) : ReadsAs levels (.text content) (.text content)
  | int {levels : Nat} (number : Int) (short : isShort number = true) :
      ReadsAs levels (.int number) (.int number)
  | float {levels : Nat} {number other : Number.Double}
      (reads : ∀ {rest}, EndsNumber rest →
        readScalar (floatChars number ++ rest) = .ok (.float other, rest)) :
      ReadsAs levels (.float number) (.float other)
  | list {levels : Nat} (items : List (Value × Value))
      (parts : ∀ item ∈ items, ReadsAs levels item.1 item.2) :
      ReadsAs (levels + 1) (.list (items.map Prod.fst)) (.list (items.map Prod.snd))
  | record {levels : Nat} (fields : List (String × Value × Value))
      (distinct : (fields.map Prod.fst).Nodup)
      (parts : ∀ field ∈ fields, ReadsAs levels field.2.1 field.2.2) :
      ReadsAs (levels + 1) (.ofFields (fields.map fun field => (field.1, field.2.1)))
        (.ofFields (fields.map fun field => (field.1, field.2.2)))

theorem exists_readsAs_float (number : Number.Double) :
    ∃ other, ∀ {levels}, ReadsAs levels (.float number) (.float other) :=
  let ⟨other, reads⟩ := exists_readScalar_float number
  ⟨other, .float reads⟩

/-- Documents are read as themselves. -/
theorem IsDocument.readsAs {levels : Nat} {value : Value} (document : IsDocument levels value) :
    ReadsAs levels value value := by
  induction document with
  | text content => exact .text content
  | int number short => exact .int number short
  | list items parts ih =>
      have both := ReadsAs.list (items.map fun item => (item, item)) (List.forall_mem_map.mpr ih)
      simpa only [List.map_map, Function.comp_def, List.map_id'] using both
  | record fields distinct parts ih =>
      have both := ReadsAs.record (fields.map fun field => (field.1, field.2, field.2))
        (by rwa [List.map_map]) (List.forall_mem_map.mpr ih)
      simpa only [List.map_map, Function.comp_def, List.map_id'] using both

theorem endsNumber_lineStart (layout : Layout) (depth : Nat) (rest : List Char) :
    EndsNumber (layout.lineStart depth ++ rest) :=
  endsNumber_cons (by decide) _

/-- A written value begins with a mark that is no blank, closes no list and marks no byte
order. -/
theorem ReadsAs.exists_cons {levels : Nat} {value result : Value}
    (reads : ReadsAs levels value result) (layout : Layout) (depth : Nat) :
    ∃ c chars, layout.valueChars depth value = c :: chars ∧ isSpace c = false ∧ c ≠ ']' ∧
      c ≠ '\ufeff' := by
  have number {c : Char} (begins : BeginsNumber c) : isSpace c = false ∧ c ≠ ']' ∧ c ≠ '\ufeff' :=
    ⟨begins.isSpace_eq_false, begins.ne (by decide), begins.ne (by decide)⟩
  cases reads with
  | text content => exact ⟨'"', _, by rw [Layout.valueChars_text, Layout.quoted]; rfl, by decide⟩
  | int whole _ =>
      obtain ⟨c, chars, same, begins⟩ := exists_toString_int_eq whole
      exact ⟨c, chars, by rw [Layout.valueChars_int, same], number begins⟩
  | @float _ places other _ =>
      obtain ⟨c, chars, same, begins⟩ := exists_floatChars_eq places
      exact ⟨c, chars, by rw [Layout.valueChars_float, same], number begins⟩
  | list items parts =>
      cases items with
      | nil => exact ⟨'[', _, by rw [List.map_nil, Layout.valueChars_list_nil], by decide⟩
      | cons item items =>
          exact ⟨'[', _, by rw [List.map_cons, Layout.valueChars_list_cons]; rfl, by decide⟩
  | record fields distinct parts =>
      cases fields with
      | nil => exact ⟨'\x7b', _, by rw [List.map_nil, Value.ofFields, List.map_nil,
          Layout.valueChars_record_nil], by decide⟩
      | cons field fields =>
          exact ⟨'\x7b', _, by rw [List.map_cons, Value.ofFields, List.map_cons,
            Layout.valueChars_record_cons]; rfl, by decide⟩

/-- Blanks at the start of a line are passed over. -/
theorem skipSpaces_lineStart (layout : Layout) (depth : Nat) {c : Char} (mark : isSpace c = false)
    (rest : List Char) : skipSpaces (layout.lineStart depth ++ c :: rest) = c :: rest := by
  have blank : ∀ d ∈ layout.lineStart depth, isSpace d = true := by
    intro d member
    rcases List.mem_cons.mp member with rfl | member
    · decide
    · rw [List.eq_of_mem_replicate member]
      decide
  rw [skipSpaces, List.dropWhile_append_of_pos blank, List.dropWhile_cons_of_neg (by simp [mark])]

theorem skipSpaces_cons {c : Char} (mark : isSpace c = false) (rest : List Char) :
    skipSpaces (c :: rest) = c :: rest :=
  List.dropWhile_cons_of_neg (by simp [mark])

section

variable {layout : Layout} {levels : Nat} {value result : Value}

/-- A written value is not passed over. -/
theorem ReadsAs.skipSpaces_valueChars (reads : ReadsAs levels value result) (layout : Layout)
    (depth : Nat) (rest : List Char) :
    skipSpaces (layout.valueChars depth value ++ rest) =
      layout.valueChars depth value ++ rest := by
  obtain ⟨c, chars, start, mark, -⟩ := reads.exists_cons layout depth
  rw [start, List.cons_append, skipSpaces_cons mark]

theorem ReadsAs.skipSpaces_lineStart_valueChars (reads : ReadsAs levels value result)
    (layout : Layout) (depth : Nat) (rest : List Char) :
    skipSpaces (layout.lineStart depth ++ (layout.valueChars depth value ++ rest)) =
      layout.valueChars depth value ++ rest := by
  obtain ⟨c, chars, start, mark, -⟩ := reads.exists_cons layout depth
  rw [start, List.cons_append, skipSpaces_lineStart _ _ mark]

/-- With so many levels the written value is read back, whatever follows it. -/
def Reads (layout : Layout) (levels depth : Nat) (value result : Value) : Prop :=
  ∀ rest, EndsNumber rest →
    readValue levels (layout.valueChars depth value ++ rest) = .ok (result, rest)

theorem reads_text (legible : layout.IsLegible) (depth : Nat) (content : String) :
    Reads layout levels depth (.text content) (.text content) := by
  intro rest _
  rw [Layout.valueChars_text, Layout.quoted, List.cons_append, List.cons_append, readValue,
    legible.readText_quoted]
  simp [bind, Except.bind]

/-- What begins as a number is read as one. -/
theorem reads_number {depth : Nat} {c : Char} {chars : List Char} (begins : BeginsNumber c)
    (written : layout.valueChars depth value = c :: chars)
    (reads : ∀ {rest}, EndsNumber rest → readScalar (c :: chars ++ rest) = .ok (result, rest)) :
    Reads layout levels depth value result := by
  intro rest ends
  have unopened {d : Char} (mark : d.isDigit = false ∧ d ≠ '-' ∧ d ≠ 'I' ∧ d ≠ 'N')
      (more : List Char) : c :: (chars ++ rest) ≠ d :: more :=
    fun same => begins.ne mark (List.cons.inj same).1
  rw [written, ← reads ends, List.cons_append, readValue]
  · exact unopened (d := '"') (by decide)
  · exact fun _ _ => unopened (d := '\x7b') (by decide) _
  · exact fun _ _ => unopened (d := '[') (by decide) _
  · exact fun _ _ _ => unopened (d := '\x7b') (by decide) _
  · exact fun _ _ _ => unopened (d := '[') (by decide) _

theorem length_le_length_itemsChars (layout : Layout) (depth : Nat) (items : List Value) :
    items.length ≤ (layout.itemsChars depth items).length := by
  induction items with
  | nil => exact Nat.zero_le _
  | cons item items ih =>
      simp only [Layout.itemsChars, List.length_cons, List.length_append]
      omega

theorem length_le_length_entriesChars (layout : Layout) (depth : Nat)
    (entries : List (Value × Value)) :
    entries.length ≤ (layout.entriesChars depth entries).length := by
  induction entries with
  | nil => exact Nat.zero_le _
  | cons entry entries ih =>
      simp only [Layout.entriesChars, List.length_cons, List.length_append]
      omega

/-- The items of a list are read up to its end. -/
theorem readItems_itemsChars (depth outer : Nat) {first : Value × Value}
    {items : List (Value × Value)}
    (parts : ∀ item ∈ first :: items, ReadsAs levels item.1 item.2)
    (reads : ∀ item ∈ first :: items, Reads layout levels depth item.1 item.2)
    (rest : List Char) (count : Nat) (enough : items.length < count) :
    readItems (readValue levels) count (layout.valueChars depth first.1 ++
        (layout.itemsChars depth (items.map Prod.fst) ++
          (layout.lineStart outer ++ ']' :: rest))) =
      .ok ((first :: items).map Prod.snd, rest) := by
  induction items generalizing first count with
  | nil =>
      cases count with
      | zero => exact absurd enough (Nat.not_lt_zero _)
      | succ count =>
          rw [List.map_nil, Layout.itemsChars, List.nil_append, readItems,
            reads first List.mem_cons_self _ (endsNumber_lineStart _ _ _)]
          simp only [bind, Except.bind,
            skipSpaces_lineStart _ _ (show isSpace ']' = false by decide)]
          rfl
  | cons second items ih =>
      cases count with
      | zero => exact absurd enough (Nat.not_lt_zero _)
      | succ count =>
          rw [List.map_cons, Layout.itemsChars]
          have later := ih (fun item member => parts item (List.mem_cons_of_mem first member))
            (fun item member => reads item (List.mem_cons_of_mem first member)) count
            (Nat.lt_of_succ_lt_succ enough)
          have next := parts second (List.mem_cons_of_mem first List.mem_cons_self)
          rw [readItems, List.cons_append, List.cons_append, List.cons_append,
            reads first List.mem_cons_self _ (endsNumber_cons (by decide) _)]
          simp only [bind, Except.bind, List.append_assoc,
            skipSpaces_cons (show isSpace ',' = false by decide),
            next.skipSpaces_lineStart_valueChars, later]
          rfl

/-- A list of values that are read is read, with one level more. -/
theorem reads_list {depth : Nat} {items : List (Value × Value)}
    (parts : ∀ item ∈ items, ReadsAs levels item.1 item.2)
    (reads : ∀ item ∈ items, Reads layout levels (depth + 1) item.1 item.2) :
    Reads layout (levels + 1) depth (.list (items.map Prod.fst)) (.list (items.map Prod.snd)) := by
  intro rest _
  cases items with
  | nil =>
      rw [List.map_nil, Layout.valueChars_list_nil]
      simp only [List.cons_append, List.nil_append, readValue,
        skipSpaces_cons (show isSpace ']' = false by decide)]
      rfl
  | cons first items =>
      have next := parts first List.mem_cons_self
      obtain ⟨c, chars, start, -, unclosed, -⟩ := next.exists_cons layout (depth + 1)
      rw [List.map_cons, Layout.valueChars_list_cons]
      simp only [List.cons_append, List.append_assoc, List.nil_append, readValue,
        next.skipSpaces_lineStart_valueChars]
      have inner (count : Nat) (enough : items.length < count) :=
        readItems_itemsChars (depth + 1) depth parts reads rest count enough
      have counted := length_le_length_itemsChars layout (depth + 1) (items.map Prod.fst)
      rw [List.length_map] at counted
      rw [start, List.cons_append] at inner ⊢
      split
      · rename_i closed
        exact absurd (List.cons.inj closed).1 unclosed
      · rw [inner _ (by simp only [List.length_cons, List.length_append]; omega)]
        rfl

/-- One entry is read; what follows decides whether it is the last one. -/
theorem readEntries_entry (legible : layout.IsLegible) {depth : Nat}
    (part : ReadsAs levels value result) (reads : Reads layout levels depth value result)
    (entries : List (Value × Value)) (name : String) {more : List Char} (ends : EndsNumber more)
    (count : Nat) :
    readEntries (readValue levels) (count + 1) entries (layout.quoted name ++ ([':', ' '] ++
        (layout.valueChars depth value ++ more))) =
      match skipSpaces more with
      | '\x7d' :: rest => .ok (putEntry entries (.text name) result, rest)
      | ',' :: rest =>
          readEntries (readValue levels) count (putEntry entries (.text name) result)
            (skipSpaces rest)
      | rest => fail .expectedComma rest.length := by
  have blank : skipSpaces (' ' :: (layout.valueChars depth value ++ more)) =
      layout.valueChars depth value ++ more :=
    part.skipSpaces_valueChars layout depth more
  rw [Layout.quoted, List.cons_append, List.cons_append, readEntries]
  change (readText _ (name.toList.flatMap layout.escape ++ ['"'] ++ _) >>= _) = _
  rw [legible.readText_quoted]
  simp only [bind, Except.bind, List.cons_append, List.nil_append,
    skipSpaces_cons (show isSpace ':' = false by decide)]
  rewrite [blank, reads more ends, String.ofList_toList]
  rfl

/-- The written fields of a record, each name with its value. -/
def writtenFields (fields : List (String × Value × Value)) : List (String × Value) :=
  fields.map fun field => (field.1, field.2.1)

/-- The fields that are read from the written ones. -/
def readFields (fields : List (String × Value × Value)) : List (String × Value) :=
  fields.map fun field => (field.1, field.2.2)

/-- The entries behind the first one, each on a line of its own. -/
theorem entriesChars_cons_append (layout : Layout) (depth : Nat) (first : String × Value)
    (fields : List (String × Value)) (more : List Char) :
    layout.entriesChars depth (entriesOf (first :: fields)) ++ more =
      ',' :: (layout.lineStart depth ++ (layout.quoted first.1 ++ ([':', ' '] ++
        (layout.valueChars depth first.2 ++
          (layout.entriesChars depth (entriesOf fields) ++ more))))) := by
  rw [entriesOf, List.map_cons, Layout.entriesChars, Layout.valueChars_text]
  simp only [List.cons_append, List.append_assoc, List.nil_append, entriesOf]

theorem skipSpaces_lineStart_quoted (layout : Layout) (depth : Nat) (name : String)
    (rest : List Char) : skipSpaces (layout.lineStart depth ++ (layout.quoted name ++ rest)) =
      layout.quoted name ++ rest :=
  skipSpaces_lineStart layout depth (by decide) _

/-- The entries of a record are read up to its end and put behind those before them. -/
theorem readEntries_entriesChars (legible : layout.IsLegible) (depth outer : Nat)
    {first : String × Value × Value} {fields : List (String × Value × Value)}
    (before : List (String × Value))
    (distinct : (before.map Prod.fst ++ (first :: fields).map Prod.fst).Nodup)
    (parts : ∀ field ∈ first :: fields, ReadsAs levels field.2.1 field.2.2)
    (reads : ∀ field ∈ first :: fields, Reads layout levels depth field.2.1 field.2.2)
    (rest : List Char) (count : Nat) (enough : fields.length < count) :
    readEntries (readValue levels) count (entriesOf before) (layout.quoted first.1 ++
        ([':', ' '] ++ (layout.valueChars depth first.2.1 ++
          (layout.entriesChars depth (entriesOf (writtenFields fields)) ++
            (layout.lineStart outer ++ '\x7d' :: rest))))) =
      .ok (entriesOf (before ++ readFields (first :: fields)), rest) := by
  induction fields generalizing first before count with
  | nil =>
      cases count with
      | zero => exact absurd enough (Nat.not_lt_zero _)
      | succ count =>
          rw [writtenFields, List.map_nil, entriesOf, entriesOf, List.map_nil, Layout.entriesChars,
            List.nil_append, readEntries_entry legible (parts first List.mem_cons_self)
              (reads first List.mem_cons_self) _ _ (endsNumber_lineStart _ _ _),
            skipSpaces_lineStart _ _ (by decide)]
          exact congrArg (fun entries => Except.ok (entries, rest))
            (putEntry_entriesOf distinct first.2.2)
  | cons second fields ih =>
      cases count with
      | zero => exact absurd enough (Nat.not_lt_zero _)
      | succ count =>
          have following : (before ++ [(first.1, first.2.2)]).map Prod.fst ++
              (second :: fields).map Prod.fst =
                before.map Prod.fst ++ (first :: second :: fields).map Prod.fst := by simp
          have later := ih (before ++ [(first.1, first.2.2)]) (following ▸ distinct)
            (fun field member => parts field (List.mem_cons_of_mem first member))
            (fun field member => reads field (List.mem_cons_of_mem first member)) count
            (Nat.lt_of_succ_lt_succ enough)
          change readEntries _ _ _ (_ ++ (_ ++ (_ ++ (layout.entriesChars depth (entriesOf
            ((second.1, second.2.1) :: writtenFields fields)) ++ _)))) = _
          rw [entriesChars_cons_append, readEntries_entry legible (parts first List.mem_cons_self)
              (reads first List.mem_cons_self) _ _ (endsNumber_cons (by decide) _),
            putEntry_entriesOf distinct, skipSpaces_cons (by decide)]
          change readEntries _ _ _ (skipSpaces (layout.lineStart depth ++ _)) = _
          rw [skipSpaces_lineStart_quoted, later, List.append_assoc]
          rfl

/-- A record of values that are read is read, with one level more. -/
theorem reads_record (legible : layout.IsLegible) {depth : Nat}
    {fields : List (String × Value × Value)} (distinct : (fields.map Prod.fst).Nodup)
    (parts : ∀ field ∈ fields, ReadsAs levels field.2.1 field.2.2)
    (reads : ∀ field ∈ fields, Reads layout levels (depth + 1) field.2.1 field.2.2) :
    Reads layout (levels + 1) depth (.ofFields (writtenFields fields))
      (.ofFields (readFields fields)) := by
  intro rest _
  cases fields with
  | nil =>
      rw [writtenFields, List.map_nil, Value.ofFields, List.map_nil, Layout.valueChars_record_nil]
      simp only [List.cons_append, List.nil_append, readValue,
        skipSpaces_cons (show isSpace '\x7d' = false by decide)]
      rfl
  | cons first fields =>
      rw [writtenFields, List.map_cons, Value.ofFields, List.map_cons,
        Layout.valueChars_record_cons]
      have inner (count : Nat) (enough : fields.length < count) :=
        readEntries_entriesChars legible (depth + 1) depth [] distinct parts reads rest count enough
      have counted := length_le_length_entriesChars layout (depth + 1)
        (entriesOf (writtenFields fields))
      rw [entriesOf, writtenFields, List.length_map, List.length_map] at counted
      simp only [entriesOf, writtenFields, List.map_nil, Layout.quoted, List.cons_append,
        List.append_assoc, List.nil_append, readValue,
        skipSpaces_lineStart _ _ (show isSpace '"' = false by decide)] at inner ⊢
      change (readEntries (readValue levels) _ [] _ >>= _) = _
      rw [inner _ (by simp only [List.length_cons, List.length_append]; omega)]
      rfl

/-- Every written value is read, at every depth of the writing. -/
theorem ReadsAs.reads (legible : layout.IsLegible) (part : ReadsAs levels value result)
    (depth : Nat) : Reads layout levels depth value result := by
  induction part generalizing depth with
  | text content => exact reads_text legible depth content
  | int number short =>
      obtain ⟨c, chars, same, begins⟩ := exists_toString_int_eq number
      refine reads_number begins (by rw [Layout.valueChars_int, same]) fun ends => ?_
      rw [← same, readScalar_int short ends]
  | @float _ number other reads =>
      obtain ⟨c, chars, same, begins⟩ := exists_floatChars_eq number
      refine reads_number begins (by rw [Layout.valueChars_float, same]) fun ends => ?_
      rw [← same, reads ends]
  | list items parts ih => exact reads_list parts fun item member => ih item member (depth + 1)
  | record fields distinct parts ih =>
      exact reads_record legible distinct parts fun field member => ih field member (depth + 1)

/-- A written value is read from its text alone. -/
theorem ReadsAs.parseChars_write (legible : layout.IsLegible)
    (part : ReadsAs levels value result) :
    parseChars levels (layout.write value).toList = .ok result := by
  have read := part.reads legible 0 [] endsNumber_nil
  have begins := part.skipSpaces_valueChars layout 0 []
  rw [List.append_nil] at read begins
  obtain ⟨c, chars, start, -, -, unmarked⟩ := part.exists_cons layout 0
  rw [Layout.write, String.toList_ofList, parseChars, if_neg (by simp [start, unmarked]), begins,
    read]
  rfl

end

/-- Reading undoes writing, for every document and every width of a level. -/
theorem parseChars_write (indent : Nat) {levels : Nat} {value : Value}
    (document : IsDocument levels value) :
    parseChars levels ((spaced indent).write value).toList = .ok value :=
  document.readsAs.parseChars_write (isLegible_spaced indent)

theorem parse_write (indent : Nat) {value : Value} (document : IsDocument mostLevels value) :
    parse ((spaced indent).write value) = .ok value :=
  parseChars_write indent document

/-! Line ends -/

section

variable (indent : Nat)

theorem return_notMem_escapeRaw (c : Char) : '\r' ∉ escapeRaw c := by
  have controls : ∀ code < 0x20, '\r' ∉ unitEscape code := by decide
  unfold escapeRaw
  split
  iterate 7 decide
  · rename_i _ _ _ other _ _ _
    split
    · rename_i control
      exact controls _ control
    · rw [List.mem_singleton]
      exact fun same => other same.symm

theorem return_notMem_quoted (content : String) : '\r' ∉ (spaced indent).quoted content := by
  simp only [Layout.quoted, List.cons_append, List.mem_cons, List.mem_append, List.mem_flatMap,
    List.not_mem_nil, or_false, not_or, not_exists, not_and]
  exact ⟨by decide, fun c _ => return_notMem_escapeRaw c, by decide⟩

theorem return_notMem_lineStart (layout : Layout) (depth : Nat) :
    '\r' ∉ layout.lineStart depth := by
  rw [Layout.lineStart, List.mem_cons, not_or]
  exact ⟨by decide, fun member => absurd (List.eq_of_mem_replicate member) (by decide)⟩

theorem return_notMem_itemsChars {depth : Nat} {items : List Value}
    (parts : ∀ item ∈ items, '\r' ∉ (spaced indent).valueChars depth item) :
    '\r' ∉ (spaced indent).itemsChars depth items := by
  induction items with
  | nil => exact List.not_mem_nil
  | cons item items ih =>
      rw [List.forall_mem_cons] at parts
      simp [Layout.itemsChars, return_notMem_lineStart, parts.1, ih parts.2]

theorem return_notMem_entriesChars {depth : Nat} {fields : List (String × Value)}
    (parts : ∀ field ∈ fields, '\r' ∉ (spaced indent).valueChars depth field.2) :
    '\r' ∉ (spaced indent).entriesChars depth (entriesOf fields) := by
  induction fields with
  | nil => exact List.not_mem_nil
  | cons field fields ih =>
      rw [List.forall_mem_cons] at parts
      have later := ih parts.2
      have first := return_notMem_quoted indent field.1
      have whole := entriesChars_cons_append (spaced indent) depth field fields []
      rw [List.append_nil, List.append_nil] at whole
      simp [whole, return_notMem_lineStart, parts.1, later, first]

/-- A written document has line feeds only. -/
theorem IsDocument.return_notMem {levels : Nat} {value : Value}
    (document : IsDocument levels value) (depth : Nat) :
    '\r' ∉ (spaced indent).valueChars depth value := by
  induction document generalizing depth with
  | text content =>
      rw [Layout.valueChars_text]
      exact return_notMem_quoted indent content
  | int number _ =>
      rw [Layout.valueChars_int]
      exact fun member => absurd (isNumeral_toString_int number _ member) (by decide)
  | list items parts ih =>
      cases items with
      | nil => simp [Layout.valueChars_list_nil]
      | cons item items =>
          rw [List.forall_mem_cons] at ih
          have later := return_notMem_itemsChars indent fun item member =>
            ih.2 item member (depth + 1)
          simp [Layout.valueChars_list_cons, return_notMem_lineStart, ih.1 (depth + 1), later]
  | record fields distinct parts ih =>
      cases fields with
      | nil => simp [Value.ofFields, Layout.valueChars_record_nil]
      | cons field fields =>
          rw [List.forall_mem_cons] at ih
          have later := return_notMem_entriesChars indent fun field member =>
            ih.2 field member (depth + 1)
          have first := return_notMem_quoted indent field.1
          rw [Value.ofFields, List.map_cons, Layout.valueChars_record_cons]
          rw [entriesOf] at later
          simp [return_notMem_lineStart, ih.1 (depth + 1), later, first]

end

end PlainScript.Json
