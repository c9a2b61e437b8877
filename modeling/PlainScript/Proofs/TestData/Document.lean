/-
Test data in a file: what is written there is loaded again, as far as all texts are printable.
-/

import PlainScript.Proofs.File.LineEnds
import PlainScript.Proofs.Schema.Decoder
import PlainScript.Proofs.Yaml.RoundTrip
import PlainScript.TestData.Document

namespace PlainScript

open Schema Yaml

/-- All characters are printable ones of the basic alphabet. -/
def IsBasicText (text : String) : Prop := ∀ c ∈ text.toList, IsBasic c

instance (text : String) : Decidable (IsBasicText text) :=
  inferInstanceAs (Decidable (∀ c ∈ text.toList, IsBasic c))

/-- Entries of printable texts, each key once. -/
structure HoldsTexts (entries : List (String × String)) : Prop where
  distinct : (entries.map Prod.fst).Nodup
  keys : ∀ entry ∈ entries, IsBasicText entry.1
  values : ∀ entry ∈ entries, IsBasicText entry.2

theorem HoldsTexts.isDocument {entries : List (String × String)} (holds : HoldsTexts entries) :
    IsDocument (.ofTexts entries) := by
  refine .record _ ?_ ?_ ?_
  · rw [List.map_map]
    exact holds.distinct
  · rw [List.forall_mem_map]
    exact holds.keys
  · rw [List.forall_mem_map]
    exact fun entry member => .text entry.2 (holds.values entry member)

theorem nestsWithin_ofTexts {levels : Nat} (entries : List (String × String)) :
    NestsWithin (levels + 1) (.ofTexts entries) := by
  refine nestsWithin_ofFields ?_
  rw [List.forall_mem_map]
  exact fun entry _ => nestsWithin_text entry.2

namespace DataSet

theorem decode_document (set : DataSet) : decode set.document = .valid set := by
  have name : required ["name"] plainText set.document = .valid set.name :=
    required_plainText (by simp [document])
  have description : possible ["description"] plainText set.document =
      .valid set.description := by
    have found : set.document.field? "description" =
        some ((set.description.map Value.text).getD .null) := by
      simp [document, List.lookup_cons]
    refine defaulted_of_field? found ?_
    cases set.description <;> rfl
  have entries : defaulted ["data"] (mapping .memory) [] set.document = .valid set.entries :=
    defaulted_of_field? (by simp [document, List.lookup_cons]) (mapping_ofTexts .memory set.entries)
  have isValid : defaulted ["is_valid"] truth true set.document = .valid set.isValid := by
    have found : set.document.field? "is_valid" = some (.bool set.isValid) := by
      simp [document, List.lookup_cons]
    exact defaulted_of_field? found rfl
  change _ <$> required _ _ set.document <*> possible _ _ set.document <*>
    defaulted _ _ _ set.document <*> defaulted _ _ _ set.document = _
  rw [name, description, entries, isValid]
  rfl

/-- The texts of the set are printable, and each of its keys is there once. -/
structure IsWritable (set : DataSet) : Prop where
  name : IsBasicText set.name
  description : ∀ text ∈ set.description, IsBasicText text
  entries : HoldsTexts set.entries

theorem IsWritable.isDocument {set : DataSet} (writable : set.IsWritable) :
    IsDocument set.document := by
  have names : ∀ name ∈ ["name", "description", "data", "is_valid"], IsBasicText name := by decide
  have description : IsDocument ((set.description.map Value.text).getD .null) := by
    cases held : set.description with
    | none => exact .null
    | some text => exact .text text (writable.description text held)
  refine .record _ (show ["name", "description", "data", "is_valid"].Nodup by decide)
    (fun field member => names field.1 (List.mem_map_of_mem member)) ?_
  simp only [List.forall_mem_cons]
  exact ⟨.text _ writable.name, description, writable.entries.isDocument, .bool _, nofun⟩

theorem nestsWithin_document {levels : Nat} (set : DataSet) :
    NestsWithin (levels + 2) set.document := by
  have description : NestsWithin (levels + 1) ((set.description.map Value.text).getD .null) := by
    cases set.description with
    | none => exact nestsWithin_scalar rfl
    | some text => exact nestsWithin_text text
  refine nestsWithin_ofFields ?_
  simp only [List.forall_mem_cons]
  exact ⟨nestsWithin_text _, description, nestsWithin_ofTexts _, nestsWithin_scalar rfl, nofun⟩

end DataSet

namespace TestData

theorem decode_document (data : TestData) : decode data.document = .valid data := by
  have baseUrl : defaulted ["base_url"] plainText "" data.document = .valid data.baseUrl :=
    defaulted_plainText (by simp [document])
  have sets : defaulted ["datasets"] (listOf .memory DataSet.decode) [] data.document =
      .valid data.sets :=
    defaulted_of_field? (by simp [document, List.lookup_cons])
      (listOf_map .memory DataSet.document DataSet.decode_document data.sets)
  have globals : defaulted ["global_variables"] (mapping .memory) [] data.document =
      .valid data.globals :=
    defaulted_of_field? (by simp [document, List.lookup_cons])
      (mapping_ofTexts .memory data.globals)
  change _ <$> defaulted _ _ _ data.document <*> defaulted _ _ _ data.document <*>
    defaulted _ _ _ data.document = _
  rw [baseUrl, sets, globals]
  rfl

/-- All texts are printable, and each key is there once in its set or among the variables. -/
structure IsWritable (data : TestData) : Prop where
  baseUrl : IsBasicText data.baseUrl
  sets : ∀ set ∈ data.sets, set.IsWritable
  globals : HoldsTexts data.globals

variable {data : TestData}

/-- The fields of the document. -/
def fields (data : TestData) : List (String × Value) := [
  ("base_url", .text data.baseUrl),
  ("datasets", .list (data.sets.map DataSet.document)),
  ("global_variables", Value.ofTexts data.globals)]

theorem IsWritable.holdsDocuments (writable : data.IsWritable) : HoldsDocuments data.fields := by
  have names : ∀ name ∈ ["base_url", "datasets", "global_variables"], IsBasicText name := by decide
  have sets : IsDocument (.list (data.sets.map DataSet.document)) :=
    .list _ (List.forall_mem_map.mpr fun set member => (writable.sets set member).isDocument)
  refine ⟨show ["base_url", "datasets", "global_variables"].Nodup by decide,
    fun field member => names field.1 (List.mem_map_of_mem member), ?_⟩
  simp only [fields, List.forall_mem_cons]
  exact ⟨.text _ writable.baseUrl, sets, writable.globals.isDocument, nofun⟩

/-- A list of records with records in them is all that there is. -/
theorem nestsWithin_document {levels : Nat} (data : TestData) :
    NestsWithin (levels + 4) data.document := by
  refine nestsWithin_ofFields ?_
  simp only [List.forall_mem_cons]
  refine ⟨nestsWithin_text _, nestsWithin_list ?_, nestsWithin_ofTexts _, nofun⟩
  exact List.forall_mem_map.mpr fun set _ => set.nestsWithin_document

/-- What is written of test data is read back as their document. -/
theorem read_write (writable : data.IsWritable) : Yaml.read data.write = .ok data.document :=
  Yaml.read_write (List.cons_ne_nil _ _) writable.holdsDocuments data.nestsWithin_document

/-- Writing turns no line feed into anything else that ends a line. -/
theorem read_content (writable : data.IsWritable) :
    (File.Content.text data.write).read = .ok data.write := by
  have absent : '\r' ∉ data.write.toList := by
    intro member
    rcases isLegible_write writable.holdsDocuments _ member with basic | same
    · exact absurd basic (by decide)
    · exact absurd same (by decide)
  rw [File.Content.read, File.unifyLineEnds_eq_self absent, String.ofList_toList]

theorem load_of_read {directory : Directory} {path content : String} {document : Value}
    (text : directory.readText path = .ok content) (read : Yaml.read content = .ok document) :
    load directory path = ofDocument path document := by
  rw [load, text]
  change ((Yaml.read content).mapError Fault.malformed >>= ofDocument path) = _
  rw [read]
  rfl

theorem ofDocument_document (path : String) (data : TestData) :
    ofDocument path data.document = .ok data := by
  change (decode data.document).toExcept.mapError _ = _
  rw [decode_document]
  rfl

/-- Test data that were written into a file are loaded as they were. -/
theorem load_eq_of_openFile (writable : data.IsWritable) {directory : Directory} {path : String}
    (opened : directory.openFile path = .ok (.text data.write)) :
    load directory path = .ok data := by
  have text : directory.readText path = .ok data.write := by
    rw [Directory.readText, opened]
    change (File.Content.text data.write).read.mapError File.Fault.encoding = _
    rw [read_content writable]
    rfl
  rw [load_of_read text (read_write writable), ofDocument_document]

end TestData

end PlainScript
