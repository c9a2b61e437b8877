/-
Templates of test data. Whatever the fields are called, the keys and the values of a template are
plain words, so that a template that is written is loaded again; and each of its values asks for
another one, so that none is ready for use.
-/

import PlainScript.Proofs.File.Directory
import PlainScript.Proofs.TestData.Document
import PlainScript.Proofs.TestData.Placeholder
import PlainScript.Proofs.Text.Ascii
import PlainScript.TestData.Template

namespace PlainScript

open Yaml Placeholder

/-! Entries that are put one behind the other -/

section

variable {entries : List (String × String)} {entry : String × String} {key value : String}

theorem mem_putText (member : entry ∈ putText entries key value) :
    entry ∈ entries ∨ entry = (key, value) := by
  rw [putText] at member
  split at member
  · obtain ⟨former, inside, rfl⟩ := List.mem_map.mp member
    split
    · exact .inr rfl
    · exact .inl inside
  · rw [List.mem_append, List.mem_singleton] at member
    exact member

/-- Keys stay apart when a value is put under one of them, or under another one. -/
theorem nodup_putText (distinct : (entries.map Prod.fst).Nodup) (key value : String) :
    ((putText entries key value).map Prod.fst).Nodup := by
  rw [putText]
  split
  · have same : Prod.fst ∘ (fun entry : String × String =>
        if entry.1 == key then (key, value) else entry) = Prod.fst := by
      funext entry
      rw [Function.comp_apply]
      split
      · rename_i found
        exact (eq_of_beq found).symm
      · rfl
    rw [List.map_map, same]
    exact distinct
  · rename_i absent
    have other : key ∉ entries.map Prod.fst := by
      rw [List.mem_map]
      rintro ⟨entry, inside, rfl⟩
      exact absent (List.any_eq_true.mpr ⟨entry, inside, beq_self_eq_true _⟩)
    rw [List.map_append, List.map_singleton, List.nodup_append]
    refine ⟨distinct, List.pairwise_singleton _ _, fun former inside later single same => ?_⟩
    rw [same, List.mem_singleton.mp single] at inside
    exact other inside

end

namespace TestData

/-! Parts of keys -/

/-- All characters are those that keys are made of. -/
def IsPart (part : String) : Prop := ∀ c ∈ part.toList, isKeyChar c = true ∨ c = '_'

theorem isPart_keyPart (field : String) : IsPart (keyPart field) := by
  intro c member
  rw [keyPart, String.toList_ofList] at member
  obtain ⟨former, inside, rfl⟩ := List.mem_map.mp member
  split
  · rename_i kept
    exact .inl kept
  · exact .inr rfl

variable {part : String} {c : Char}

theorem IsPart.toNat_lt (isPart : IsPart part) (member : c ∈ part.toList) : c.toNat < 128 := by
  rcases isPart c member with key | rfl
  · exact Chars.toNat_lt_of_small key
  · decide

/-- In small letters and in capitals, a part of a key is printable and has no braces. -/
theorem IsPart.isBasic (isPart : IsPart part) (member : c ∈ part.toList) :
    IsBasic c ∧ IsBasic c.toUpper ∧ c.toUpper ∉ ['\x7b', '\x7d'] := by
  have all : ∀ code < 128, isKeyChar (.ofNat code) = true ∨ Char.ofNat code = '_' →
      IsBasic (.ofNat code) ∧ IsBasic (Char.ofNat code).toUpper ∧
        (Char.ofNat code).toUpper ∉ ['\x7b', '\x7d'] := by
    decide
  exact Chars.forall_ascii (P := fun c => isKeyChar c = true ∨ c = '_' →
    IsBasic c ∧ IsBasic c.toUpper ∧ c.toUpper ∉ ['\x7b', '\x7d']) all (isPart.toNat_lt member)
    (isPart c member)

theorem IsPart.toList_upper (isPart : IsPart part) :
    (Text.upper part).toList = part.toList.map Char.toUpper := by
  rw [Text.upper, String.toList_ofList, Chars.upper_of_ascii fun c member => isPart.toNat_lt member]

/-! Requests -/

/-- The words of a request are printable and have no braces. -/
def AsksPlainly (words : String) : Prop :=
  ∀ c ∈ words.toList, IsBasic c ∧ c ∉ ['\x7b', '\x7d']

instance (words : String) : Decidable (AsksPlainly words) :=
  inferInstanceAs (Decidable (∀ c ∈ words.toList, IsBasic c ∧ c ∉ ['\x7b', '\x7d']))

variable {start words : String}

/-- What is asked for is printable and has no braces. -/
theorem asksPlainly_name (plain : AsksPlainly words) (isPart : IsPart part) :
    ∀ c ∈ words.toList ++ (Text.upper part).toList, IsBasic c ∧ c ∉ ['\x7b', '\x7d'] := by
  intro c member
  rcases List.mem_append.mp member with word | upper
  · exact plain c word
  · rw [isPart.toList_upper] at upper
    obtain ⟨small, inside, rfl⟩ := List.mem_map.mp upper
    exact (isPart.isBasic inside).2

theorem toList_request (words field : String) : (request words field).toList =
    '\x7b' :: '\x7b' :: (words.toList ++ (Text.upper field).toList) ++ ['\x7d', '\x7d'] := by
  rw [request, String.toList_ofList, List.append_assoc ['\x7b', '\x7b']]
  rfl

theorem isBasicText_request (plain : AsksPlainly words) (isPart : IsPart part) :
    IsBasicText (request words part) := by
  have braces : IsBasic '\x7b' ∧ IsBasic '\x7d' := by decide
  intro c member
  rw [toList_request, List.mem_append, List.mem_cons, List.mem_cons, List.mem_cons,
    List.mem_singleton] at member
  rcases member with (rfl | rfl | name) | (rfl | rfl)
  · exact braces.1
  · exact braces.1
  · exact (asksPlainly_name plain isPart c name).1
  · exact braces.2
  · exact braces.2

/-- A request is a placeholder itself. -/
theorem isReady_request (plain : AsksPlainly words) (spoken : words ≠ "") (isPart : IsPart part) :
    isReady (request words part) = false := by
  have name : IsName (words.toList ++ (Text.upper part).toList) := by
    refine ⟨?_, fun opens => ?_, fun closes => ?_⟩
    · rw [Ne, List.append_eq_nil_iff, String.toList_eq_nil_iff]
      exact fun silent => spoken silent.1
    · exact (asksPlainly_name plain isPart _ opens).2 (by decide)
    · exact (asksPlainly_name plain isPart _ closes).2 (by decide)
  have woven : Woven [words.toList ++ (Text.upper part).toList] (request words part).toList := by
    rw [toList_request]
    exact .placeholder name .nil
  rw [isReady, names_eq_map woven]
  exact Bool.and_false _

/-- Entries that ask for values, each key once. -/
structure Asks (start words : String) (entries : List (String × String)) : Prop where
  distinct : (entries.map Prod.fst).Nodup
  each : ∀ entry ∈ entries, ∃ part, IsPart part ∧ entry = (start ++ part, request words part)

theorem asks_requests (start words : String) (fields : List String) :
    Asks start words (requests start words fields) := by
  have onward (parts : List String) (isPart : ∀ part ∈ parts, IsPart part)
      (entries : List (String × String)) (asks : Asks start words entries) :
      Asks start words (parts.foldl
        (fun entries part => putText entries (start ++ part) (request words part)) entries) := by
    induction parts generalizing entries with
    | nil => exact asks
    | cons part parts ih =>
        rw [List.forall_mem_cons] at isPart
        refine ih isPart.2 _ ⟨nodup_putText asks.distinct _ _, fun entry member => ?_⟩
        rcases mem_putText member with former | rfl
        · exact asks.each entry former
        · exact ⟨part, isPart.1, rfl⟩
  refine onward _ (fun part member => ?_) [] ⟨List.nodup_nil, nofun⟩
  obtain ⟨field, -, rfl⟩ := List.mem_map.mp member
  exact isPart_keyPart field

variable {entries : List (String × String)}

theorem Asks.holdsTexts (asks : Asks start words entries) (basic : IsBasicText start)
    (plain : AsksPlainly words) : HoldsTexts entries := by
  refine ⟨asks.distinct, fun entry member => ?_, fun entry member => ?_⟩
  · obtain ⟨part, isPart, rfl⟩ := asks.each entry member
    intro c inside
    rw [String.toList_append, List.mem_append] at inside
    exact inside.elim (basic c) fun inside => (isPart.isBasic inside).1
  · obtain ⟨part, isPart, rfl⟩ := asks.each entry member
    exact isBasicText_request plain isPart

theorem Asks.filter_isReady (asks : Asks start words entries) (plain : AsksPlainly words)
    (spoken : words ≠ "") : (entries.filter fun entry => isReady entry.2) = [] := by
  rw [List.filter_eq_nil_iff]
  intro entry member
  obtain ⟨part, isPart, rfl⟩ := asks.each entry member
  rw [isReady_request plain spoken isPart]
  exact Bool.false_ne_true

/-! Templates -/

theorem isWritable_template (fields : List String) : (template fields).IsWritable where
  baseUrl := isBasicText_request (by decide) (by exact nofun)
  sets := by
    rw [template, List.forall_mem_cons, List.forall_mem_singleton]
    have valid := (asks_requests "test_" "REPLACE_WITH_YOUR_" fields).holdsTexts (by decide)
      (by decide)
    have invalid := (asks_requests "invalid_" "REPLACE_WITH_INVALID_" fields).holdsTexts (by decide)
      (by decide)
    exact ⟨⟨show IsBasicText "valid_data" by decide,
        show ∀ text ∈ some "Valid test data", IsBasicText text by decide, valid⟩,
      ⟨show IsBasicText "invalid_data" by decide,
        show ∀ text ∈ some "Invalid test data for negative testing", IsBasicText text by decide,
        invalid⟩⟩
  globals := ⟨List.nodup_nil, nofun, nofun⟩

/-- No value of a template is ready for use. -/
theorem credentials_template (fields : List String) (kind : DataKind) :
    (template fields).credentials kind = [] := by
  have unready : (((template fields).entries kind).filter fun entry => isReady entry.2) = [] := by
    cases kind with
    | valid => exact (asks_requests "test_" _ fields).filter_isReady (by decide) (by decide)
    | invalid => exact (asks_requests "invalid_" _ fields).filter_isReady (by decide) (by decide)
  rw [credentials, unready]
  rfl

/-- Whatever the fields are called, a template that was written into a file is loaded as it was, and
it has no credentials of either kind. -/
theorem load_template {directory : Directory} {path : String} (fields : List String)
    (opened : directory.openFile path = .ok (.text (template fields).write)) :
    load directory path = .ok (template fields) ∧
      ∀ kind, (template fields).credentials kind = [] :=
  ⟨load_eq_of_openFile (isWritable_template fields) opened, credentials_template fields⟩

/-- Fields in two alphabets, two of them with one key, in a new file. -/
theorem load_template_of_new_file :
    let fields := ["User Name", "user-name", "Straße", ""]
    ∃ directory, Directory.empty.writeText "data.yaml" (template fields).write = .ok directory ∧
      load directory "data.yaml" = .ok (template fields) ∧
        ∀ kind, (template fields).credentials kind = [] := by
  have located : Directory.empty.locate "data.yaml" = .ok ["data.yaml"] := by decide +kernel
  have names : Directory.empty.NamesFile "data.yaml" :=
    .of_locate located (by decide +kernel) (by decide +kernel)
  have written (content : String) : Directory.empty.writeText "data.yaml" content =
      .ok (Directory.empty.put (File.placeOf "data.yaml") content) :=
    Directory.writeText_eq_ok_iff.mpr ⟨names, rfl⟩
  exact ⟨_, written _, load_template _ (Directory.openFile_of_writeText (written _))⟩

end TestData

end PlainScript
