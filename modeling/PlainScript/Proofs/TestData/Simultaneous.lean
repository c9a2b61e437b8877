/-
Filling in all placeholders at once. Test data are put in one key after another, and each time the
whole text is gone through; where neither the data nor the text around the placeholders have braces,
this is as good as putting in a value for every placeholder at the same time.
-/

import PlainScript.Proofs.TestData.Placeholder

namespace PlainScript

/-- The text has no braces. -/
def IsBraceless (text : String) : Prop := '{' ∉ text.toList ∧ '}' ∉ text.toList

instance (text : String) : Decidable (IsBraceless text) := inferInstanceAs (Decidable (_ ∧ _))

theorem IsBraceless.upper {text : String} (braceless : IsBraceless text) :
    IsBraceless (Text.upper text) := by
  have absent : ∀ brace ∈ ['{', '}'], brace ∉ text.toList → brace ∉ (Text.upper text).toList := by
    intro brace member absent
    rw [Text.upper, String.toList_ofList]
    have caseless := Text.isCaseless_separators brace (List.mem_cons_of_mem _ member)
    exact Chars.notMem_upper caseless absent
  exact ⟨absent '{' (by simp) braceless.1, absent '}' (by simp) braceless.2⟩

/-! Texts with holes -/

namespace Placeholder

/-- A part of a text: a piece that stays, or a hole with a name between doubled braces. -/
inductive Part where
  | piece (text : String)
  | hole (name : String)
  deriving DecidableEq, Repr

namespace Part

def chars : Part → List Char
  | piece text => text.toList
  | hole name => opening ++ name.toList ++ closing

/-- Neither a piece nor a name has braces. -/
def IsPlain : Part → Prop
  | piece text => IsBraceless text
  | hole name => IsBraceless name

instance : (part : Part) → Decidable part.IsPlain
  | piece text => inferInstanceAs (Decidable (IsBraceless text))
  | hole name => inferInstanceAs (Decidable (IsBraceless name))

/-- Puts in the value of a name; a hole without one stays. -/
def filled (value? : String → Option String) : Part → Part
  | piece text => piece text
  | hole name => ((value? name).map piece).getD (hole name)

variable {first second value? : String → Option String} {part : Part}

theorem filled_none : part.filled (fun _ => none) = part := by
  cases part <;> rfl

/-- What is put in first stays when the other holes are filled. -/
theorem filled_filled :
    (part.filled first).filled second = part.filled fun name => (first name).or (second name) := by
  cases part with
  | piece text => rfl
  | hole name =>
      rw [filled, filled]
      cases first name with
      | none => rfl
      | some value => rfl

/-- Values without braces leave a plain part. -/
theorem IsPlain.filled (plain : part.IsPlain)
    (values : ∀ name, ∀ value ∈ value? name, IsBraceless value) : (part.filled value?).IsPlain := by
  cases part with
  | piece text => exact plain
  | hole name =>
      rw [Part.filled]
      cases found : value? name with
      | none => exact plain
      | some value => exact values name value found

end Part

/-- The parts of a text one after another. -/
def textOf (parts : List Part) : String := .ofList (parts.flatMap Part.chars)

end Placeholder

namespace TestData

open Placeholder

/-- The value of the first entry with a key that spells the name in capitals. -/
def valueFor? (entries : List (String × String)) (name : String) : Option String :=
  (entries.find? fun entry => Text.upper entry.1 == name).map Prod.snd

theorem valueFor?_cons (entry : String × String) (entries : List (String × String))
    (name : String) :
    valueFor? (entry :: entries) name = (valueFor? [entry] name).or (valueFor? entries name) := by
  rw [valueFor?, valueFor?, List.find?_cons, List.find?_singleton]
  cases Text.upper entry.1 == name <;> rfl

/-- The key and the value of an entry have no braces. -/
def IsPlainEntry (entry : String × String) : Prop := IsBraceless entry.1 ∧ IsBraceless entry.2

instance (entry : String × String) : Decidable (IsPlainEntry entry) :=
  inferInstanceAs (Decidable (_ ∧ _))

variable {part : Part} {parts : List Part} {entry : String × String}
  {entries : List (String × String)}

theorem isBraceless_of_valueFor? (plain : ∀ entry ∈ entries, IsPlainEntry entry) (name : String) :
    ∀ value ∈ valueFor? entries name, IsBraceless value := by
  intro value found
  obtain ⟨entry, searched, rfl⟩ := Option.map_eq_some_iff.mp found
  exact (plain entry (List.mem_of_find?_eq_some searched)).2

/-- A value is put into a hole that spells its key, and everything else is passed over. -/
theorem replaceFrom_chars_append (key : IsBraceless entry.1) (plain : part.IsPlain)
    (rest : List Char) :
    Chars.replaceFrom (opening ++ (Text.upper entry.1).toList ++ closing) entry.2.toList 0
        (part.chars ++ rest) =
      (part.filled (valueFor? [entry])).chars ++
        Chars.replaceFrom (opening ++ (Text.upper entry.1).toList ++ closing) entry.2.toList 0
          rest := by
  cases part with
  | piece text =>
      have begins : (opening ++ (Text.upper entry.1).toList ++ closing).head? = some '{' := rfl
      exact Chars.replaceFrom_front_append begins plain.1 _ _
  | hole name =>
      by_cases same : Text.upper entry.1 = name
      · have value : valueFor? [entry] name = some entry.2 := by
          rw [valueFor?, List.find?_singleton, beq_iff_eq.mpr same]
          rfl
        rw [Part.filled, value, Part.chars, ← same]
        exact Chars.replaceFrom_piece_append (by simp [opening]) _ _
      · have missing : valueFor? [entry] name = none := by
          rw [valueFor?, List.find?_singleton, beq_eq_false_iff_ne.mpr same]
          rfl
        have other : name.toList ≠ (Text.upper entry.1).toList :=
          fun equal => same (String.toList_inj.mp equal.symm)
        have passed := replaceFrom_placeholder_of_ne plain.1 plain.2 key.upper.2 other
          entry.2.toList rest
        rw [Part.filled, missing]
        simpa [Part.chars, opening, closing] using passed

/-- Putting in the value of one key fills the holes that spell it, all at once. -/
theorem replace_textOf (key : IsBraceless entry.1) (plain : ∀ part ∈ parts, part.IsPlain) :
    Text.replace (textOf parts) (ofKey entry.1) entry.2 =
      textOf (parts.map (Part.filled (valueFor? [entry]))) := by
  rw [replace_ofKey, textOf, textOf, String.toList_ofList]
  apply congrArg String.ofList
  induction parts with
  | nil => rfl
  | cons part parts ih =>
      rw [List.forall_mem_cons] at plain
      rw [List.flatMap_cons, replaceFrom_chars_append key plain.1, ih plain.2, List.map_cons,
        List.flatMap_cons]

/-- Going through the text once for each key is the same as going through it once. -/
theorem fillFrom_textOf (entriesPlain : ∀ entry ∈ entries, IsPlainEntry entry)
    (plain : ∀ part ∈ parts, part.IsPlain) :
    fillFrom (textOf parts) entries = textOf (parts.map (Part.filled (valueFor? entries))) := by
  induction entries generalizing parts with
  | nil =>
      have none : valueFor? [] = fun _ => none := rfl
      have same : parts.map (Part.filled (valueFor? [])) = parts := by
        rw [none, List.map_congr_left fun part _ => Part.filled_none, List.map_id']
      rw [same]
      rfl
  | cons entry entries ih =>
      rw [List.forall_mem_cons] at entriesPlain
      have later : ∀ part ∈ parts.map (Part.filled (valueFor? [entry])), part.IsPlain := by
        rw [List.forall_mem_map]
        intro part member
        apply (plain part member).filled
        apply isBraceless_of_valueFor?
        simpa using entriesPlain.1
      rw [fillFrom, List.foldl_cons, ← fillFrom, replace_textOf entriesPlain.1.1 plain,
        ih entriesPlain.2 later, List.map_map]
      congr 2
      funext part
      rw [Function.comp_apply, Part.filled_filled]
      congr 1
      funext name
      exact (valueFor?_cons entry entries name).symm

/-- Nothing is put into a text without opening braces. -/
theorem fillFrom_of_notMem {text : String} (absent : '{' ∉ text.toList)
    (entries : List (String × String)) : fillFrom text entries = text := by
  induction entries with
  | nil => rfl
  | cons entry entries ih =>
      have begins : (opening ++ (Text.upper entry.1).toList ++ closing).head? = some '{' := rfl
      have kept := Chars.replaceFrom_front_append begins absent entry.2.toList []
      rw [List.append_nil, Chars.replaceFrom, List.append_nil] at kept
      rw [fillFrom, List.foldl_cons, ← fillFrom, replace_ofKey, kept, String.ofList_toList, ih]

/-- What stands in for a name: the value of a variable, or else that of an entry of the data set. -/
def standIn? (data : TestData) (kind : DataKind) (name : String) : Option String :=
  (valueFor? data.globals name).or (valueFor? (data.entries kind) name)

/-- Where there are no other braces, placeholders are filled as if all at once: each with the value of
the first variable that spells its name in capitals, or else of the first such entry of the data set,
and those without one are left. So no data set hides a variable: where the variables spell all names,
it does not matter which data sets there are and which is meant. -/
theorem fill_textOf {data : TestData} {type : String} {parts : List Part}
    (entriesPlain : ∀ entry ∈ data.globals ++ data.entries (.ofName type), IsPlainEntry entry)
    (plain : ∀ part ∈ parts, part.IsPlain) :
    data.fill (.ofName type) (textOf parts) =
        textOf (parts.map (Part.filled (data.standIn? (.ofName type)))) ∧
      ((∀ name, .hole name ∈ parts → (valueFor? data.globals name).isSome) →
        ∀ sets kind, { data with sets }.fill kind (textOf parts) =
          textOf (parts.map (Part.filled (valueFor? data.globals)))) := by
  rw [List.forall_mem_append] at entriesPlain
  have once := fillFrom_textOf entriesPlain.1 plain
  have later : ∀ part ∈ parts.map (Part.filled (valueFor? data.globals)), part.IsPlain := by
    rw [List.forall_mem_map]
    intro part member
    exact (plain part member).filled (isBraceless_of_valueFor? entriesPlain.1)
  constructor
  · rw [fill, once, fillFrom_textOf entriesPlain.2 later, List.map_map]
    congr 2
    funext part
    exact Part.filled_filled
  · intro spelled sets kind
    rw [fill, once]
    apply fillFrom_of_notMem
    rw [textOf, String.toList_ofList, List.mem_flatMap]
    rintro ⟨part, member, opens⟩
    obtain ⟨before, listed, rfl⟩ := List.mem_map.mp member
    cases before with
    | piece text => exact (plain _ listed).1 opens
    | hole name =>
        obtain ⟨value, found⟩ := Option.isSome_iff_exists.mp (spelled name listed)
        rw [Part.filled, found] at opens
        exact (isBraceless_of_valueFor? entriesPlain.1 name value found).1 opens

/-- Variables that differ in letter case only, and a data set with the same key as they. -/
def shadowed : TestData where
  sets := [{ name := "main", entries := [("user", "bob"), ("pass", "x1")] }]
  globals := [("User", "ann"), ("user", "eve")]

def shadowedParts : List Part :=
  [.hole "USER", .hole "PASS", .piece " ", .hole "", .hole "USER", .hole "X"]

def variableParts : List Part := [.piece "as ", .hole "USER"]

/-- The first variable is put in twice, the data set gives what no variable spells, and a name
without a value is left, as an empty one is. -/
theorem fill_textOf_shadowed :
    ((∀ entry ∈ shadowed.globals ++ shadowed.entries (.ofName "valid"), IsPlainEntry entry) ∧
        (∀ part ∈ shadowedParts ++ variableParts, part.IsPlain) ∧
        ∀ name, .hole name ∈ variableParts → (valueFor? shadowed.globals name).isSome) ∧
      shadowed.fill (.ofName "valid")
          ("\x7b\x7bUSER\x7d\x7d\x7b\x7bPASS\x7d\x7d " ++
            "\x7b\x7b\x7d\x7d\x7b\x7bUSER\x7d\x7d\x7b\x7bX\x7d\x7d") =
        "annx1 \x7b\x7b\x7d\x7dann\x7b\x7bX\x7d\x7d" ∧
      { shadowed with sets := [] }.fill .invalid "as \x7b\x7bUSER\x7d\x7d" = "as ann" := by
  have entriesPlain : ∀ entry ∈ shadowed.globals ++ shadowed.entries (.ofName "valid"),
      IsPlainEntry entry := by
    decide +kernel
  have plain : ∀ part ∈ shadowedParts ++ variableParts, part.IsPlain := by
    decide +kernel
  have spelled : ∀ name, .hole name ∈ variableParts →
      (valueFor? shadowed.globals name).isSome := by
    intro name member
    obtain rfl : name = "USER" := by simpa [variableParts] using member
    decide +kernel
  have before : textOf shadowedParts = "\x7b\x7bUSER\x7d\x7d\x7b\x7bPASS\x7d\x7d " ++
      "\x7b\x7b\x7d\x7d\x7b\x7bUSER\x7d\x7d\x7b\x7bX\x7d\x7d" := by
    decide +kernel
  have after : textOf (shadowedParts.map (Part.filled (shadowed.standIn? (.ofName "valid")))) =
      "annx1 \x7b\x7b\x7d\x7dann\x7b\x7bX\x7d\x7d" := by
    decide +kernel
  have asked : textOf variableParts = "as \x7b\x7bUSER\x7d\x7d" := by
    decide +kernel
  have known : textOf (variableParts.map (Part.filled (valueFor? shadowed.globals))) = "as ann" := by
    decide +kernel
  rw [List.forall_mem_append] at plain
  have filled := (fill_textOf entriesPlain plain.1).1
  have kept := (fill_textOf entriesPlain plain.2).2 spelled [] .invalid
  rw [before, after] at filled
  rw [asked, known] at kept
  exact ⟨⟨entriesPlain, List.forall_mem_append.mpr plain, spelled⟩, filled, kept⟩

end TestData

end PlainScript
