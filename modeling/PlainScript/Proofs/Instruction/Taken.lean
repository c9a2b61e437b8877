/-
What extraction takes. For each field the matches of its alternatives are gone through in order, and
the first acceptable capture is taken; every value is a piece of the instruction, and a field without
a value has no acceptable capture at all. Values hold no quotes, for the group of every alternative
passes quotes over.
-/

import Mathlib.Data.List.Nodup
import PlainScript.Instruction.Extraction
import PlainScript.Proofs.Regex.Sweep
import PlainScript.Proofs.Text.Pieces

namespace PlainScript

open Regex Vocabulary

theorem ValueField.mem_all (field : ValueField) : field ∈ all := by
  cases field <;> decide

/-- Values with the same fields are the same. -/
theorem Values.ext_get {first second : Values} (same : ∀ field, first.get field = second.get field) :
    first = second := by
  obtain ⟨⟩ := first
  obtain ⟨⟩ := second
  simp only [Values.mk.injEq]
  exact ⟨same .username, same .password, same .email, same .url, same .button, same .expected,
    same .expectedUrl⟩

/-- The spans share no character. -/
def Regex.Span.IsApart (left right : Span) : Prop := left.stop ≤ right.start ∨ right.stop ≤ left.start

theorem Regex.Span.isApart_iff {left right : Span} :
    left.IsApart right ↔ left.overlaps right = false := by
  rw [IsApart, overlaps, Bool.and_eq_false_iff, decide_eq_false_iff_not, decide_eq_false_iff_not,
    Nat.not_lt, Nat.not_lt, or_comm]

namespace Vocabulary.Alternative

/-- The capture of a match is acceptable as a value. -/
structure Accepts (alternative : Alternative) (claimed : Option Span) (found : Regex.Match)
    (span : Span) : Prop where
  captured : found.group? 1 = some span
  nonempty : span.text ≠ ""
  /-- Only the paired alternatives take connective words. -/
  unreserved : alternative.verbatim = true ∨ Text.lower (Text.trim span.text) ∉ reserved
  apart : ∀ other ∈ claimed, span.IsApart other

variable {alternative : Alternative} {claimed : Option Span} {found : Regex.Match} {span : Span}

/-- What an alternative accepts of a match is an acceptable capture, trimmed. -/
theorem accept?_eq_some_iff {hit : Hit} :
    alternative.accept? claimed found = some hit ↔
      alternative.Accepts claimed found hit.span ∧ hit.value = Text.trim hit.span.text := by
  have trimmed (span : Span) : Text.trim span.text = .ofList (Chars.trim span.chars) := by
    rw [Text.trim, Span.text, String.toList_ofList]
  have lowered (span : Span) :
      Text.lower (Text.trim span.text) = .ofList (Chars.lower (Chars.trim span.chars)) := by
    rw [trimmed, Text.lower, String.toList_ofList]
  have nonempty (span : Span) : span.text ≠ "" ↔ span.chars.isEmpty = false := by
    rw [Span.text, ← Bool.not_eq_true, List.isEmpty_iff, Ne, String.ofList_eq_empty_iff]
  have unreserved (span : Span) :
      (alternative.verbatim = true ∨ Text.lower (Text.trim span.text) ∉ reserved) ↔
        (!alternative.verbatim &&
          reserved.contains (.ofList (Chars.lower (Chars.trim span.chars)))) = false := by
    rw [lowered, Bool.and_eq_false_iff, Bool.not_eq_false', ← Bool.not_eq_true (reserved.contains _),
      List.contains_iff_mem]
  have apart (span : Span) :
      (∀ other ∈ claimed, span.IsApart other) ↔ claimed.any span.overlaps = false := by
    cases claimed with
    | none => simp
    | some other => simp [Span.isApart_iff]
  constructor
  · intro accepted
    obtain ⟨span, grouped, accepted⟩ := Option.bind_eq_some_iff.mp accepted
    dsimp only at accepted
    split_ifs at accepted with empty loose taken
    obtain rfl := Option.some.inj accepted
    rw [Bool.not_eq_true] at empty loose taken
    exact ⟨⟨grouped, (nonempty span).mpr empty, (unreserved span).mpr loose,
      (apart span).mpr taken⟩, (trimmed span).symm⟩
  · obtain ⟨value, span⟩ := hit
    rintro ⟨accepts, same⟩
    obtain rfl : value = Text.trim span.text := same
    rw [accept?, accepts.captured]
    change (if span.chars.isEmpty = true then none else _) = _
    rw [(nonempty span).mp accepts.nonempty, (unreserved span).mp accepts.unreserved,
      (apart span).mp accepts.apart, trimmed]
    rfl

end Vocabulary.Alternative

namespace Extraction

/-- The matches of all alternatives, alternative by alternative and from left to right. -/
def candidates (alternatives : List Alternative) (text : String) :
    List (Alternative × Regex.Match) :=
  alternatives.flatMap fun alternative =>
    (alternative.pattern.findAll text).map fun found => (alternative, found)

/-- What is taken of the candidates: the first acceptable capture, or nothing if there is none. -/
inductive Takes (alternatives : List Alternative) (text : String) (claimed : Option Span) :
    Option Span → Prop
  | nothing (missed : ∀ candidate ∈ candidates alternatives text, ∀ span,
      ¬ candidate.1.Accepts claimed candidate.2 span) : Takes alternatives text claimed none
  | first {earlier later : List (Alternative × Regex.Match)} {alternative : Alternative}
      {found : Regex.Match} {span : Span}
      (order : candidates alternatives text = earlier ++ (alternative, found) :: later)
      (missed : ∀ candidate ∈ earlier, ∀ span, ¬ candidate.1.Accepts claimed candidate.2 span)
      (accepted : alternative.Accepts claimed found span) :
      Takes alternatives text claimed (some span)

variable {text : String} {claimed : Option Span}

/-- Going through alternatives and their matches is going through the candidates. -/
theorem firstHit_eq_findSome? (alternatives : List Alternative) (text : String)
    (claimed : Option Span) :
    firstHit alternatives text claimed =
      (candidates alternatives text).findSome? fun candidate =>
        candidate.1.accept? claimed candidate.2 := by
  induction alternatives with
  | nil => rfl
  | cons first rest ih =>
      rw [candidates, List.flatMap_cons, List.findSome?_append, List.findSome?_map, ← candidates,
        ← ih, firstHit, List.findSome?_cons]
      change _ = (first.hit? text claimed).or _
      cases first.hit? text claimed <;> rfl

/-- The first hit takes the first acceptable capture. -/
theorem takes_firstHit (alternatives : List Alternative) (text : String) (claimed : Option Span) :
    Takes alternatives text claimed ((firstHit alternatives text claimed).map Hit.span) ∧
      ∀ hit ∈ firstHit alternatives text claimed, hit.value = Text.trim hit.span.text := by
  have missed {candidate : Alternative × Regex.Match}
      (refused : candidate.1.accept? claimed candidate.2 = none) (span : Span) :
      ¬ candidate.1.Accepts claimed candidate.2 span := by
    intro accepts
    have hit := (@Alternative.accept?_eq_some_iff _ _ _ ⟨Text.trim span.text, span⟩).mpr ⟨accepts, rfl⟩
    rw [refused] at hit
    cases hit
  rw [firstHit_eq_findSome?]
  cases taken : (candidates alternatives text).findSome? fun candidate =>
      candidate.1.accept? claimed candidate.2 with
  | none =>
      rw [List.findSome?_eq_none_iff] at taken
      exact ⟨.nothing fun candidate member => missed (taken candidate member), by simp⟩
  | some hit =>
      obtain ⟨earlier, ⟨alternative, found⟩, later, order, accepted, refused⟩ :=
        List.findSome?_eq_some_iff.mp taken
      obtain ⟨accepts, value⟩ := Alternative.accept?_eq_some_iff.mp accepted
      refine ⟨.first order (fun candidate member => missed (refused candidate member)) accepts, ?_⟩
      rintro other ⟨rfl⟩
      exact value

/-- What is taken is an acceptable capture of a match of one of the alternatives. -/
theorem Takes.exists_accepts {alternatives : List Alternative} {span : Span}
    (takes : Takes alternatives text claimed (some span)) :
    ∃ alternative ∈ alternatives, ∃ found ∈ alternative.pattern.findAll text,
      alternative.Accepts claimed found span := by
  cases takes with
  | @first earlier later alternative found span order missed accepted =>
      have member : (alternative, found) ∈ candidates alternatives text := by
        rw [order]
        exact List.mem_append_right _ List.mem_cons_self
      obtain ⟨known, listed, candidate⟩ := List.mem_flatMap.mp member
      obtain ⟨taken, swept, same⟩ := List.mem_map.mp candidate
      obtain ⟨rfl, rfl⟩ := Prod.mk.inj same
      exact ⟨known, listed, taken, swept, accepted⟩

/-- An acceptable capture of the first match of the first alternative is the first hit. -/
theorem firstHit_of_accepts {alternative : Alternative} {others : List Alternative}
    {found : Regex.Match} {span : Span} (first : alternative.pattern.search text = some found)
    (accepts : alternative.Accepts claimed found span) :
    firstHit (alternative :: others) text claimed = some ⟨Text.trim span.text, span⟩ := by
  obtain ⟨later, all⟩ := exists_findAll_eq_cons first
  have accepted : alternative.accept? claimed found = some ⟨Text.trim span.text, span⟩ :=
    Alternative.accept?_eq_some_iff.mpr ⟨accepts, rfl⟩
  have hit : alternative.hit? text claimed = some ⟨Text.trim span.text, span⟩ := by
    rw [Alternative.hit?, all, List.findSome?_cons, accepted]
  rw [firstHit, List.findSome?_cons, hit]

/-- If the first alternative reads on from the beginning, its capture is the first hit. -/
theorem firstHit_of_run {alternative : Alternative} {others : List Alternative} {last : Cursor}
    {span : Span} {groups : List (Nat × Span)}
    (read : alternative.pattern.run ⟨⟨[], text.toList⟩, []⟩ some =
      some ⟨last, (1, span) :: groups⟩)
    (nonempty : span.text ≠ "")
    (unreserved : alternative.verbatim = true ∨ Text.lower (Text.trim span.text) ∉ reserved)
    (apart : ∀ other ∈ claimed, span.IsApart other) :
    firstHit (alternative :: others) text claimed = some ⟨Text.trim span.text, span⟩ := by
  have matched := matchAt_eq_some_iff.mpr ⟨_, read, rfl⟩
  exact firstHit_of_accepts (searchFrom_of_matchAt matched) ⟨rfl, nonempty, unreserved, apart⟩

/-! Fields -/

/-- Fields of other names leave what is looked up. -/
theorem lookup_hitsFrom_of_notMem {name : String} {fields : List (String × List Alternative)}
    (absent : name ∉ fields.map Prod.fst) (earlier : List (String × Hit)) :
    (hitsFrom text earlier fields).lookup name = earlier.lookup name := by
  induction fields generalizing earlier with
  | nil => rfl
  | cons field fields ih =>
      obtain ⟨other, alternatives⟩ := field
      rw [List.map_cons, List.mem_cons, not_or] at absent
      rw [hitsFrom]
      split
      · rename_i hit found
        have differs : (name == other) = false := beq_eq_false_iff_ne.mpr absent.1
        rw [ih absent.2, List.lookup_append, List.lookup_cons, differs]
        simp
      · exact ih absent.2 earlier

theorem hitsFrom_append (text : String) (front back : List (String × List Alternative))
    (earlier : List (String × Hit)) :
    hitsFrom text earlier (front ++ back) = hitsFrom text (hitsFrom text earlier front) back := by
  induction front generalizing earlier with
  | nil => rfl
  | cons field front ih =>
      obtain ⟨name, alternatives⟩ := field
      rw [List.cons_append, hitsFrom, hitsFrom]
      split <;> exact ih _

/-- A field has the first hit of its alternatives. -/
theorem lookup_hitsFrom {name : String} {front back : List (String × List Alternative)}
    (before : name ∉ front.map Prod.fst) (behind : name ∉ back.map Prod.fst)
    (alternatives : List Alternative) (text : String) :
    (hitsFrom text [] (front ++ (name, alternatives) :: back)).lookup name =
      firstHit alternatives text (Extraction.claimed (hitsFrom text [] front) name) := by
  have earlier : (hitsFrom text [] front).lookup name = none := lookup_hitsFrom_of_notMem before []
  rw [hitsFrom_append, hitsFrom]
  split
  · rename_i hit found
    rw [lookup_hitsFrom_of_notMem behind, List.lookup_append, earlier, List.lookup_cons_self, found,
      Option.none_or]
  · rename_i none
    rw [lookup_hitsFrom_of_notMem behind, earlier, none]

/-- What the value of a field has to keep clear of: a password, of the user name. -/
def claimedFor (field : ValueField) (text : String) : Option Span :=
  if field = .password then (firstHit usernames text none).map Hit.span else none

/-- What is hit for a field; only the password minds what was hit before. -/
theorem lookup_hits (field : ValueField) (text : String) :
    (hits standard text).lookup field.name =
      firstHit (alternatives field) text (claimedFor field text) := by
  rw [claimedFor]
  by_cases secret : field = .password
  · subst secret
    have parts : standard = [("username", usernames)] ++ ("password", passwords) ::
        standard.drop 2 := rfl
    have user : (hitsFrom text [] [("username", usernames)]).lookup "username" =
        firstHit usernames text none :=
      @lookup_hitsFrom "username" [] [] List.not_mem_nil List.not_mem_nil usernames text
    have claim : Extraction.claimed (hitsFrom text [] [("username", usernames)]) "password" =
        (firstHit usernames text none).map Hit.span := by
      rw [← user]
      rfl
    rw [hits, parts, if_pos rfl, ← claim]
    exact lookup_hitsFrom (by decide) (by decide) passwords text
  · have listed : (field.name, alternatives field) ∈ standard := List.mem_map_of_mem field.mem_all
    obtain ⟨front, back, parts⟩ := List.append_of_mem listed
    have distinct : (standard.map Prod.fst).Nodup := by decide
    rw [parts, List.map_append, List.map_cons, List.nodup_middle, List.nodup_cons, List.mem_append,
      not_or] at distinct
    have other : (field.name == "password") = false := by
      cases field <;> first | rfl | exact absurd rfl secret
    have unclaimed (earlier : List (String × Hit)) :
        Extraction.claimed earlier field.name = none := by
      rw [Extraction.claimed, other]
      rfl
    rw [hits, parts, if_neg secret, lookup_hitsFrom distinct.1.1 distinct.1.2, unclaimed]

/-- The values of an instruction are the first hits in it without its locks. -/
theorem get_extract (field : ValueField) (text : String) :
    (extract text).get field =
      (firstHit (alternatives field) (Lock.strip text) (claimedFor field (Lock.strip text))).map
        Hit.value := by
  rw [extract, valuesOf, Values.get_ofFunction, lookup_hits]

/-- Every alternative reads something. -/
theorem moves_of_mem {field : ValueField} {alternative : Alternative}
    (member : alternative ∈ alternatives field) : alternative.pattern.moves = true := by
  have all : ∀ field ∈ ValueField.all, ∀ alternative ∈ alternatives field,
      alternative.pattern.moves = true := by
    decide
  exact all field field.mem_all alternative member

/-- Only the paired alternatives are verbatim. -/
theorem verbatim_iff_of_mem {field : ValueField} {alternative : Alternative}
    (member : alternative ∈ alternatives field) :
    alternative.verbatim = true ↔ alternative = pairedUsername ∨ alternative = pairedPassword := by
  constructor
  · intro verbatim
    have known : alternative ∈ (alternatives field).filter Alternative.verbatim :=
      List.mem_filter.mpr ⟨member, verbatim⟩
    cases field with
    | username => exact .inl (List.mem_singleton.mp known)
    | password => exact .inr (List.mem_singleton.mp known)
    | email | url | button | expected | expectedUrl => cases known
  · rintro (rfl | rfl) <;> rfl

/-- What is taken stands in the text. -/
theorem Takes.isIn {field : ValueField} {span : Span}
    (takes : Takes (alternatives field) text claimed (some span)) : span.IsIn text.toList := by
  obtain ⟨alternative, listed, found, swept, accepts⟩ := takes.exists_accepts
  obtain ⟨matched, inside, -⟩ := ((sweeps_iff (moves_of_mem listed)).mpr rfl).matched found swept
  obtain ⟨front, back, groups, -⟩ := List.lookup_eq_some_iff.mp accepts.captured
  refine (isIn_of_matchAt inside.first matched).2.2.1 (1, span) ?_
  rw [groups]
  exact List.mem_append_right _ List.mem_cons_self

/-- Every value is an acceptable capture of an alternative of its field, trimmed. -/
theorem exists_accepts_of_get {field : ValueField} {text value : String}
    (given : (extract text).get field = some value) :
    ∃ alternative ∈ alternatives field,
      ∃ found ∈ alternative.pattern.findAll (Lock.strip text), ∃ span,
        alternative.Accepts (claimedFor field (Lock.strip text)) found span ∧
          Text.trim span.text = value := by
  rw [get_extract, Option.map_eq_some_iff] at given
  obtain ⟨hit, hits, rfl⟩ := given
  obtain ⟨takes, trimmed⟩ := takes_firstHit (alternatives field) (Lock.strip text)
    (claimedFor field (Lock.strip text))
  rw [hits, Option.map_some] at takes
  obtain ⟨alternative, listed, found, swept, accepts⟩ := takes.exists_accepts
  exact ⟨alternative, listed, found, swept, hit.span, accepts, (trimmed hit hits).symm⟩

/-- For every field the first acceptable capture is taken, and nothing only where there is none. The
values are pieces of the instruction without its locks, and those of a user name and a password have
no character in common. -/
theorem extract_takes (text : String) :
    ∃ taken : ValueField → Option Span,
      (∀ field : ValueField,
        (extract text).get field = (taken field).map (fun span => Text.trim span.text) ∧
          Takes (alternatives field) (Lock.strip text)
            (if field = .password then taken .username else none) (taken field) ∧
          ∀ span ∈ taken field, span.IsIn (Lock.strip text).toList ∧
            (Text.trim span.text).toList <:+: (Lock.strip text).toList) ∧
      (∀ user ∈ taken .username, ∀ secret ∈ taken .password, secret.IsApart user) ∧
      ∀ field : ValueField, ∀ alternative ∈ alternatives field,
        alternative.pattern.Sweeps (Lock.strip text).toList 0
            (alternative.pattern.findAll (Lock.strip text)) ∧
          (alternative.verbatim = true ↔
            alternative = pairedUsername ∨ alternative = pairedPassword) := by
  obtain ⟨taken, spans⟩ : ∃ taken : ValueField → Option Span, ∀ field, taken field =
      (firstHit (alternatives field) (Lock.strip text) (claimedFor field (Lock.strip text))).map
        Hit.span :=
    ⟨_, fun _ => rfl⟩
  have takes (field : ValueField) : Takes (alternatives field) (Lock.strip text)
      (if field = .password then taken .username else none) (taken field) := by
    have clear : (if field = .password then taken .username else none) =
        claimedFor field (Lock.strip text) := by
      rw [spans .username]
      rfl
    rw [clear, spans field]
    exact (takes_firstHit _ _ _).1
  refine ⟨taken, fun field => ⟨?_, takes field, fun span given => ?_⟩,
    fun first given second more => ?_, fun field alternative member =>
      ⟨(sweeps_iff (moves_of_mem member)).mpr rfl, verbatim_iff_of_mem member⟩⟩
  · rw [get_extract, spans, Option.map_map]
    apply Option.map_congr
    exact (takes_firstHit _ _ _).2
  · have found := takes field
    rw [given] at found
    have inside := found.isIn
    refine ⟨inside, ?_⟩
    rw [Text.trim, Span.text, String.toList_ofList, String.toList_ofList]
    exact (Chars.trim_infix _).trans inside.chars_infix
  · have found := takes .password
    rw [more, if_pos rfl] at found
    obtain ⟨alternative, -, found, -, accepts⟩ := found.exists_accepts
    exact accepts.apart first given

end Extraction

/-- The text has quotes of neither kind. -/
def IsUnquoted (text : String) : Prop := '\'' ∉ text.toList ∧ '"' ∉ text.toList

/-- The expression reads no quotes. -/
def Regex.avoidsQuotes (regex : Regex) : Bool := regex.avoids '\'' && regex.avoids '"'

namespace Vocabulary

/-- The groups of all alternatives read no quotes. -/
theorem everyGroup_alternatives : ∀ field ∈ ValueField.all, ∀ alternative ∈ alternatives field,
    alternative.pattern.everyGroup 1 avoidsQuotes = true := by
  decide

end Vocabulary

namespace Extraction

variable {text : String}

/-- No value of an instruction holds a quote. -/
theorem isUnquoted_of_get {field : ValueField} {value : String}
    (given : (extract text).get field = some value) : IsUnquoted value := by
  obtain ⟨alternative, listed, found, swept, span, accepts, rfl⟩ := exists_accepts_of_get given
  have each (body : Regex) (chars : List Char) (passes : body.avoidsQuotes = true)
      (heeds : Heeds body chars) : '\'' ∉ chars ∧ '"' ∉ chars := by
    rw [avoidsQuotes, Bool.and_eq_true] at passes
    exact ⟨heeds.avoided _ passes.1, heeds.avoided _ passes.2⟩
  have every : alternative.pattern.everyGroup 1 avoidsQuotes = true :=
    everyGroup_alternatives field field.mem_all alternative listed
  have unquoted := captured_of_mem_findAll each every swept accepts.captured
  have inside := (Chars.trim_infix span.chars).subset
  rw [IsUnquoted, Text.trim, Span.text, String.toList_ofList, String.toList_ofList]
  exact ⟨fun member => unquoted.1 (inside member), fun member => unquoted.2 (inside member)⟩

theorem isUnquoted_of_mem_extract {value : String × String}
    (member : value ∈ (extract text).toList) : IsUnquoted value.2 := by
  obtain ⟨field, -, same⟩ := List.mem_filterMap.mp member
  obtain ⟨given, filtered, rfl⟩ := Option.map_eq_some_iff.mp same
  exact isUnquoted_of_get (Option.filter_eq_some_iff.mp filtered).1

end Extraction

end PlainScript
