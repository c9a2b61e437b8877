/-
Web addresses. An address behind the words "go to" is taken up to the first blank or quote: the
periods and commas at its end belong to the sentence, and all others to the address.
-/

import PlainScript.Proofs.Instruction.Quotation

namespace PlainScript

/-! Letters of either case -/

theorem toLower_of_le {c : Char} (high : 128 ≤ c.toNat) : c.toLower = c := by
  refine dif_neg ?_
  rintro ⟨-, low⟩
  have last : c.toNat ≤ 90 := UInt32.le_iff_toNat_le.mp low
  omega

/-- What holds of the letters of one alphabet with a given small letter is checked there. -/
theorem of_toLower_eq {P : Char → Prop} {small c : Char} (same : c.toLower = small)
    (ascii : small.toNat < 128)
    (all : ∀ code < 128, (Char.ofNat code).toLower = small → P (.ofNat code)) : P c := by
  by_cases here : c.toNat < 128
  · exact Chars.forall_ascii (P := fun c => c.toLower = small → P c) all here same
  · rw [toLower_of_le (Nat.le_of_not_lt here)] at same
    exact absurd (same ▸ ascii) here

open Regex Vocabulary

variable {before after : List Char} {groups : List (Nat × Span)} {next : Next} {out : State}

theorem equal_toLower (c : Char) : Folding.full.equal c.toLower c = true := by
  by_cases ascii : c.toNat < 128
  · have all : ∀ code < 128,
        Folding.full.equal (Char.ofNat code).toLower (Char.ofNat code) = true := by
      decide
    exact Chars.forall_ascii (P := fun c => Folding.full.equal c.toLower c = true) all ascii
  · rw [toLower_of_le (Nat.le_of_not_lt ascii), Folding.equal, beq_self_eq_true, Bool.true_or]

/-- A text is read in any letter case. -/
theorem run_caseless_of_toLower {text : String} {word : List Char}
    (spelled : word.map Char.toLower = text.toList) :
    (caseless text).run ⟨⟨before, word ++ after⟩, groups⟩ next =
      next ⟨⟨word.reverse ++ before, after⟩, groups⟩ := by
  apply run_caseless_of_equal
  rw [← spelled, List.forall₂_map_left_iff]
  exact List.forall₂_same.mpr fun c _ => equal_toLower c

/-! The end of an address -/

/-- Addresses end at blanks and quotes. -/
def EndsAddress (c : Char) : Prop := Text.isBlank c = true ∨ c ∈ quotes

instance (c : Char) : Decidable (EndsAddress c) := inferInstanceAs (Decidable (_ ∨ _))

/-- Marks at the end of a sentence or of a part of one. -/
def sentenceMarks : List Char := ['.', ',']

theorem isBlank_eq_false_of_mark : ∀ c ∈ sentenceMarks, Text.isBlank c = false := by
  decide

/-- Marks do not end an address by themselves. -/
theorem not_endsAddress_of_mark : ∀ c ∈ sentenceMarks, ¬ EndsAddress c := by
  decide

/-- What no address holds. -/
def addressStops : List SetItem := .category .blank false false :: marks "'\""

theorem any_addressStops_iff (c : Char) :
    addressStops.any (·.holds c) = true ↔ EndsAddress c := by
  have items : addressStops = [.category .blank false false, .one '\'', .one '"'] := by
    decide
  simp [items, EndsAddress, quotes, SetItem.holds, Category.holds]

theorem any_addressStops_marks_iff (c : Char) :
    (addressStops ++ marks ".,").any (·.holds c) = true ↔ EndsAddress c ∨ c ∈ sentenceMarks := by
  have items : marks ".," = [.one '.', .one ','] := by
    decide
  rw [List.any_append, Bool.or_eq_true, any_addressStops_iff, items]
  simp [sentenceMarks, SetItem.holds]

/-- Blanks, quotes and marks have no other case. -/
theorem isAlone_of_ends {c : Char} (ends : EndsAddress c ∨ c ∈ sentenceMarks) :
    Text.isAlone c = true := by
  let codes := Text.blankCodes ++ (quotes ++ sentenceMarks).map Char.toNat
  have listed : c.toNat ∈ codes := by
    rw [List.mem_append]
    rcases ends with (blank | quote) | mark
    · exact .inl (Text.toNat_mem_blankCodes blank)
    · exact .inr (List.mem_map_of_mem (List.mem_append_left _ quote))
    · exact .inr (List.mem_map_of_mem (List.mem_append_right _ mark))
  have plain : ∀ code ∈ codes, (Char.ofNat code).isAlpha = false ∧
      Char.ofNat code ∉ ['\u0000', '\u0307', 'ς', 'σ', 'ı', 'İ', '\u212A', 'ſ'] := by
    decide +kernel
  have unreached : ∀ code ∈ codes, Text.isUnreached Text.lowerShifts code = true ∧
      Text.isUnreached Text.upperShifts code = true := by
    decide +kernel
  have unlisted : ∀ code ∈ codes, Text.isUnlisted Text.upperExpansions code = true ∧
      Text.isUnlisted Text.titleExceptions code = true := by
    decide +kernel
  have unmoved : ∀ code ∈ codes,
      (Text.lowerShifts.toList.all fun shift => !shift.holds code) = true := by
    decide +kernel
  have unshared : ∀ code ∈ codes,
      (Text.sharedUpper.toList.all fun listed => !listed.contains code) = true := by
    decide +kernel
  have here := plain c.toNat listed
  rw [Char.ofNat_toNat] at here
  exact Text.isAlone_of_not_isAlpha here.1 here.2 (unreached _ listed) (unlisted _ listed)
    (unmoved _ listed) (unshared _ listed)

theorem holds_inside_iff (c : Char) :
    CharSet.holds ⟨true, addressStops⟩ .full c = true ↔ ¬ EndsAddress c := by
  rw [holds_negated, Bool.not_eq_true', ← Bool.not_eq_true, any_addressStops_iff]
  intro d inside
  exact isAlone_of_ends (.inl ((any_addressStops_iff d).mp inside))

theorem holds_last_iff (c : Char) :
    CharSet.holds ⟨true, addressStops ++ marks ".,"⟩ .full c = true ↔
      ¬ (EndsAddress c ∨ c ∈ sentenceMarks) := by
  rw [holds_negated, Bool.not_eq_true', ← Bool.not_eq_true, any_addressStops_marks_iff]
  intro d inside
  exact isAlone_of_ends ((any_addressStops_marks_iff d).mp inside)

/-! Reading an address -/

/-- An address with its scheme in any letter case and without a period or comma at its end. -/
structure WebAddress where
  scheme : String
  rest : String
  known : scheme.toList.map Char.toLower ∈ ["http://".toList, "https://".toList]
  nonempty : rest ≠ ""
  unbroken : ∀ c ∈ rest.toList, ¬ EndsAddress c
  closed : ∀ c ∈ rest.toList.getLast?, c ∉ sentenceMarks

theorem run_scheme {scheme : List Char}
    (known : scheme.map Char.toLower ∈ ["http://".toList, "https://".toList])
    (found : next ⟨⟨scheme.reverse ++ before, after⟩, groups⟩ = some out) :
    (all [caseless "http", maybe (caseless "s"), caseless "://"]).run
      ⟨⟨before, scheme ++ after⟩, groups⟩ next = some out := by
  rw [List.mem_pair] at known
  rcases known with plain | secure
  · have parts : "http://".toList = "http".toList ++ "://".toList := by simp
    have colonFirst : "://".toList = ':' :: "//".toList := by simp
    rw [parts] at plain
    obtain ⟨first, last, rfl, http, separator⟩ := List.map_eq_append_iff.mp plain
    obtain ⟨colon, slashes, rfl, same, -⟩ := List.map_eq_cons_iff.mp (separator.trans colonFirst)
    have other : Folding.full.equal 's' colon = false :=
      of_toLower_eq (P := fun c => Folding.full.equal 's' c = false) same (by decide)
        (by decide)
    have missed (next : Next) : (caseless "s").run
        ⟨⟨first.reverse ++ before, (colon :: slashes) ++ after⟩, groups⟩ next = none :=
      run_caseless_of_ne (by
        rw [show "s".toList.head? = some 's' by simp, Option.map_some, other])
    rw [List.append_assoc, run_all_cons, run_caseless_of_toLower http, run_all_cons,
      run_maybe_of_none (missed _), all, run_caseless_of_toLower separator]
    simpa using found
  · have parts : "https://".toList = "http".toList ++ ("s".toList ++ "://".toList) := by simp
    rw [parts] at secure
    obtain ⟨first, last, rfl, http, secure⟩ := List.map_eq_append_iff.mp secure
    obtain ⟨middle, last, rfl, s, separator⟩ := List.map_eq_append_iff.mp secure
    have ends : (caseless "://").run
        ⟨⟨middle.reverse ++ (first.reverse ++ before), last ++ after⟩, groups⟩ next = some out := by
      rw [run_caseless_of_toLower separator]
      simpa using found
    rw [List.append_assoc, List.append_assoc, run_all_cons, run_caseless_of_toLower http,
      run_all_cons, run_maybe, run_caseless_of_toLower s, all, ends, Option.some_or]

/-- Nothing that ends an address or is a mark is read as its last character. -/
theorem single_last_of_head {chars : List Char}
    (stops : ∀ c ∈ chars.head?, EndsAddress c ∨ c ∈ sentenceMarks) :
    single (CharSet.holds ⟨true, addressStops ++ marks ".,"⟩ .full) ⟨⟨before, chars⟩, groups⟩ next =
      none := by
  apply single_of_stop
  intro c head
  rw [← Bool.not_eq_true, holds_last_iff, not_not]
  exact stops c head

/-- The marks behind an address are read together with its last character and given back one by one,
since an address ends with none of them. -/
theorem greedily_last {last : Char} {punctuation : List Char} (endless : ¬ EndsAddress last)
    (unmarked : last ∉ sentenceMarks) (marked : ∀ c ∈ punctuation, c ∈ sentenceMarks)
    (ends : ∀ c ∈ after.head?, EndsAddress c)
    (found : next ⟨⟨last :: before, punctuation ++ after⟩, groups⟩ = some out) :
    greedily (single (CharSet.holds ⟨true, addressStops⟩ .full))
      (punctuation.length + after.length + 2)
      ⟨⟨before, last :: punctuation ++ after⟩, groups⟩
      (fun later => single (CharSet.holds ⟨true, addressStops ++ marks ".,"⟩ .full) later next) =
      some out := by
  have reads : ∀ c ∈ last :: punctuation, CharSet.holds ⟨true, addressStops⟩ .full c = true := by
    intro c member
    rw [holds_inside_iff]
    rcases List.mem_cons.mp member with rfl | mark
    · exact endless
    · exact not_endsAddress_of_mark c (marked c mark)
  rw [greedily_of_dead reads]
  · rw [List.cons_append, single_of_pass ((holds_last_iff last).mpr (not_or.mpr ⟨endless, unmarked⟩))]
    exact found
  · intro c head
    rw [← Bool.not_eq_true, holds_inside_iff, not_not]
    exact ends c head
  · intro c front back same
    apply single_last_of_head
    have listed : ∀ d ∈ back, d ∈ sentenceMarks := by
      intro d member
      apply marked
      rw [(List.cons.inj same).2]
      exact List.mem_append_right _ member
    cases back with
    | nil => exact fun d head => .inl (ends d head)
    | cons d back =>
        rintro other ⟨rfl⟩
        exact .inr (listed d List.mem_cons_self)

/-- The rest of an address is read up to the marks behind it. -/
theorem run_rest {rest punctuation : List Char} (nonempty : rest ≠ [])
    (unbroken : ∀ c ∈ rest, ¬ EndsAddress c) (closed : ∀ c ∈ rest.getLast?, c ∉ sentenceMarks)
    (marked : ∀ c ∈ punctuation, c ∈ sentenceMarks) (ends : ∀ c ∈ after.head?, EndsAddress c)
    (found : next ⟨⟨rest.reverse ++ before, punctuation ++ after⟩, groups⟩ = some out) :
    (all [many (noneOf addressStops), noneOf (addressStops ++ marks ".,")]).run
      ⟨⟨before, rest ++ (punctuation ++ after)⟩, groups⟩ next = some out := by
  obtain ⟨body, last, rfl⟩ := (List.eq_nil_or_concat rest).resolve_left nonempty
  rw [List.concat_eq_append] at *
  have unmarked : last ∉ sentenceMarks := closed last (by rw [List.getLast?_concat]; rfl)
  have endless : ¬ EndsAddress last := unbroken last (List.mem_append_right _ List.mem_cons_self)
  have inside : ∀ c ∈ body, CharSet.holds ⟨true, addressStops⟩ .full c = true := by
    intro c member
    exact (holds_inside_iff c).mpr (unbroken c (List.mem_append_left _ member))
  have rounds : punctuation.length + after.length + 2 + body.length =
      (body ++ (last :: punctuation ++ after)).length + 1 := by
    simp only [List.length_append, List.length_cons]
    omega
  have whole := greedily_append inside _
    (greedily_last endless unmarked marked ends (by simpa using found))
  rw [rounds] at whole
  rw [List.append_assoc]
  exact whole

namespace WebAddress

variable (address : WebAddress)

def text : String := address.scheme ++ address.rest

theorem toList_text : address.text.toList = address.scheme.toList ++ address.rest.toList :=
  String.toList_append

/-- An address begins with a letter of its scheme. -/
theorem head?_text : ∃ c, address.text.toList.head? = some c ∧ c.toLower = 'h' := by
  have known := address.known
  rw [show "http://".toList = 'h' :: "ttp://".toList by simp,
    show "https://".toList = 'h' :: "ttps://".toList by simp, List.mem_pair] at known
  rcases known with same | same
  all_goals
    obtain ⟨c, others, parts, first, -⟩ := List.map_eq_cons_iff.mp same
    exact ⟨c, by rw [toList_text, parts]; rfl, first⟩

theorem toList_text_ne_nil : address.text.toList ≠ [] := by
  obtain ⟨c, head, -⟩ := address.head?_text
  intro nothing
  rw [nothing] at head
  cases head

theorem toList_rest_ne_nil : address.rest.toList ≠ [] := by
  simpa using address.nonempty

/-- An address does not end with a blank. -/
theorem isBlank_getLast?_text : ∀ c ∈ address.text.toList.getLast?, Text.isBlank c = false := by
  rw [toList_text, List.getLast?_append_of_ne_nil _ address.toList_rest_ne_nil]
  intro c last
  rw [← Bool.not_eq_true]
  exact fun blank => address.unbroken c (List.mem_of_getLast? last) (.inl blank)

theorem trim_text : Text.trim address.text = address.text := by
  have trimmed : Chars.trim address.text.toList = address.text.toList := by
    apply Chars.trim_eq_self
    · obtain ⟨c, head, letter⟩ := address.head?_text
      rw [head]
      rintro d ⟨rfl⟩
      exact of_toLower_eq (P := fun c => Text.isBlank c = false) letter (by decide)
        (by decide)
    · exact address.isBlank_getLast?_text
  rw [Text.trim, trimmed, String.ofList_toList]

/-- An address has a colon, whatever its letter case. -/
theorem colon_mem_text : ':' ∈ address.text.toList := by
  have colon : ':' ∈ address.scheme.toList.map Char.toLower := by
    have all : ∀ scheme ∈ ["http://".toList, "https://".toList], ':' ∈ scheme := by
      decide
    exact all _ address.known
  obtain ⟨c, member, same⟩ := List.mem_map.mp colon
  have here : c = ':' := of_toLower_eq (P := (· = ':')) same (by decide) (by decide)
  rw [toList_text]
  exact List.mem_append_left _ (here ▸ member)

/-- An address is no connective word. -/
theorem lower_text_notMem_reserved : Text.lower address.text ∉ reserved := by
  have plain : ∀ word ∈ reserved, ':' ∉ word.toList := by
    decide
  intro member
  apply plain _ member
  rw [Text.lower, String.toList_ofList]
  exact Chars.mem_lowerFrom (by decide) (by decide) address.colon_mem_text []

/-- An address is read up to the marks behind it. -/
theorem run_text {punctuation : List Char} (marked : ∀ c ∈ punctuation, c ∈ sentenceMarks)
    (ends : ∀ c ∈ after.head?, EndsAddress c)
    (found : next ⟨⟨address.text.toList.reverse ++ before, punctuation ++ after⟩,
      (1, ⟨⟨before, address.text.toList ++ (punctuation ++ after)⟩,
        ⟨address.text.toList.reverse ++ before, punctuation ++ after⟩⟩) :: groups⟩ = some out) :
    webAddress.run ⟨⟨before, address.text.toList ++ (punctuation ++ after)⟩, groups⟩ next =
      some out := by
  have parts : webAddress = group 1 (all ([caseless "http", maybe (caseless "s"), caseless "://"] ++
      [many (noneOf addressStops), noneOf (addressStops ++ marks ".,")])) := rfl
  rw [parts, run_group, run_all_append, toList_text, List.append_assoc]
  apply run_scheme address.known
  apply run_rest address.toList_rest_ne_nil address.unbroken address.closed marked ends
  simpa [toList_text, State.capture] using found

/-! An address in a sentence -/

/-- The words that lead to an address. -/
def lead : List Char := ['g', 'o', ' ', 't', 'o', ' ']

/-- Where an address stands behind the words. -/
def span (back : List Char) : Span :=
  ⟨⟨lead.reverse, address.text.toList ++ back⟩,
    ⟨address.text.toList.reverse ++ lead.reverse, back⟩⟩

/-- Neither a blank nor a quote is read where an address begins. -/
theorem missed_at_text (after : List Char) : ∀ c ∈ (address.text.toList ++ after).head?,
    blankSet.holds .full c = false ∧ CharSet.holds ⟨false, marks "'\""⟩ .full c = false := by
  obtain ⟨c, head, letter⟩ := address.head?_text
  rw [List.head?_append, head, Option.some_or]
  rintro d ⟨rfl⟩
  exact of_toLower_eq (P := fun c => blankSet.holds .full c = false ∧
    CharSet.holds ⟨false, marks "'\""⟩ .full c = false) letter (by decide) (by decide)

/-- The first way to give an address reads one behind the words. -/
theorem exists_run_lead : ∃ alternative others, alternatives .url = alternative :: others ∧
    ∀ {punctuation after : List Char}, (∀ c ∈ punctuation, c ∈ sentenceMarks) →
      (∀ c ∈ after.head?, EndsAddress c) →
        alternative.pattern.run
            ⟨⟨[], lead ++ (address.text.toList ++ (punctuation ++ after))⟩, []⟩ some =
          some ⟨(address.span (punctuation ++ after)).last,
            [(1, address.span (punctuation ++ after))]⟩ := by
  refine ⟨_, _, rfl, fun {punctuation after} marked ends => ?_⟩
  have parts : lead ++ (address.text.toList ++ (punctuation ++ after)) = ['g', 'o'] ++ ' ' ::
      (['t', 'o'] ++ ' ' :: (address.text.toList ++ (punctuation ++ after))) := rfl
  have words : phrase ["go", "to"] = all [caseless "go", blanks, caseless "to"] := rfl
  have edge : (Anchor.wordEdge false).holds
      ⟨[], lead ++ (address.text.toList ++ (punctuation ++ after))⟩ = true := rfl
  have missed := address.missed_at_text (punctuation ++ after)
  have unquoted {before : List Char} {next : Next} :
      quoteMark.run ⟨⟨before, address.text.toList ++ (punctuation ++ after)⟩, []⟩ next = none :=
    single_of_stop fun c first => (missed c first).2
  dsimp only
  rw [run_all_cons, wordEdge, run_anchor edge, run_all_cons, choice_cons_cons]
  apply run_alt_of_some
  rw [words, parts, run_all_cons, run_caseless (by simp), run_all_cons,
    run_blanks (by rintro c ⟨rfl⟩; rfl), all, run_caseless (by simp), run_all_cons,
    run_blanks fun c first => (missed c first).1, run_all_cons, run_maybe_of_none unquoted]
  exact address.run_text marked ends rfl

/-- The words, an address, marks behind it and a tail. -/
def sentence (punctuation tail : String) : String :=
  "go to " ++ address.text ++ punctuation ++ tail

variable {punctuation tail : String}

/-- Trimming cuts the tail only. -/
theorem trim_sentence (marked : ∀ c ∈ punctuation.toList, c ∈ sentenceMarks) :
    Chars.trim (address.sentence punctuation tail).toList =
      lead ++ (address.text.toList ++ (punctuation.toList ++
        Chars.trimRightWhere Text.isBlank tail.toList)) := by
  have parts : (address.sentence punctuation tail).toList =
      (lead ++ address.text.toList ++ punctuation.toList) ++ tail.toList := by
    simp [sentence, lead]
  rw [parts, Chars.trim_append_of_unblank]
  · simp only [List.append_assoc]
  · simp [lead]
  · rintro c ⟨rfl⟩
    rfl
  · intro c last
    rw [List.getLast?_append, List.getLast?_append] at last
    rcases Option.or_eq_some_iff.mp last with behind | ⟨-, last⟩
    · exact isBlank_eq_false_of_mark c (marked c (List.mem_of_getLast? behind))
    · rcases Option.or_eq_some_iff.mp last with inside | ⟨empty, -⟩
      · exact address.isBlank_getLast?_text c inside
      · exact absurd (List.getLast?_eq_none_iff.mp empty) address.toList_text_ne_nil

/-- Without annotations a sentence is only trimmed. -/
theorem strip_sentence (marked : ∀ c ∈ punctuation.toList, c ∈ sentenceMarks)
    (unlocked : Text.contains (address.sentence punctuation tail) "[LOCK" = false) :
    (Lock.strip (address.sentence punctuation tail)).toList =
      lead ++ (address.text.toList ++ (punctuation.toList ++
        Chars.trimRightWhere Text.isBlank tail.toList)) := by
  have absent := (Text.contains_eq_false_iff (address.sentence punctuation tail) "[LOCK").mp unlocked
  rw [Lock.strip_eq_trim absent, Text.trim, String.toList_ofList, address.trim_sentence marked]

end WebAddress

/-- The expression reads something, and no blanks. -/
def Regex.readsVisibly (regex : Regex) : Bool :=
  regex.moves && Text.blankCodes.all fun code => regex.avoids (.ofNat code)

theorem everyGroup_urls : ∀ alternative ∈ urls,
    alternative.pattern.everyGroup 1 readsVisibly = true := by
  decide +kernel

namespace Extraction

/-- An address that is taken, in whatever way it is given, is not empty and has no blanks. -/
theorem isVisible_of_url {text url : String} (given : (extract text).url = some url) :
    url ≠ "" ∧ ∀ c ∈ url.toList, Text.isBlank c = false := by
  obtain ⟨alternative, listed, found, swept, span, accepts, rfl⟩ :=
    @exists_accepts_of_get .url text url given
  have each (body : Regex) (chars : List Char) (passes : body.readsVisibly = true)
      (heeds : Heeds body chars) : chars ≠ [] ∧ ∀ c ∈ chars, Text.isBlank c = false := by
    rw [readsVisibly, Bool.and_eq_true] at passes
    refine ⟨heeds.moved passes.1, fun c member => ?_⟩
    rw [← Bool.not_eq_true]
    intro blank
    have avoided := List.all_eq_true.mp passes.2 c.toNat (Text.toNat_mem_blankCodes blank)
    rw [Char.ofNat_toNat] at avoided
    exact heeds.avoided c avoided member
  obtain ⟨nonempty, visible⟩ := captured_of_mem_findAll each
    (everyGroup_urls alternative listed) swept accepts.captured
  have kept : Chars.trim span.chars = span.chars := by
    apply Chars.trim_eq_self
    · exact fun c head => visible c (List.mem_of_mem_head? head)
    · exact fun c last => visible c (List.mem_of_getLast? last)
  rw [Text.trim, Span.text, String.toList_ofList, kept, String.toList_ofList]
  exact ⟨by simpa using nonempty, visible⟩

end Extraction

open Extraction

/-- An address behind the words "go to" is taken character for character, without the periods and
commas that stand between it and a blank, a quote or the end of the text. -/
theorem url_of_address (address : WebAddress) {punctuation tail : String}
    (marked : ∀ c ∈ punctuation.toList, c ∈ sentenceMarks)
    (ends : ∀ c ∈ tail.toList.head?, EndsAddress c)
    (unlocked : Text.contains ("go to " ++ address.text ++ punctuation ++ tail) "[LOCK" = false) :
    (extract ("go to " ++ address.text ++ punctuation ++ tail)).url = some address.text := by
  obtain ⟨alternative, others, listed, run⟩ := address.exists_run_lead
  obtain ⟨after, cut⟩ : ∃ after, Chars.trimRightWhere Text.isBlank tail.toList = after := ⟨_, rfl⟩
  have ending : ∀ c ∈ after.head?, EndsAddress c := by
    obtain ⟨blanks, whole⟩ := Chars.trimRightWhere_prefix_self Text.isBlank tail.toList
    intro c head
    apply ends c
    rw [← whole, cut, List.head?_append, head, Option.some_or]
    rfl
  have stripped := address.strip_sentence marked unlocked
  rw [cut] at stripped
  have span : (address.span (punctuation.toList ++ after)).text = address.text := by
    rw [Span.text, WebAddress.span, chars_word, String.ofList_toList]
  have hit : firstHit (alternatives .url) (Lock.strip (address.sentence punctuation tail)) none =
      some ⟨address.text, address.span (punctuation.toList ++ after)⟩ := by
    have read := run marked ending
    rw [← stripped] at read
    have unreserved : Text.lower (Text.trim (address.span (punctuation.toList ++ after)).text) ∉
        reserved := by
      rw [span, address.trim_text]
      exact address.lower_text_notMem_reserved
    have nonempty : (address.span (punctuation.toList ++ after)).text ≠ "" := by
      rw [span]
      simpa using address.toList_text_ne_nil
    rw [listed, firstHit_of_run read nonempty (.inr unreserved) (by simp), span,
      address.trim_text]
  have given := get_extract .url (address.sentence punctuation tail)
  rw [claimedFor, if_neg (by decide), hit] at given
  exact given

/-- An address in capitals with a period and a comma inside. -/
def shopAddress : WebAddress where
  scheme := "HTTPS://"
  rest := "Shop.test/a,b?q=1.5"
  known := by decide
  nonempty := by decide
  unbroken := by decide
  closed := by
    have last : "Shop.test/a,b?q=1.5".toList.getLast? = some '5' := by decide
    rw [last]
    rintro c ⟨rfl⟩
    decide

theorem url_of_address_shop :
    ((∀ c ∈ ".,.".toList, c ∈ sentenceMarks) ∧ (∀ c ∈ "\" and wait".toList.head?, EndsAddress c) ∧
        Text.contains ("go to " ++ shopAddress.text ++ ".,." ++ "\" and wait") "[LOCK" = false) ∧
      (extract "go to HTTPS://Shop.test/a,b?q=1.5.,.\" and wait").url =
        some "HTTPS://Shop.test/a,b?q=1.5" := by
  have marked : ∀ c ∈ ".,.".toList, c ∈ sentenceMarks := by decide +kernel
  have ends : ∀ c ∈ "\" and wait".toList.head?, EndsAddress c := by
    have first : "\" and wait".toList.head? = some '"' := by decide +kernel
    rw [first]
    rintro c ⟨rfl⟩
    decide
  have unlocked : Text.contains ("go to " ++ shopAddress.text ++ ".,." ++ "\" and wait") "[LOCK" =
      false := by
    decide +kernel
  have parts : "go to " ++ shopAddress.text ++ ".,." ++ "\" and wait" =
      "go to HTTPS://Shop.test/a,b?q=1.5.,.\" and wait" := by
    decide +kernel
  have whole : shopAddress.text = "HTTPS://Shop.test/a,b?q=1.5" := by
    decide +kernel
  have taken := url_of_address shopAddress marked ends unlocked
  rw [parts, whole] at taken
  exact ⟨⟨marked, ends, unlocked⟩, taken⟩

end PlainScript
