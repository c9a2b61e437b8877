/-
Which element of a catalog is meant: the first of those that fit a target best, if it fits well
enough, or else a field that is named by a synonym of the target.
-/

import PlainScript.Proofs.Catalog.Find
import PlainScript.Proofs.Computation
import PlainScript.Proofs.Text.Pieces

namespace PlainScript

namespace Catalog

variable {target : String} {elements : List Element} {element : Element}

/-! The element that fits best -/

/-- The element fits with this score, those before it fit less, and those behind it no better. -/
def FirstBest (target : String) (elements : List Element) (element : Element) (score : Nat) :
    Prop :=
  ∃ earlier later, elements = earlier ++ element :: later ∧ element.score target = .ok score ∧
    (∀ other ∈ earlier, ∃ lower < score, other.score target = .ok lower) ∧
    ∀ other ∈ later, ∃ lower ≤ score, other.score target = .ok lower

/-- No element has a score of so much. -/
def AllBelow (target : String) (elements : List Element) (limit : Nat) : Prop :=
  ∀ element ∈ elements, ∃ lower < limit, element.score target = .ok lower

theorem FirstBest.allBelow {score limit : Nat} (first : FirstBest target elements element score)
    (below : score < limit) : AllBelow target elements limit := by
  obtain ⟨earlier, later, rfl, scored, before, behind⟩ := first
  intro other member
  rcases List.mem_append.mp member with inside | inside
  · obtain ⟨lower, less, same⟩ := before other inside
    exact ⟨lower, Nat.lt_trans less below, same⟩
  · rcases List.mem_cons.mp inside with rfl | inside
    · exact ⟨score, below, scored⟩
    · obtain ⟨lower, most, same⟩ := behind other inside
      exact ⟨lower, Nat.lt_of_le_of_lt most below, same⟩

/-- An element that fits less can stand before. -/
theorem FirstBest.cons {score lower : Nat} {other : Element}
    (first : FirstBest target elements element score) (less : lower < score)
    (scored : other.score target = .ok lower) :
    FirstBest target (other :: elements) element score := by
  obtain ⟨earlier, later, rfl, same, before, behind⟩ := first
  exact ⟨other :: earlier, later, rfl, same,
    List.forall_mem_cons.mpr ⟨⟨lower, less, scored⟩, before⟩, behind⟩

/-- The best of some elements and of one that was found before them: it is still that one if none
of them fits better, and otherwise the first of them that fits best. -/
theorem foldlM_better (textual : AreTextual elements) (target : String)
    (start : Option Element × Nat) :
    (elements.foldlM (better target) start = .ok start ∧
        AllBelow target elements (start.2 + 1)) ∨
      ∃ element score, elements.foldlM (better target) start = .ok (some element, score) ∧
        start.2 < score ∧ FirstBest target elements element score := by
  induction elements generalizing start with
  | nil => exact .inl ⟨rfl, nofun⟩
  | cons first elements ih =>
      rw [AreTextual, List.forall_mem_cons] at textual
      obtain ⟨score, scored, -⟩ := textual.1.yields_score target
      have step : better target start first =
          .ok (if start.2 < score then (some first, score) else start) := by
        rw [better, scored]
        rfl
      have run : (first :: elements).foldlM (better target) start =
          elements.foldlM (better target)
            (if start.2 < score then (some first, score) else start) := by
        rw [List.foldlM_cons, step]
        rfl
      rw [run]
      by_cases more : start.2 < score
      · rw [if_pos more]
        right
        rcases ih textual.2 (some first, score) with ⟨kept, below⟩ | ⟨element, best, kept, less, rest⟩
        · refine ⟨first, score, kept, more, [], elements, rfl, scored, nofun, ?_⟩
          intro other member
          obtain ⟨lower, less, same⟩ := below other member
          exact ⟨lower, Nat.lt_succ_iff.mp less, same⟩
        · exact ⟨element, best, kept, Nat.lt_trans more less, rest.cons less scored⟩
      · rw [if_neg more]
        have most : score ≤ start.2 := Nat.le_of_not_lt more
        rcases ih textual.2 start with ⟨kept, below⟩ | ⟨element, best, kept, less, rest⟩
        · refine .inl ⟨kept, List.forall_mem_cons.mpr ⟨⟨score, ?_, scored⟩, below⟩⟩
          exact Nat.lt_succ_iff.mpr most
        · exact .inr ⟨element, best, kept, less, rest.cons (Nat.lt_of_le_of_lt most less) scored⟩

/-! Namesakes -/

/-- The groups of synonyms that the target belongs to. -/
def groupsOf (target : String) : List (List String) :=
  synonyms.filter fun words => words.any (Text.contains (Text.trim (Text.lower target)))

/-- The element is a field, and one of the words stands in what may name its kind. -/
def Element.IsNamed (words : List String) (element : Element) : Prop :=
  (∃ tag ∈ ["input", "textarea"], element.definition.field? "tag" = some (.text tag)) ∧
    ∃ word ∈ words, ∃ name ∈ ["name", "id", "label", "placeholder"], ∃ text,
      element.lowered name = .ok text ∧ Text.contains text word = true

namespace Element

theorem IsTextual.field?_eq (textual : element.IsTextual) (name : String) :
    element.field? name = .ok (element.definition.field? name) := by
  obtain ⟨entries, definition, -⟩ := textual
  rw [field?, definition]

/-- A tag that is a text is compared as one. -/
theorem same_tag_iff {tag : Option Value} (text : ∀ value ∈ tag, value.isText = true)
    (name : String) : (tag.getD .null).same (.text name) = true ↔ tag = some (.text name) := by
  cases tag with
  | none => simp [Value.same, Value.sameNumber, Value.integer?, Value.number?]
  | some value =>
      obtain ⟨content, rfl⟩ := exists_of_isText (text value rfl)
      simp [Value.same]

/-- A word without spaces stands in joined texts exactly if it stands in one of them. -/
theorem contains_intercalate_iff {word : String} (nonempty : word ≠ "") (spaceless : ' ' ∉ word.toList)
    (texts : List String) :
    Text.contains (" ".intercalate texts) word = true ↔
      ∃ text ∈ texts, Text.contains text word = true := by
  have guarded := Chars.guards_singleton (by simpa using nonempty) spaceless
  have joined : (" ".intercalate texts).toList = [' '].intercalate (texts.map String.toList) := by
    simp
  rw [Text.contains_iff_infix, joined, Chars.infix_intercalate_iff (by simpa using nonempty) guarded]
  simp [Text.contains_iff_infix]

/-- A word without spaces stands in what may name the kind of a textual element exactly if it stands
in one of the texts. -/
theorem IsTextual.exists_searchable (textual : element.IsTextual) :
    ∃ whole, element.searchable = .ok whole ∧ ∀ word, word ≠ "" ∧ ' ' ∉ word.toList →
      (Text.contains whole word = true ↔ ∃ name ∈ ["name", "id", "label", "placeholder"], ∃ text,
        element.lowered name = .ok text ∧ Text.contains text word = true) := by
  obtain ⟨texts, lowered, -⟩ : Yields (fun _ => True)
      (["name", "id", "label", "placeholder"].mapM element.lowered) :=
    (Yields.mapM fun name _ => textual.yields_lowered name).imp fun _ _ => trivial
  have related := Except.mapM_eq_ok_iff.mp lowered
  refine ⟨" ".intercalate texts, by rw [searchable, lowered]; rfl, fun word plain => ?_⟩
  rw [contains_intercalate_iff plain.1 plain.2]
  constructor
  · rintro ⟨text, member, inside⟩
    obtain ⟨name, listed, same⟩ := exists_related_of_mem related.flip member
    exact ⟨name, listed, text, same, inside⟩
  · rintro ⟨name, listed, text, same, inside⟩
    obtain ⟨other, member, made⟩ := exists_related_of_mem related listed
    obtain rfl : other = text := Except.ok.inj (made.symm.trans same)
    exact ⟨other, member, inside⟩

/-- In a textual element it is decided whether it is named by words without spaces. -/
theorem IsTextual.exists_isNamedBy (textual : element.IsTextual) {words : List String}
    (plain : ∀ word ∈ words, word ≠ "" ∧ ' ' ∉ word.toList) :
    ∃ named, element.isNamedBy words = .ok named ∧ (named = true ↔ element.IsNamed words) := by
  obtain ⟨whole, searched, holds⟩ := textual.exists_searchable
  obtain ⟨tag, given, text⟩ := textual.yields_field? "tag"
  have tagged : element.definition.field? "tag" = tag :=
    Except.ok.inj ((textual.field?_eq "tag").symm.trans given)
  have isField : ((tag.getD .null).same (.text "input") || (tag.getD .null).same (.text "textarea")) =
      true ↔ ∃ name ∈ ["input", "textarea"], element.definition.field? "tag" = some (.text name) := by
    rw [Bool.or_eq_true, same_tag_iff text, same_tag_iff text, tagged]
    simp
  have run : element.isNamedBy words = .ok
      (((tag.getD .null).same (.text "input") || (tag.getD .null).same (.text "textarea")) &&
        words.any (Text.contains whole)) := by
    rw [isNamedBy, given, searched]
    change (if (_ || _) = true then _ else _) = _
    split
    · rename_i field
      rw [field, Bool.true_and]
      rfl
    · rename_i other
      rw [Bool.not_eq_true] at other
      rw [other, Bool.false_and]
      rfl
  refine ⟨_, run, ?_⟩
  rw [Bool.and_eq_true, isField, IsNamed, List.any_eq_true]
  exact and_congr_right' (exists_congr fun word => and_congr_right fun member =>
    holds word (plain word member))

end Element

/-- The element is named by one of the words, and none before it is. -/
def FirstNamed (words : List String) (elements : List Element) (element : Element) : Prop :=
  ∃ earlier later, elements = earlier ++ element :: later ∧
    (∀ other ∈ earlier, ¬ other.IsNamed words) ∧ element.IsNamed words

/-- No element is named by any of the words. -/
def NoneNamed (words : List String) (elements : List Element) : Prop :=
  ∀ element ∈ elements, ¬ element.IsNamed words

/-- The search for an element that is named by one of the words finds the first one. -/
theorem findM?_isNamedBy (textual : AreTextual elements) {words : List String}
    (plain : ∀ word ∈ words, word ≠ "" ∧ ' ' ∉ word.toList) :
    (elements.findM? (Element.isNamedBy words) = .ok none ∧ NoneNamed words elements) ∨
      ∃ element, elements.findM? (Element.isNamedBy words) = .ok (some element) ∧
        FirstNamed words elements element := by
  induction elements with
  | nil => exact .inl ⟨rfl, nofun⟩
  | cons first elements ih =>
      rw [AreTextual, List.forall_mem_cons] at textual
      obtain ⟨named, tested, meaning⟩ := textual.1.exists_isNamedBy plain
      rw [List.findM?, tested]
      cases named with
      | true =>
          exact .inr ⟨first, rfl, [], elements, rfl, nofun, meaning.mp rfl⟩
      | false =>
          have unnamed : ¬ first.IsNamed words := fun named => Bool.false_ne_true (meaning.mpr named)
          rcases ih textual.2 with ⟨missed, none⟩ | ⟨element, found, earlier, later, rfl, none, named⟩
          · exact .inl ⟨missed, List.forall_mem_cons.mpr ⟨unnamed, none⟩⟩
          · exact .inr ⟨element, found, first :: earlier, later, rfl,
              List.forall_mem_cons.mpr ⟨unnamed, none⟩, named⟩

/-- The search goes on from group to group until one names an element. -/
theorem findSomeM?_isNamedBy (textual : AreTextual elements) {groups : List (List String)}
    (plain : ∀ words ∈ groups, ∀ word ∈ words, word ≠ "" ∧ ' ' ∉ word.toList) :
    (groups.findSomeM? (fun words => elements.findM? (Element.isNamedBy words)) = .ok none ∧
        ∀ words ∈ groups, NoneNamed words elements) ∨
      ∃ before words after element, groups = before ++ words :: after ∧
        groups.findSomeM? (fun words => elements.findM? (Element.isNamedBy words)) =
          .ok (some element) ∧
        (∀ other ∈ before, NoneNamed other elements) ∧ FirstNamed words elements element := by
  induction groups with
  | nil => exact .inl ⟨rfl, nofun⟩
  | cons first groups ih =>
      rw [List.forall_mem_cons] at plain
      rw [List.findSomeM?]
      rcases findM?_isNamedBy textual plain.1 with ⟨missed, none⟩ | ⟨element, found, named⟩
      · rw [missed]
        rcases ih plain.2 with ⟨missed, all⟩ | ⟨before, words, after, element, rfl, found, all, named⟩
        · exact .inl ⟨missed, List.forall_mem_cons.mpr ⟨none, all⟩⟩
        · exact .inr ⟨first :: before, words, after, element, rfl, found,
            List.forall_mem_cons.mpr ⟨none, all⟩, named⟩
      · rw [found]
        exact .inr ⟨[], first, groups, element, rfl, rfl, nofun, named⟩

/-! The element that is meant -/

theorem FirstBest.mem {score : Nat} (first : FirstBest target elements element score) :
    element ∈ elements := by
  obtain ⟨earlier, later, rfl, -⟩ := first
  exact List.mem_append_right _ List.mem_cons_self

theorem FirstNamed.mem {words : List String} (first : FirstNamed words elements element) :
    element ∈ elements := by
  obtain ⟨earlier, later, rfl, -⟩ := first
  exact List.mem_append_right _ List.mem_cons_self

/-- What a target means among the elements of all pages. -/
inductive IsMeant (target : String) (elements : List Element) : Option Element → Prop
  /-- The element that fits best, if it fits well enough. -/
  | best {element : Element} {score : Nat} (first : FirstBest target elements element score)
      (enough : confident ≤ score) : IsMeant target elements (some element)
  /-- Or else a namesake by the first group of synonyms that names any element. -/
  | namesake {before after : List (List String)} {words : List String} {element : Element}
      (unfit : AllBelow target elements confident)
      (groups : groupsOf target = before ++ words :: after)
      (passed : ∀ other ∈ before, NoneNamed other elements)
      (first : FirstNamed words elements element) : IsMeant target elements (some element)
  | nothing (unfit : AllBelow target elements confident)
      (unnamed : ∀ words ∈ groupsOf target, NoneNamed words elements) :
      IsMeant target elements none

theorem IsMeant.mem (meant : IsMeant target elements (some element)) : element ∈ elements := by
  cases meant with
  | best first enough => exact first.mem
  | namesake unfit groups passed first => exact first.mem

/-- The element that fits best is taken only if it fits well enough. -/
theorem exists_confidentBest? (textual : AreTextual elements) (target : String) :
    (confidentBest? target elements = .ok none ∧ AllBelow target elements confident) ∨
      ∃ element score, confidentBest? target elements = .ok (some element) ∧
        FirstBest target elements element score ∧ confident ≤ score := by
  rcases foldlM_better textual target (none, 0) with ⟨kept, below⟩ | ⟨element, score, kept, -, first⟩
  · left
    refine ⟨?_, fun element member => ?_⟩
    · rw [confidentBest?, best, kept]
      rfl
    · obtain ⟨lower, less, same⟩ := below element member
      exact ⟨lower, Nat.lt_of_lt_of_le less (by decide), same⟩
  · have run : confidentBest? target elements =
        .ok (if confident ≤ score then some element else none) := by
      rw [confidentBest?, best, kept]
      rfl
    rw [run]
    by_cases enough : confident ≤ score
    · rw [if_pos enough]
      exact .inr ⟨element, score, rfl, first, enough⟩
    · rw [if_neg enough]
      exact .inl ⟨rfl, first.allBelow (Nat.lt_of_not_le enough)⟩

theorem namesake?_eq (target : String) (elements : List Element) :
    namesake? target elements =
      (groupsOf target).findSomeM? fun words => elements.findM? (Element.isNamedBy words) := rfl

/-- No synonym is empty or has a space. -/
theorem plain_of_mem_synonyms : ∀ words ∈ synonyms, ∀ word ∈ words,
    word ≠ "" ∧ ' ' ∉ word.toList := by
  decide

variable {catalog : Catalog}

/-- Without a page the search goes through all elements. -/
theorem meant?_eq (listed : catalog.elements = .ok elements) (target : String) :
    catalog.meant? target none = confidentBest? target elements >>= fun found =>
      found.elim (namesake? target elements) fun element => pure (some element) := by
  rw [meant?, listed]
  refine @bind_congr _ _ _ _ (confidentBest? target elements) _ _ fun found => ?_
  cases found with
  | none =>
      -- Kept whole, since unfolding it goes through all synonyms.
      generalize namesake? target elements = search
      rfl
  | some element => rfl

/-- In a textual catalog the search among all pages finds the element that is meant. -/
theorem IsTextual.exists_isMeant (textual : catalog.IsTextual)
    (listed : catalog.elements = .ok elements) (target : String) :
    ∃ found, catalog.meant? target none = .ok found ∧ IsMeant target elements found := by
  obtain ⟨others, same, areTextual⟩ := textual.yields_elements
  obtain rfl : elements = others := Except.ok.inj (listed.symm.trans same)
  rcases exists_confidentBest? areTextual target with ⟨missed, unfit⟩ |
    ⟨element, score, found, first, enough⟩
  · have next : catalog.meant? target none = namesake? target elements := by
      rw [meant?_eq listed, missed]
      generalize namesake? target elements = search
      rfl
    have plain : ∀ words ∈ groupsOf target, ∀ word ∈ words, word ≠ "" ∧ ' ' ∉ word.toList :=
      fun words member => plain_of_mem_synonyms words (List.mem_of_mem_filter member)
    rcases findSomeM?_isNamedBy areTextual plain with ⟨missed, unnamed⟩ |
      ⟨before, words, after, element, groups, found, passed, first⟩
    · exact ⟨none, (next.trans (namesake?_eq _ _)).trans missed, .nothing unfit unnamed⟩
    · exact ⟨some element, (next.trans (namesake?_eq _ _)).trans found,
        .namesake unfit groups passed first⟩
  · refine ⟨some element, ?_, .best first enough⟩
    rw [meant?_eq listed, found]
    rfl

end Catalog

end PlainScript
