/-
Catalogs in which every attribute is a text: looking for an element never fails in them, and so
no step is too much for their refinement.
-/

import PlainScript.Catalog.Pages
import PlainScript.Proofs.TestCase.RoundTrip

namespace PlainScript

/-! Computations that succeed -/

/-- The computation succeeds with a value that has the property. -/
def Yields {ε α : Type} (P : α → Prop) (computation : Except ε α) : Prop :=
  ∃ value, computation = .ok value ∧ P value

namespace Yields

variable {ε α β : Type} {P : α → Prop} {Q : β → Prop}

theorem pure {value : α} (holds : P value) : Yields P (Pure.pure value : Except ε α) :=
  ⟨value, rfl, holds⟩

theorem bind {first : Except ε α} {next : α → Except ε β} (before : Yields P first)
    (after : ∀ value, P value → Yields Q (next value)) : Yields Q (first >>= next) := by
  obtain ⟨value, rfl, holds⟩ := before
  exact after value holds

theorem map {first : Except ε α} {change : α → β} (before : Yields P first)
    (kept : ∀ value, P value → Q (change value)) : Yields Q (first.map change) := by
  obtain ⟨value, rfl, holds⟩ := before
  exact ⟨change value, rfl, kept value holds⟩

theorem imp {P' : α → Prop} {first : Except ε α} (before : Yields P first)
    (weaker : ∀ value, P value → P' value) : Yields P' first := by
  obtain ⟨value, done, holds⟩ := before
  exact ⟨value, done, weaker value holds⟩

theorem mapM {γ : Type} {items : List γ} {change : γ → Except ε α}
    (each : ∀ item ∈ items, Yields P (change item)) :
    Yields (fun changed => ∀ value ∈ changed, P value) (items.mapM change) := by
  induction items with
  | nil => exact pure nofun
  | cons item items ih =>
      rw [List.forall_mem_cons] at each
      rw [List.mapM_cons]
      refine each.1.bind fun value holds => (ih each.2).bind fun values all => pure ?_
      exact List.forall_mem_cons.mpr ⟨holds, all⟩

theorem foldlM {γ : Type} {items : List γ} {step : α → γ → Except ε α} {start : α}
    (begun : P start) (each : ∀ item ∈ items, ∀ state, P state → Yields P (step state item)) :
    Yields P (items.foldlM step start) := by
  induction items generalizing start with
  | nil => exact pure begun
  | cons item items ih =>
      rw [List.forall_mem_cons] at each
      rw [List.foldlM_cons]
      exact (each.1 start begun).bind fun state holds => ih holds each.2

theorem findM? {items : List α} {test : α → Except ε Bool} (all : ∀ item ∈ items, P item)
    (each : ∀ item ∈ items, Yields (fun _ => True) (test item)) :
    Yields (fun found : Option α => ∀ item ∈ found, P item) (items.findM? test) := by
  induction items with
  | nil => exact pure nofun
  | cons item items ih =>
      rw [List.forall_mem_cons] at all each
      rw [List.findM?]
      refine each.1.bind fun hit _ => ?_
      cases hit with
      | true => exact pure (by simpa using all.1)
      | false => exact ih all.2 each.2

theorem findSomeM? {γ : Type} {items : List γ} {test : γ → Except ε (Option α)}
    (each : ∀ item ∈ items, Yields (fun found => ∀ value ∈ found, P value) (test item)) :
    Yields (fun found => ∀ value ∈ found, P value) (items.findSomeM? test) := by
  induction items with
  | nil => exact pure nofun
  | cons item items ih =>
      rw [List.forall_mem_cons] at each
      rw [List.findSomeM?]
      refine each.1.bind fun found holds => ?_
      cases found with
      | some value => exact pure holds
      | none => exact ih each.2

end Yields

namespace Catalog

/-- Every attribute of the element is a text. -/
def Element.IsTextual (element : Element) : Prop :=
  ∃ entries, element.definition = .record entries ∧ ∀ entry ∈ entries, entry.2.isText = true

/-- Every page lists elements, and every attribute of them is a text. -/
def IsTextual (catalog : Catalog) : Prop :=
  ∀ page ∈ catalog.pages, ∃ items, page.2 = .list items ∧
    ∀ item ∈ items, Element.IsTextual ⟨item⟩

theorem exists_of_isText {value : Value} (text : value.isText = true) :
    ∃ content, value = .text content := by
  cases value with
  | text content => exact ⟨content, rfl⟩
  | _ => cases text

theorem yields_textOf {value : Value} (text : value.isText = true) :
    Yields (fun _ => True) (textOf value) := by
  obtain ⟨content, rfl⟩ := exists_of_isText text
  exact ⟨content, rfl, trivial⟩

theorem yields_locate (locator : Locator) {type : String} {fields : List (String × Value)}
    (written : locator.fields = ("type", .text type) :: fields) :
    Yields (fun _ => True) (Element.locate type fields) := by
  rw [Element.locate, ← written]
  have read := Locator.decode_document .memory locator
  rw [Locator.document] at read
  rw [read]
  exact .pure trivial

namespace Element

variable {element : Element}

/-- A field of a textual element is a text. -/
theorem IsTextual.yields_field? (textual : element.IsTextual) (name : String) :
    Yields (fun found : Option Value => ∀ value ∈ found, value.isText = true)
      (element.field? name) := by
  obtain ⟨entries, definition, texts⟩ := textual
  rw [field?, definition]
  refine .pure fun value found => ?_
  obtain ⟨entry, here, rfl⟩ := Option.map_eq_some_iff.mp found
  exact texts entry (List.mem_of_find?_eq_some here)

theorem IsTextual.yields_filled? (textual : element.IsTextual) (name : String) :
    Yields (fun found : Option Value => ∀ value ∈ found, value.isText = true)
      (element.filled? name) :=
  (textual.yields_field? name).map fun _ texts value found =>
    texts value (Option.filter_eq_some_iff.mp found).1

theorem IsTextual.yields_lowered (textual : element.IsTextual) (name : String) :
    Yields (fun _ => True) (element.lowered name) := by
  rw [lowered]
  refine (textual.yields_filled? name).bind fun found texts => ?_
  cases found with
  | none => exact .pure trivial
  | some value => exact (yields_textOf (texts value rfl)).bind fun _ _ => .pure trivial

theorem IsTextual.yields_roleAndName? (textual : element.IsTextual) :
    Yields (fun found : Option (Value × Value) =>
      ∀ pair ∈ found, pair.1.isText = true ∧ pair.2.isText = true) element.roleAndName? := by
  rw [roleAndName?]
  refine (textual.yields_filled? "role").bind fun ariaRole roleTexts =>
    (textual.yields_filled? "name").bind fun name nameTexts => ?_
  split
  · split
    · exact .pure nofun
    · refine .pure fun pair found => ?_
      obtain rfl := Option.some.inj found
      exact ⟨roleTexts _ rfl, nameTexts _ rfl⟩
  · exact .pure nofun

theorem IsTextual.yields_tagLocator (textual : element.IsTextual) :
    Yields (fun _ => True) element.tagLocator := by
  rw [tagLocator]
  refine (textual.yields_field? "tag").bind fun _ _ =>
    (textual.yields_field? "name").bind fun name texts => ?_
  have text : (name.getD (.text "")).isText = true := by
    cases name with
    | none => rfl
    | some value => exact texts value rfl
  exact (yields_textOf text).bind fun _ _ => .pure trivial

theorem IsTextual.yields_looseLocator (textual : element.IsTextual) :
    Yields (fun _ => True) element.looseLocator := by
  rw [looseLocator]
  refine textual.yields_roleAndName?.bind fun named pairTexts =>
    (textual.yields_filled? "placeholder").bind fun placeholder placeholderTexts =>
      (textual.yields_filled? "class").bind fun classes classTexts => ?_
  split
  · rename_i ariaRole name
    obtain ⟨roleText, nameText⟩ := pairTexts _ rfl
    obtain ⟨roleContent, rfl⟩ := exists_of_isText roleText
    obtain ⟨nameContent, rfl⟩ := exists_of_isText nameText
    exact yields_locate (.role (some roleContent) (some nameContent)) rfl
  · exact (yields_textOf (placeholderTexts _ rfl)).bind fun _ _ => .pure trivial
  · exact (yields_textOf (classTexts _ rfl)).bind fun _ _ => .pure trivial
  · exact textual.yields_tagLocator

/-- Every textual element has a locator. -/
theorem IsTextual.yields_locator (textual : element.IsTextual) :
    Yields (fun _ => True) element.locator := by
  rw [locator]
  refine (textual.yields_filled? "data-testid").bind fun testId testIdTexts =>
    (textual.yields_filled? "id").bind fun id idTexts =>
      (textual.yields_filled? "label").bind fun label labelTexts => ?_
  split
  · exact (yields_textOf (testIdTexts _ rfl)).bind fun _ _ => .pure trivial
  · obtain ⟨content, rfl⟩ := exists_of_isText (idTexts _ rfl)
    exact yields_locate (.plain "id" (by decide) (some content)) rfl
  · obtain ⟨content, rfl⟩ := exists_of_isText (labelTexts _ rfl)
    exact yields_locate (.label content) rfl
  · exact textual.yields_looseLocator

theorem IsTextual.yields_score (textual : element.IsTextual) (target : String) :
    Yields (fun _ => True) (element.score target) := by
  rw [score]
  exact (textual.yields_lowered "name").bind fun _ _ =>
    (textual.yields_lowered "label").bind fun _ _ =>
      (textual.yields_lowered "placeholder").bind fun _ _ =>
        (textual.yields_lowered "role").bind fun _ _ => .pure trivial

theorem IsTextual.yields_isNamedBy (textual : element.IsTextual) (words : List String) :
    Yields (fun _ => True) (element.isNamedBy words) := by
  rw [isNamedBy]
  refine (textual.yields_field? "tag").bind fun tag _ => ?_
  dsimp only
  split
  · refine Yields.bind (P := fun _ => True) ?_ fun _ _ => .pure trivial
    rw [searchable]
    exact (Yields.mapM fun name _ => textual.yields_lowered name).bind fun _ _ => .pure trivial
  · exact .pure trivial

end Element

/-! Choosing an element -/

/-- The elements are textual. -/
def AreTextual (elements : List Element) : Prop := ∀ element ∈ elements, element.IsTextual

/-- An element that is found is textual. -/
def IsTextualFind (found : Option Element) : Prop := ∀ element ∈ found, element.IsTextual

variable {elements : List Element}

theorem yields_best (textual : AreTextual elements) (target : String) :
    Yields (fun found : Option Element × Nat => IsTextualFind found.1) (best target elements) := by
  refine Yields.foldlM (P := fun found : Option Element × Nat => IsTextualFind found.1) nofun
    fun element member found holds => ?_
  rw [better]
  refine ((textual element member).yields_score target).bind fun score _ => .pure ?_
  split
  · exact fun chosen same => Option.some.inj same ▸ textual element member
  · exact holds

theorem yields_confidentBest? (textual : AreTextual elements)
    (target : String) : Yields IsTextualFind (confidentBest? target elements) := by
  rw [confidentBest?]
  refine (yields_best textual target).bind fun found holds => .pure ?_
  split
  · exact holds
  · exact nofun

theorem yields_namesake? (textual : AreTextual elements) (target : String) :
    Yields IsTextualFind (namesake? target elements) := by
  rw [namesake?]
  exact Yields.findSomeM? fun words _ => Yields.findM? textual fun element member =>
    (textual element member).yields_isNamedBy words

variable {catalog : Catalog}

theorem yields_elementsOf {definitions : Value} {items : List Value}
    (listed : definitions = .list items) (textual : ∀ item ∈ items, Element.IsTextual ⟨item⟩) :
    Yields AreTextual (elementsOf definitions) := by
  subst listed
  exact .pure (List.forall_mem_map.mpr textual)

theorem IsTextual.yields_elements (textual : catalog.IsTextual) :
    Yields AreTextual catalog.elements := by
  rw [elements]
  refine Yields.map (Yields.mapM (P := AreTextual) fun page member => ?_)
    fun pages all element inside => ?_
  · obtain ⟨items, listed, texts⟩ := textual page member
    exact yields_elementsOf listed texts
  · obtain ⟨elements, member, here⟩ := List.mem_flatten.mp inside
    exact all elements member element here

theorem IsTextual.yields_onPage? (textual : catalog.IsTextual) (target : String)
    (page : Option String) : Yields IsTextualFind (catalog.onPage? target page) := by
  rw [onPage?]
  split
  · rename_i definitions here
    obtain ⟨name, -, listed⟩ := Option.bind_eq_some_iff.mp here
    obtain ⟨before, after, pages, -⟩ := List.lookup_eq_some_iff.mp listed
    obtain ⟨items, same, texts⟩ := textual (name, definitions) (by simp [pages])
    exact Yields.bind (yields_elementsOf same texts) fun _ all => yields_confidentBest? all target
  · exact .pure nofun

theorem IsTextual.yields_meant? (textual : catalog.IsTextual) (target : String)
    (page : Option String) : Yields IsTextualFind (catalog.meant? target page) := by
  rw [meant?]
  refine (textual.yields_onPage? target page).bind fun onPage here => ?_
  cases onPage with
  | some element => exact .pure here
  | none =>
      refine textual.yields_elements.bind fun elements all => ?_
      refine (yields_confidentBest? all target).bind fun found holds => ?_
      cases found with
      | some element => exact .pure holds
      | none => exact yields_namesake? all target

/-- Whatever a textual catalog is asked for, it finds a locator or none. -/
theorem IsTextual.yields_find (textual : catalog.IsTextual) (target : String)
    (page : Option String) : Yields (fun _ => True) (catalog.find target page) := by
  rw [find]
  refine (textual.yields_meant? target page).bind fun found holds => ?_
  cases found with
  | some element => exact (holds element rfl).yields_locator.bind fun _ _ => .pure trivial
  | none => exact .pure trivial

end Catalog

end PlainScript
