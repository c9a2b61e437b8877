/-
Occurrences of a piece in a text, and what happens to them where texts are joined, cut or
rewritten character by character.
-/

import Mathlib.Data.List.Infix
import PlainScript.Text.Blank
import PlainScript.Text.Search

namespace PlainScript

namespace Chars

/-- The search finds exactly the pieces that stand somewhere in the text. -/
theorem contains_iff_infix (piece text : List Char) :
    contains piece text = true ↔ piece <:+: text := by
  induction text with
  | nil => simp [contains]
  | cons c rest ih => simp [contains, List.infix_cons_iff, ih]

/-- No occurrence of the piece can cross the border between the two texts. -/
def Seam (piece left right : List Char) : Prop :=
  (∀ c ∈ left.getLast?, c ∉ piece.dropLast) ∨ ∀ c ∈ right.head?, c ∉ piece.tail

/-- At a seam an occurrence lies on one side. -/
theorem infix_append_iff_of_seam {piece left right : List Char} (seam : Seam piece left right) :
    piece <:+: left ++ right ↔ piece <:+: left ∨ piece <:+: right := by
  rw [List.infix_append_iff_ne_nil]
  constructor
  · rintro (inLeft | inRight | ⟨start, rest, startNonempty, restNonempty, same, suffix, before⟩)
    · exact .inl inLeft
    · exact .inr inRight
    · exfalso
      subst same
      obtain ⟨front, rfl⟩ := suffix
      obtain ⟨back, rfl⟩ := before
      rcases seam with closed | opened
      · have last := List.getLast?_eq_some_getLast startNonempty
        refine closed (start.getLast startNonempty) (by simp [List.getLast?_append, last]) ?_
        rw [List.dropLast_append_of_ne_nil restNonempty]
        exact List.mem_append_left _ (List.getLast_mem startNonempty)
      · obtain ⟨d, rest, rfl⟩ := List.exists_cons_of_ne_nil restNonempty
        refine opened d (by simp) ?_
        rw [List.tail_append_of_ne_nil startNonempty]
        exact List.mem_append_right _ List.mem_cons_self
  · rintro (inLeft | inRight)
    · exact .inl inLeft
    · exact .inr (.inl inRight)

/-- Whether no occurrence of the piece begins in the text and goes on behind its end. -/
def closes (piece text : List Char) : Bool :=
  (List.range piece.length).all fun count => count == 0 || !(piece.take count).isSuffixOf text

/-- Whether no occurrence of the piece that begins before the text goes on in it. -/
def opens (piece text : List Char) : Bool :=
  (List.range piece.length).all fun count => count == 0 || !(piece.drop count).isPrefixOf text

/-- Whether no occurrence that begins in a text without dots goes on in this text. -/
def opensWord (piece text : List Char) : Bool := piece.head? == some '.' || opens piece text

/-- Where the left text is closed or the right one opened, an occurrence lies on one side. -/
theorem infix_append_iff_of_closes_or_opens {piece left right : List Char}
    (parted : closes piece left = true ∨ opens piece right = true) :
    piece <:+: left ++ right ↔ piece <:+: left ∨ piece <:+: right := by
  rw [List.infix_append_iff_ne_nil]
  constructor
  · rintro (inLeft | inRight | ⟨start, rest, startNonempty, restNonempty, same, suffix, before⟩)
    · exact .inl inLeft
    · exact .inr inRight
    · exfalso
      subst same
      have counted : start.length ∈ List.range (start ++ rest).length := by
        rw [List.mem_range, List.length_append]
        exact Nat.lt_add_of_pos_right (List.length_pos_of_ne_nil restNonempty)
      have positive : (start.length == 0) = false := by
        simpa using startNonempty
      rcases parted with closed | opened
      · have outside := List.all_eq_true.mp closed _ counted
        rw [positive, List.take_left, List.isSuffixOf_iff_suffix.mpr suffix] at outside
        cases outside
      · have outside := List.all_eq_true.mp opened _ counted
        rw [positive, List.drop_left, List.isPrefixOf_iff_prefix.mpr before] at outside
        cases outside
  · rintro (inLeft | inRight)
    · exact .inl inLeft
    · exact .inr (.inl inRight)

/-- Whether a text without the piece begins so that no occurrence reaches into it from before. -/
def guardsBefore (piece text : List Char) : Bool :=
  !contains piece text && text.head?.any fun c => !piece.tail.contains c

/-- Whether a text without the piece ends so that no occurrence reaches out of it. -/
def guardsAfter (piece text : List Char) : Bool :=
  !contains piece text && text.getLast?.any fun c => !piece.dropLast.contains c

def guards (piece text : List Char) : Bool := guardsBefore piece text && guardsAfter piece text

theorem guardsBefore_iff (piece text : List Char) :
    guardsBefore piece text = true ↔
      ¬ piece <:+: text ∧ ∃ c, text.head? = some c ∧ c ∉ piece.tail := by
  simp [guardsBefore, ← contains_iff_infix, Option.any_eq_true]

theorem guardsAfter_iff (piece text : List Char) :
    guardsAfter piece text = true ↔
      ¬ piece <:+: text ∧ ∃ c, text.getLast? = some c ∧ c ∉ piece.dropLast := by
  simp [guardsAfter, ← contains_iff_infix, Option.any_eq_true]

/-- In front of a text a guard adds no occurrence. -/
theorem infix_guard_append_iff {piece guard : List Char} (guarded : guardsAfter piece guard = true)
    (right : List Char) : piece <:+: guard ++ right ↔ piece <:+: right := by
  obtain ⟨absent, last, tail, closed⟩ := (guardsAfter_iff piece guard).mp guarded
  have seam : Seam piece guard right := .inl (by simpa [tail] using closed)
  rw [infix_append_iff_of_seam seam]
  simp [absent]

/-- After a text a guard adds no occurrence. -/
theorem infix_append_guard_iff {piece guard : List Char} (guarded : guardsBefore piece guard = true)
    (left : List Char) : piece <:+: left ++ guard ↔ piece <:+: left := by
  obtain ⟨absent, first, head, opened⟩ := (guardsBefore_iff piece guard).mp guarded
  have seam : Seam piece left guard := .inr (by simpa [head] using opened)
  rw [infix_append_iff_of_seam seam]
  simp [absent]

/-- Between two texts a guard separates the occurrences of the piece. -/
theorem infix_append_guard_append_iff {piece guard : List Char}
    (guarded : guards piece guard = true) (left right : List Char) :
    piece <:+: left ++ guard ++ right ↔ piece <:+: left ∨ piece <:+: right := by
  obtain ⟨before, after⟩ := Bool.and_eq_true_iff.mp guarded
  obtain ⟨-, last, tail, closed⟩ := (guardsAfter_iff piece guard).mp after
  have seam : Seam piece (left ++ guard) right := .inl (by
    simpa [List.getLast?_append, tail] using closed)
  rw [infix_append_iff_of_seam seam, infix_append_guard_iff before]

/-- A character outside the piece is a guard. -/
theorem guards_singleton {piece : List Char} {separator : Char} (nonempty : piece ≠ [])
    (foreign : separator ∉ piece) : guards piece [separator] = true := by
  have absent : ¬ piece <:+: [separator] := fun inside => by
    obtain ⟨c, rest, rfl⟩ := List.exists_cons_of_ne_nil nonempty
    have same : c ∈ [separator] := inside.subset List.mem_cons_self
    rw [List.mem_singleton] at same
    exact foreign (same ▸ List.mem_cons_self)
  rw [guards, Bool.and_eq_true, guardsBefore_iff, guardsAfter_iff]
  exact ⟨⟨absent, separator, rfl, fun inTail => foreign (List.mem_of_mem_tail inTail)⟩,
    absent, separator, rfl, fun inFront => foreign (List.mem_of_mem_dropLast inFront)⟩

theorem guardsBefore_singleton {piece : List Char} {separator : Char} (nonempty : piece ≠ [])
    (foreign : separator ∉ piece) : guardsBefore piece [separator] = true :=
  (Bool.and_eq_true_iff.mp (guards_singleton nonempty foreign)).1

theorem guardsAfter_singleton {piece : List Char} {separator : Char} (nonempty : piece ≠ [])
    (foreign : separator ∉ piece) : guardsAfter piece [separator] = true :=
  (Bool.and_eq_true_iff.mp (guards_singleton nonempty foreign)).2

/-- A text of characters outside the piece adds no occurrence in front. -/
theorem infix_foreign_append_iff {piece front : List Char} (nonempty : piece ≠ [])
    (foreign : ∀ c ∈ front, c ∉ piece) (right : List Char) :
    piece <:+: front ++ right ↔ piece <:+: right := by
  induction front with
  | nil => rfl
  | cons c front ih =>
      have guarded := guardsAfter_singleton nonempty (foreign c List.mem_cons_self)
      rw [← ih fun d member => foreign d (List.mem_cons_of_mem c member)]
      exact infix_guard_append_iff guarded (front ++ right)

/-- No occurrence begins in a text without the first character of the piece. -/
theorem cons_infix_append_iff {piece front : List Char} {c : Char} (foreign : c ∉ front)
    (right : List Char) : c :: piece <:+: front ++ right ↔ c :: piece <:+: right := by
  induction front with
  | nil => rfl
  | cons d front ih =>
      rw [List.mem_cons, not_or] at foreign
      rw [List.cons_append, List.infix_cons_iff, List.cons_prefix_cons, ih foreign.2]
      exact or_iff_right fun same => foreign.1 same.1

/-! Rewriting character by character -/

/-- A piece of characters that are kept stays where it is. -/
theorem infix_flatMap_of_infix {piece text : List Char} {rewrite : Char → List Char}
    (kept : ∀ c ∈ piece, rewrite c = [c]) (inside : piece <:+: text) :
    piece <:+: text.flatMap rewrite := by
  obtain ⟨left, right, rfl⟩ := inside
  have same : piece.flatMap rewrite = piece := by
    calc piece.flatMap rewrite = piece.flatMap fun c => [c] := List.flatMap_congr kept
      _ = piece := by simp
  rw [List.flatMap_append, List.flatMap_append, same]
  exact List.infix_append _ _ _

/-- What begins a rewritten text begins the text, if no image of another character begins with one
of its characters. -/
theorem prefix_of_prefix_flatMap {piece text : List Char} {rewrite : Char → List Char}
    (images : ∀ c, rewrite c = [c] ∨ ∃ first rest, rewrite c = first :: rest ∧ first ∉ piece)
    (before : piece <+: text.flatMap rewrite) : piece <+: text := by
  induction text generalizing piece with
  | nil => simpa using before
  | cons c text ih =>
      cases piece with
      | nil => exact List.nil_prefix
      | cons p piece =>
          rw [List.flatMap_cons] at before
          rcases images c with kept | ⟨first, rest, same, foreign⟩
          · rw [kept, List.singleton_append, List.cons_prefix_cons] at before
            refine List.cons_prefix_cons.mpr ⟨before.1, ih ?_ before.2⟩
            intro d
            refine (images d).imp_right ?_
            rintro ⟨first, rest, image, outside⟩
            exact ⟨first, rest, image, fun inside => outside (List.mem_cons_of_mem p inside)⟩
          · rw [same, List.cons_append, List.cons_prefix_cons] at before
            exact absurd (before.1 ▸ List.mem_cons_self) foreign

/-- A piece that stands in a rewritten text stands in the text, if it can neither go on nor begin in
the image of another character. -/
theorem infix_of_infix_flatMap {piece text : List Char} {rewrite : Char → List Char}
    (nonempty : piece ≠ [])
    (images : ∀ c, rewrite c = [c] ∨ ∃ first rest, rewrite c = first :: rest ∧ first ∉ piece ∧
      ∀ d ∈ rest, piece.head? ≠ some d)
    (inside : piece <:+: text.flatMap rewrite) : piece <:+: text := by
  obtain ⟨p, tail, rfl⟩ := List.exists_cons_of_ne_nil nonempty
  induction text with
  | nil => simp at inside
  | cons c text ih =>
      rw [List.flatMap_cons] at inside
      rcases images c with kept | ⟨first, rest, same, foreign, starts⟩
      · rw [kept, List.singleton_append, List.infix_cons_iff] at inside
        rcases inside with before | later
        · have whole : p :: tail <+: (c :: text).flatMap rewrite := by
            rwa [List.flatMap_cons, kept, List.singleton_append]
          refine (prefix_of_prefix_flatMap (fun d => (images d).imp_right ?_) whole).isInfix
          rintro ⟨first, rest, image, outside, -⟩
          exact ⟨first, rest, image, outside⟩
        · exact List.infix_cons (ih later)
      · have unstarted : p ∉ first :: rest := by
          rw [List.mem_cons, not_or]
          exact ⟨fun is => foreign (is ▸ List.mem_cons_self), fun member => starts p member rfl⟩
        rw [same, cons_infix_append_iff unstarted] at inside
        exact List.infix_cons (ih inside)

/-! Replacing -/

/-- What belongs to an occurrence is passed over. -/
theorem replaceFrom_length_append (piece new front back : List Char) :
    replaceFrom piece new front.length (front ++ back) = replaceFrom piece new 0 back := by
  induction front with
  | nil => rfl
  | cons c front ih => exact ih

/-- An occurrence at the front is replaced. -/
theorem replaceFrom_piece_append {piece : List Char} (nonempty : piece ≠ [])
    (new back : List Char) :
    replaceFrom piece new 0 (piece ++ back) = new ++ replaceFrom piece new 0 back := by
  obtain ⟨c, rest, rfl⟩ := List.exists_cons_of_ne_nil nonempty
  have here : (c :: rest).isPrefixOf (c :: (rest ++ back)) = true :=
    List.isPrefixOf_iff_prefix.mpr (List.prefix_append (c :: rest) back)
  rw [List.cons_append, replaceFrom, if_pos here, List.length_cons, Nat.add_sub_cancel,
    replaceFrom_length_append]

/-- Characters with which the piece does not begin are kept. -/
theorem replaceFrom_front_append {piece front : List Char} {c : Char}
    (begins : piece.head? = some c) (foreign : c ∉ front) (new text : List Char) :
    replaceFrom piece new 0 (front ++ text) = front ++ replaceFrom piece new 0 text := by
  obtain ⟨rest, rfl⟩ := List.head?_eq_some_iff.mp begins
  induction front with
  | nil => rfl
  | cons d front ih =>
      rw [List.mem_cons, not_or] at foreign
      have here : (c :: rest).isPrefixOf (d :: (front ++ text)) = false := by
        simp [List.isPrefixOf, foreign.1]
      rw [List.cons_append, replaceFrom, here, if_neg Bool.false_ne_true, ih foreign.2,
        List.cons_append]

end Chars

namespace Text

theorem contains_eq (text : String) :
    contains text = fun piece => Chars.contains piece.toList text.toList := rfl

/-- The search on texts, by their characters. -/
theorem contains_iff_infix (text piece : String) :
    contains text piece = true ↔ piece.toList <:+: text.toList :=
  Chars.contains_iff_infix piece.toList text.toList

theorem contains_eq_false_iff (text piece : String) :
    contains text piece = false ↔ ¬ piece.toList <:+: text.toList := by
  rw [← contains_iff_infix, Bool.not_eq_true]

end Text

end PlainScript
