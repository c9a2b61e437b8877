/-
Finding and replacing pieces of text. Pieces are looked for from the left and do not overlap. Sorting
is by insertion: items that may stand in either order keep their places.
-/

namespace PlainScript

namespace Chars

/-- Whether `piece` occurs anywhere in the text. -/
def contains (piece : List Char) : List Char → Bool
  | [] => piece.isEmpty
  | c :: rest => piece.isPrefixOf (c :: rest) || contains piece rest

/-- Replaces each occurrence of a non-empty piece; the first `skip` characters belong to the
occurrence just replaced. -/
def replaceFrom (piece new : List Char) : Nat → List Char → List Char
  | _, [] => []
  | skip + 1, _ :: rest => replaceFrom piece new skip rest
  | 0, c :: rest =>
      if piece.isPrefixOf (c :: rest) then new ++ replaceFrom piece new (piece.length - 1) rest
      else c :: replaceFrom piece new 0 rest

def replace (piece new text : List Char) : List Char :=
  if piece.isEmpty then text else replaceFrom piece new 0 text

/-- The text before and after the first occurrence of the piece. -/
def cut? (piece : List Char) : List Char → Option (List Char × List Char)
  | [] => if piece.isEmpty then some ([], []) else none
  | c :: rest =>
      if piece.isPrefixOf (c :: rest) then some ([], (c :: rest).drop piece.length)
      else (cut? piece rest).map fun parts => (c :: parts.1, parts.2)

end Chars

namespace Text

def contains (text piece : String) : Bool := Chars.contains piece.toList text.toList

def startsWith (text start : String) : Bool := start.toList.isPrefixOf text.toList

def endsWith (text tail : String) : Bool := tail.toList.isSuffixOf text.toList

def replace (text piece new : String) : String :=
  .ofList (Chars.replace piece.toList new.toList text.toList)

/-- The text after `start`, if it starts so. -/
def after? (text start : String) : Option String :=
  if startsWith text start then some (.ofList (text.toList.drop start.toList.length)) else none

def cut? (text piece : String) : Option (String × String) :=
  (Chars.cut? piece.toList text.toList).map fun parts => (.ofList parts.1, .ofList parts.2)

end Text

end PlainScript

namespace PlainScript.Order

variable {α : Type}

/-- Puts an item before the first one that it may precede. -/
def insert (precedes : α → α → Bool) (item : α) : List α → List α
  | [] => [item]
  | first :: rest =>
      if precedes item first then item :: first :: rest
      else first :: insert precedes item rest

def sort (precedes : α → α → Bool) (items : List α) : List α :=
  items.foldr (insert precedes) []

@[simp] theorem mem_insert (precedes : α → α → Bool) (item other : α) (items : List α) :
    other ∈ insert precedes item items ↔ other = item ∨ other ∈ items := by
  induction items with
  | nil => simp [insert]
  | cons first rest ih =>
      by_cases before : precedes item first
      · simp [insert, before]
      · simp only [insert, before, Bool.false_eq_true, if_false, List.mem_cons, ih]
        exact or_left_comm

/-- Sorting keeps the items. -/
@[simp] theorem mem_sort (precedes : α → α → Bool) (other : α) (items : List α) :
    other ∈ sort precedes items ↔ other ∈ items := by
  induction items with
  | nil => simp [sort]
  | cons first rest ih =>
      rw [List.mem_cons, ← ih]
      exact mem_insert precedes first other (sort precedes rest)

end PlainScript.Order
