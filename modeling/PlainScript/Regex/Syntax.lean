/-
Regular expressions with groups, lookaround, lazy and possessive repetition.
-/

import PlainScript.Text.Alphabet
import PlainScript.Text.Blank
import PlainScript.Text.Case

namespace PlainScript

namespace Regex

/-- Which letters count as equal. -/
inductive Folding where
  | exact
  | ascii
  | full
  deriving DecidableEq, Repr

/-- The class of a shorthand such as `\w`. -/
inductive Category where
  | word
  | digit
  | blank
  deriving DecidableEq, Repr

inductive SetItem where
  | one (c : Char)
  | range (first last : Char)
  | category (category : Category) (asciiOnly negated : Bool)
  deriving DecidableEq, Repr

structure CharSet where
  negated : Bool
  items : List SetItem
  deriving DecidableEq, Repr

inductive Anchor where
  | textStart
  | textEnd
  | lineStart
  | lineEnd
  /-- The end of the text or the line feed that ends it. -/
  | lastLineEnd
  | wordEdge (asciiOnly : Bool)
  /-- Inside a word or between other characters; never in an empty text. -/
  | noWordEdge (asciiOnly : Bool)
  deriving DecidableEq, Repr

inductive Greed where
  | greedy
  | lazy
  | possessive
  deriving DecidableEq, Repr

end Regex

open Regex in
inductive Regex where
  | empty
  | char (c : Char) (folding : Folding)
  | member (members : CharSet) (folding : Folding)
  | any (lineFeeds : Bool)
  | anchor (place : Anchor)
  | seq (first second : Regex)
  | alt (first second : Regex)
  | times (greed : Greed) (least : Nat) (most : Option Nat) (body : Regex)
  | group (index : Nat) (body : Regex)
  | back (index : Nat) (folding : Folding)
  | ahead (negated : Bool) (body : Regex)
  | behind (negated : Bool) (width : Nat) (body : Regex)
  | atomic (body : Regex)
  | given (index : Nat) (matched unmatched : Regex)
  deriving DecidableEq, Repr, Inhabited

namespace Regex

def Category.holds (category : Category) (asciiOnly : Bool) (c : Char) : Bool :=
  match category with
  | .word => if asciiOnly then c == '_' || c.isAlphanum else Text.isWord c
  | .digit => if asciiOnly then c.isDigit else Text.isDecimal c
  | .blank =>
      if asciiOnly then c == ' ' || (9 ≤ c.toNat && c.toNat ≤ 13) else Text.isBlank c

def SetItem.holds (item : SetItem) (c : Char) : Bool :=
  match item with
  | .one single => c == single
  | .range first last => first ≤ c && c ≤ last
  | .category kind asciiOnly negated => kind.holds asciiOnly c != negated

/-- All characters that the folding does not tell from `c`. -/
def Folding.variants (folding : Folding) (c : Char) : List Char :=
  match folding with
  | .exact => [c]
  | .ascii => if c.isAlpha then [c.toLower, c.toUpper] else [c]
  | .full => Text.caseVariants c

def Folding.equal (folding : Folding) (first second : Char) : Bool :=
  match folding with
  | .exact => first == second
  | .ascii => first.toLower == second.toLower
  | .full => first == second || Text.foldCase first == Text.foldCase second

/-- A letter is taken in all its variants, but it is in a category for itself. -/
def SetItem.takes (item : SetItem) (folding : Folding) (c : Char) : Bool :=
  match item with
  | .category _ _ _ => item.holds c
  | .one _ | .range _ _ => (folding.variants c).any item.holds

def CharSet.holds (members : CharSet) (folding : Folding) (c : Char) : Bool :=
  members.negated != members.items.any fun item => item.takes folding c

/-! Shorthands for building expressions. -/

/-- The expressions one after another. -/
def all : List Regex → Regex
  | [] => empty
  | [single] => single
  | first :: rest => seq first (all rest)

/-- The first of the expressions that matches. -/
def choice : List Regex → Regex
  | [] => empty
  | [single] => single
  | first :: rest => alt first (choice rest)

/-- The text in any letter case. -/
def caseless (text : String) : Regex := all (text.toList.map fun c => char c .full)

/-- One character out of the items, in any letter case. -/
def oneOf (items : List SetItem) : Regex := member ⟨false, items⟩ .full

/-- One character other than the items. -/
def noneOf (items : List SetItem) : Regex := member ⟨true, items⟩ .full

def many (body : Regex) : Regex := times .greedy 0 none body

def many1 (body : Regex) : Regex := times .greedy 1 none body

def maybe (body : Regex) : Regex := times .greedy 0 (some 1) body

/-- At least one of anything but line feeds, as few as will do. -/
def shortest : Regex := times .lazy 1 none (any false)

def blank : Regex := oneOf [.category .blank false false]

def blanks : Regex := many1 blank

def wordChar : Regex := oneOf [.category .word false false]

def wordEdge : Regex := anchor (.wordEdge false)

end Regex

end PlainScript
