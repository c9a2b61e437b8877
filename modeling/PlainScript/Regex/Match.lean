/-
Matching by backtracking. The first match in the order of preference wins.
-/

import PlainScript.Regex.Syntax

namespace PlainScript.Regex

/-- A place in a text: what stands before it, nearest first, and what follows. -/
structure Cursor where
  before : List Char
  after : List Char
  deriving DecidableEq, Repr

namespace Cursor

def start (text : List Char) : Cursor := ⟨[], text⟩

def offset (cursor : Cursor) : Nat := cursor.before.length

/-- The place `count` characters earlier. -/
def back? (cursor : Cursor) : Nat → Option Cursor
  | 0 => some cursor
  | count + 1 =>
      match cursor.before with
      | [] => none
      | c :: before => (Cursor.mk before (c :: cursor.after)).back? count

def wordBefore (asciiOnly : Bool) (cursor : Cursor) : Bool :=
  match cursor.before with
  | [] => false
  | c :: _ => Category.word.holds asciiOnly c

def wordAfter (asciiOnly : Bool) (cursor : Cursor) : Bool :=
  match cursor.after with
  | [] => false
  | c :: _ => Category.word.holds asciiOnly c

end Cursor

def Anchor.holds (place : Anchor) (cursor : Cursor) : Bool :=
  match place with
  | textStart => cursor.before.isEmpty
  | textEnd => cursor.after.isEmpty
  | lineStart => cursor.before.isEmpty || cursor.before.head? == some '\n'
  | lineEnd => cursor.after.isEmpty || cursor.after.head? == some '\n'
  | lastLineEnd => cursor.after.isEmpty || cursor.after == ['\n']
  | wordEdge asciiOnly => cursor.wordBefore asciiOnly != cursor.wordAfter asciiOnly
  | noWordEdge asciiOnly =>
      !(cursor.before.isEmpty && cursor.after.isEmpty) &&
        cursor.wordBefore asciiOnly == cursor.wordAfter asciiOnly

/-- A piece of a text, from one place to a later one. -/
structure Span where
  first : Cursor
  last : Cursor
  deriving DecidableEq, Repr

namespace Span

def start (span : Span) : Nat := span.first.offset

def stop (span : Span) : Nat := span.last.offset

def chars (span : Span) : List Char := span.first.after.take (span.stop - span.start)

def text (span : Span) : String := .ofList span.chars

/-- Whether the spans share a character. -/
def overlaps (left right : Span) : Bool :=
  left.start < right.stop && right.start < left.stop

end Span

/-- The place reached and the groups captured so far, newest first. -/
structure State where
  cursor : Cursor
  groups : List (Nat × Span)
  deriving DecidableEq, Repr

namespace State

def group? (state : State) (index : Nat) : Option Span := state.groups.lookup index

/-- The state after one character that passes the test. -/
def step? (state : State) (test : Char → Bool) : Option State :=
  match state.cursor.after with
  | [] => none
  | c :: after =>
      if test c then some ⟨⟨c :: state.cursor.before, after⟩, state.groups⟩ else none

/-- The state after a given text. -/
def steps? (state : State) (folding : Folding) : List Char → Option State
  | [] => some state
  | c :: rest => (state.step? (folding.equal c)).bind fun next => next.steps? folding rest

/-- Captures what was read since the earlier state. -/
def capture (state : State) (index : Nat) (earlier : State) : State :=
  ⟨state.cursor, (index, ⟨earlier.cursor, state.cursor⟩) :: state.groups⟩

def stands (state earlier : State) : Bool :=
  state.cursor.after.length == earlier.cursor.after.length

end State

/-- What is to follow a match, or none if it cannot. -/
abbrev Next := State → Option State

abbrev Matcher := State → Next → Option State

/-- So many rounds of the body. -/
def exactly (body : Matcher) : Nat → Matcher
  | 0, state, next => next state
  | count + 1, state, next => body state fun later => exactly body count later next

/-- Up to so many rounds, more rather than fewer. A round that reads nothing is the last. -/
def greedily (body : Matcher) : Nat → Matcher
  | 0, state, next => next state
  | count + 1, state, next =>
      (body state fun later =>
        if later.stands state then next later else greedily body count later next).or (next state)

/-- Up to so many rounds, fewer rather than more. -/
def lazily (body : Matcher) : Nat → Matcher
  | 0, state, next => next state
  | count + 1, state, next =>
      (next state).or
        (body state fun later =>
          if later.stands state then next later else lazily body count later next)

/-- Keeps to the first match of the body. -/
def once (body : Matcher) : Matcher := fun state next => (body state some).bind next

/-- The rounds beyond the least; without a limit there is one more than characters left. -/
def extraRounds (least : Nat) (most : Option Nat) (state : State) : Nat :=
  match most with
  | some most => most - least
  | none => state.cursor.after.length + 1

def repeatedly (body : Matcher) (greed : Greed) (least : Nat) (most : Option Nat) : Matcher :=
  fun state next =>
    match greed with
    | .greedy =>
        exactly body least state fun later =>
          greedily body (extraRounds least most later) later next
    | .lazy =>
        exactly body least state fun later =>
          lazily body (extraRounds least most later) later next
    | .possessive =>
        once (fun state next =>
          exactly (once body) least state fun later =>
            greedily (once body) (extraRounds least most later) later next) state next

/-- Matches the expression here and hands each way to do so to `next` in turn. -/
def run : Regex → Matcher
  | empty, state, next => next state
  | char c folding, state, next => (state.step? (folding.equal c)).bind next
  | member members folding, state, next => (state.step? (members.holds folding)).bind next
  | any lineFeeds, state, next => (state.step? fun c => lineFeeds || c != '\n').bind next
  | anchor place, state, next => if place.holds state.cursor then next state else none
  | seq first second, state, next => run first state fun later => run second later next
  | alt first second, state, next => (run first state next).or (run second state next)
  | times greed least most body, state, next =>
      repeatedly (fun state next => run body state next) greed least most state next
  | group index body, state, next => run body state fun later => next (later.capture index state)
  | back index folding, state, next =>
      (state.group? index).bind fun span => (state.steps? folding span.chars).bind next
  | ahead negated body, state, next =>
      match run body state some with
      | some later => if negated then none else next ⟨state.cursor, later.groups⟩
      | none => if negated then next state else none
  | behind negated width body, state, next =>
      match (state.cursor.back? width).bind fun cursor => run body ⟨cursor, state.groups⟩ some with
      | some later => if negated then none else next ⟨state.cursor, later.groups⟩
      | none => if negated then next state else none
  | atomic body, state, next => (run body state some).bind next
  | given index matched unmatched, state, next =>
      if (state.group? index).isSome then run matched state next else run unmatched state next

structure Match where
  whole : Span
  groups : List (Nat × Span)
  deriving DecidableEq, Repr

namespace Match

def group? (found : Match) (index : Nat) : Option Span := found.groups.lookup index

/-- The text of a group; none if the group took no part. -/
def text? (found : Match) (index : Nat) : Option String := (found.group? index).map Span.text

end Match

/-- The first match that begins here; `advance` asks for one that is not empty. -/
def matchAt (regex : Regex) (advance : Bool) (cursor : Cursor) : Option Match :=
  (regex.run ⟨cursor, []⟩ fun state =>
      if advance && state.stands ⟨cursor, []⟩ then none else some state).map fun state =>
    ⟨⟨cursor, state.cursor⟩, state.groups⟩

/-- The first match that begins here or later. -/
def searchFrom (regex : Regex) (advance : Bool) (before : List Char) :
    List Char → Option Match
  | [] => regex.matchAt advance ⟨before, []⟩
  | c :: after =>
      match regex.matchAt advance ⟨before, c :: after⟩ with
      | some found => some found
      | none => searchFrom regex false (c :: before) after

def search (regex : Regex) (text : String) : Option Match :=
  regex.searchFrom false [] text.toList

def occursIn (regex : Regex) (text : String) : Bool := (regex.search text).isSome

/-- All matches from left to right; after an empty match the next one there is not empty. -/
def findFrom (regex : Regex) : (fuel : Nat) → (advance : Bool) → Cursor → List Match
  | 0, _, _ => []
  | fuel + 1, advance, cursor =>
      match regex.searchFrom advance cursor.before cursor.after with
      | none => []
      | some found =>
          found :: findFrom regex fuel (found.whole.start == found.whole.stop) found.whole.last

def findAll (regex : Regex) (text : String) : List Match :=
  regex.findFrom (2 * text.length + 2) false (.start text.toList)

end PlainScript.Regex
