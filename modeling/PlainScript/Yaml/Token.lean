/-
The tokens of a YAML text. A mapping key shows only at the colon behind it, so the tokens of a
key are put in front of it afterwards.
-/

import PlainScript.Yaml.Scalar

namespace PlainScript.Yaml

inductive Token where
  | version (major : Nat)
  | tagHandle (handle tag : String)
  | otherDirective
  | documentStart
  | documentEnd
  | blockSequence
  | blockMapping
  | blockEnd
  | openBracket
  | closeBracket
  | openBrace
  | closeBrace
  | dash
  | comma
  | key
  | value
  | alias (name : String)
  | anchor (name : String)
  /-- A tag: with a handle, or else in full. -/
  | tag (handle : Option String) (rest : String)
  | scalar (content : String) (plain : Bool)
  deriving DecidableEq, Repr

/-! Tokens that are names -/

/-- The characters of tags. -/
def isTagChar (c : Char) : Bool :=
  c.isAlphanum || "-;/?:@&=+$,_.!~*'()[]%".toList.contains c

/-- The bytes of escapes in a tag, two digits each. -/
def tagEscapes : (fuel : Nat) → List Char → Option (List UInt8 × List Char)
  | 0, rest => some ([], rest)
  | fuel + 1, '%' :: first :: second :: rest => do
      let code ← hexNumber? [first, second]
      (tagEscapes fuel rest).map fun (bytes, rest) => (.ofNat code :: bytes, rest)
  | _ + 1, '%' :: _ => none
  | _ + 1, rest => some ([], rest)

/-- The text of a tag, escapes resolved. -/
def tagText : (fuel : Nat) → List Char → Option (List Char)
  | 0, rest => some rest
  | _ + 1, [] => some []
  | fuel + 1, '%' :: rest => do
      let (bytes, rest) ← tagEscapes fuel ('%' :: rest)
      let piece ← String.fromUTF8? ⟨bytes.toArray⟩
      (tagText fuel rest).map (piece.toList ++ ·)
  | fuel + 1, c :: rest => (tagText fuel rest).map (c :: ·)

def readTagText (place : Place) : Option (String × Place) := do
  let (run, place) := place.span isTagChar
  if run.isEmpty then none
  let text ← tagText (run.length + 1) run
  return (.ofList text, place)

/-- A handle: a name between exclamation marks, or a single mark. -/
def readHandle (place : Place) : Option (String × Place) :=
  if place.peek != some '!' then none
  else
    let (name, after) := place.next.span isNameChar
    if after.peek == some '!' then some (.ofList ('!' :: name ++ ['!']), after.next)
    else if name.isEmpty && place.next.peek == some ' ' then some ("!", place.next)
    else none

/-- Whether a handle with a closing mark begins here. -/
def hasHandle (place : Place) : Bool :=
  (place.next.rest.takeWhile fun c => !(c == ' ' || isBreak c)).contains '!'

def readTag (place : Place) : Option (Token × Place) := do
  let (token, place) ←
    if place.next.peek == some '<' then do
      let (text, place) ← readTagText (place.skip 2)
      if place.peek != some '>' then none
      pure (Token.tag none text, place.next)
    else if separates place.next.peek then pure (Token.tag none "!", place.next)
    else if hasHandle place then do
      let (handle, place) ← readHandle place
      let (text, place) ← readTagText place
      pure (Token.tag (some handle) text, place)
    else do
      let (text, place) ← readTagText place.next
      pure (Token.tag (some "!") text, place)
  if endsWord place.peek then return (token, place) else none

/-- Whether a character may follow the name of an anchor. -/
def endsName (next : Option Char) : Bool :=
  separates next || next.any fun c => "?:,]\x7d%@`".toList.contains c

def readName (place : Place) : Option (String × Place) :=
  let (name, after) := place.next.span isNameChar
  if name.isEmpty || !endsName after.peek then none else some (.ofList name, after)

/-! Directives -/

def readNumber (place : Place) : Option (Nat × Place) :=
  let (digits, place) := place.span Char.isDigit
  if digits.isEmpty then none
  else some (digits.foldl (fun number digit => number * 10 + (digit.toNat - '0'.toNat)) 0, place)

def readVersion (place : Place) : Option (Token × Place) := do
  let (major, place) ← readNumber (place.skipWhile (· == ' '))
  if place.peek != some '.' then none
  let (_, place) ← readNumber place.next
  if endsWord place.peek then return (.version major, place) else none

def readTagHandle (place : Place) : Option (Token × Place) := do
  let (handle, place) ← readHandle (place.skipWhile (· == ' '))
  if place.peek != some ' ' then none
  let (tag, place) ← readTagText (place.skipWhile (· == ' '))
  if endsWord place.peek then return (.tagHandle handle tag, place) else none

def readDirective (place : Place) : Option (Token × Place) := do
  let (name, place) := place.next.span isNameChar
  if name.isEmpty || !endsWord place.peek then none
  let (token, place) ←
    if name == "YAML".toList then readVersion place
    else if name == "TAG".toList then readTagHandle place
    else some (.otherDirective, place.skipWhile fun c => !isBreak c)
  let place ← place.finishLine?
  return (token, place)

/-! The scan -/

/-- Where a key may have begun: the count of tokens in front of it and the place. A key that
stands where its mapping requires one has to be followed by a colon. -/
structure Key where
  tokens : Nat
  required : Bool
  place : Place

/-- The scan of a text: the tokens so far, last first; the first column in which the present
block may hold content, and the same of the blocks around it; and where a key may have begun on
each level of flow collections, the innermost first. -/
structure Scan where
  place : Place
  tokens : List Token
  margin : Nat
  margins : List Nat
  keyAllowed : Bool
  key : Option Key
  outerKeys : List (Option Key)

namespace Scan

def start (text : List Char) : Scan := ⟨.start text, [], 0, [], true, none, []⟩

def inFlow (scan : Scan) : Bool := !scan.outerKeys.isEmpty

def push (scan : Scan) (token : Token) : Scan := { scan with tokens := token :: scan.tokens }

/-- Puts a token after the first `count` ones. -/
def insertAt (scan : Scan) (count : Nat) (token : Token) : Scan :=
  let later := scan.tokens.length - count
  { scan with tokens := scan.tokens.take later ++ token :: scan.tokens.drop later }

/-- Moves on by some characters that are a token. -/
def take (scan : Scan) (count : Nat) (token : Token) : Scan :=
  { scan with place := scan.place.skip count, tokens := token :: scan.tokens }

/-- Passes over spaces, comments and line ends. -/
def skipGap : (fuel : Nat) → Scan → Scan
  | 0, scan => scan
  | fuel + 1, scan =>
      let place := scan.place.skipComment
      if place.peek.any isBreak then
        skipGap fuel
          { scan with place := place.lineBreak.2, keyAllowed := scan.keyAllowed || !scan.inFlow }
      else { scan with place }

/-- Whether a key has become too long, or its line is over. -/
def isStale (place : Place) (key : Key) : Bool :=
  key.place.line != place.line || key.place.offset + 1024 < place.offset

def dropStaleKey (place : Place) (key : Option Key) : Option (Option Key) :=
  match key with
  | none => some none
  | some key =>
      if !isStale place key then some (some key)
      else if key.required then none
      else some none

def dropStaleKeys (scan : Scan) : Option Scan := do
  let key ← dropStaleKey scan.place scan.key
  let outerKeys ← scan.outerKeys.mapM (dropStaleKey scan.place)
  return { scan with key, outerKeys }

/-- Forgets the place where a key may have begun. -/
def dropKey (scan : Scan) : Option Scan :=
  if scan.key.any Key.required then none else some { scan with key := none }

/-- Notes that a key may begin here. -/
def noteKey (scan : Scan) : Option Scan :=
  if scan.keyAllowed then
    (scan.dropKey).map fun dropped =>
      { dropped with
        key := some ⟨scan.tokens.length, !scan.inFlow && scan.margin == scan.place.column + 1,
          scan.place⟩ }
  else some scan

/-- Ends the blocks that begin beyond a column; `margin` is the first column of what follows. -/
def closeBlocks (margin : Nat) : List Nat → Scan → Scan
  | [], scan => scan
  | outer :: margins, scan =>
      if margin < scan.margin then
        closeBlocks margin margins
          { scan with margin := outer, margins, tokens := .blockEnd :: scan.tokens }
      else scan

def unwind (scan : Scan) (margin : Nat) : Scan :=
  if scan.inFlow then scan else closeBlocks margin scan.margins scan

/-- Opens a block in a column unless it is open already; its token goes after the first `count`
tokens. -/
def openBlock (scan : Scan) (column count : Nat) (token : Token) : Scan :=
  if !scan.inFlow && scan.margin ≤ column then
    { scan.insertAt count token with
      margin := column + 1, margins := scan.margin :: scan.margins }
  else scan

/-- What every entry or key with a mark of its own does: it opens a block unless that is open. -/
def mark (scan : Scan) (block token : Token) (keyAllowed : Bool) : Option Scan :=
  if !scan.inFlow && !scan.keyAllowed then none
  else
    ((scan.openBlock scan.place.column scan.tokens.length block).dropKey).map fun scan =>
      { scan.take 1 token with keyAllowed }

/-- A colon: the key in front of it gets its tokens, or else has none. -/
def colon (scan : Scan) : Option Scan :=
  match scan.key with
  | some key =>
      let scan :=
        (scan.insertAt key.tokens .key).openBlock key.place.column key.tokens .blockMapping
      some { scan.take 1 .value with key := none, keyAllowed := false }
  | none => scan.mark .blockMapping .value !scan.inFlow

def openFlow (scan : Scan) (token : Token) : Option Scan :=
  scan.noteKey.map fun scan =>
    { scan.take 1 token with
      keyAllowed := true, key := none, outerKeys := scan.key :: scan.outerKeys }

def closeFlow (scan : Scan) (token : Token) : Option Scan := do
  let scan ← scan.dropKey
  match scan.outerKeys with
  | [] => none
  | key :: outerKeys => return { scan.take 1 token with keyAllowed := false, key, outerKeys }

/-- A line that belongs to no document. -/
def outside (scan : Scan) : Option Scan :=
  (scan.unwind 0).dropKey.map fun scan => { scan with keyAllowed := false }

def documentMark (scan : Scan) (token : Token) : Option Scan :=
  scan.outside.map fun scan => scan.take 3 token

def directive (scan : Scan) : Option Scan := do
  let scan ← scan.outside
  let (token, place) ← readDirective scan.place
  return { scan.push token with place }

/-- A token that may be a key, or part of one. -/
def keyPart (scan : Scan) (read : Place → Option (Token × Place)) : Option Scan := do
  let scan ← scan.noteKey
  let (token, place) ← read scan.place
  return { scan.push token with place, keyAllowed := false }

def quoted (scan : Scan) (double : Bool) : Option Scan :=
  scan.keyPart fun place =>
    (readQuoted double place).map fun (text, place) => (.scalar (.ofList text) false, place)

def block (scan : Scan) (folded : Bool) : Option Scan := do
  let scan ← scan.dropKey
  let (text, place) ← readBlock folded scan.margin scan.place
  return { scan.push (.scalar (.ofList text) false) with place, keyAllowed := true }

def plain (scan : Scan) : Option Scan := do
  let scan ← scan.noteKey
  let (text, place, broken) := readPlain scan.inFlow scan.margin scan.place
  return { scan.push (.scalar (.ofList text) true) with place, keyAllowed := broken }

/-- Whether a plain scalar may begin with the character, the next one given. -/
def startsPlain (inFlow : Bool) (c : Char) (next : Option Char) : Bool :=
  if c == '-' || (!inFlow && (c == '?' || c == ':')) then !separates next
  else !isGap c && !isBreak c && !"?:,[]\x7b\x7d#&*!|>'\"%@`".toList.contains c

/-- Reads the token that begins with the character here. -/
def token (scan : Scan) (c : Char) : Option Scan :=
  let next := scan.place.next.peek
  if c == '%' && scan.place.column == 0 then scan.directive
  else if scan.place.column == 0 && scan.place.atMarker then
    scan.documentMark (if c == '-' then .documentStart else .documentEnd)
  else if c == '[' then scan.openFlow .openBracket
  else if c == '{' then scan.openFlow .openBrace
  else if c == ']' then scan.closeFlow .closeBracket
  else if c == '}' then scan.closeFlow .closeBrace
  else if c == ',' then
    scan.dropKey.map fun scan => { scan.take 1 .comma with keyAllowed := true }
  else if c == '-' && separates next then scan.mark .blockSequence .dash true
  else if c == '?' && (scan.inFlow || separates next) then
    scan.mark .blockMapping .key !scan.inFlow
  else if c == ':' && (scan.inFlow || separates next) then scan.colon
  else if c == '*' then
    scan.keyPart fun place => (readName place).map fun (name, place) => (.alias name, place)
  else if c == '&' then
    scan.keyPart fun place => (readName place).map fun (name, place) => (.anchor name, place)
  else if c == '!' then scan.keyPart readTag
  else if !scan.inFlow && c == '|' then scan.block false
  else if !scan.inFlow && c == '>' then scan.block true
  else if c == '\'' then scan.quoted false
  else if c == '"' then scan.quoted true
  else if startsPlain scan.inFlow c next then scan.plain
  else none

/-- The tokens from here to the end. -/
def finish : (fuel : Nat) → Scan → Option (List Token)
  | 0, _ => none
  | fuel + 1, scan => do
      let scan ← (scan.skipGap (scan.place.rest.length + 1)).dropStaleKeys
      let scan := scan.unwind (scan.place.column + 1)
      match scan.place.peek with
      | some c => (scan.token c).bind (finish fuel)
      | none => (scan.unwind 0).dropKey.map fun scan => scan.tokens.reverse

end Scan

/-- The tokens of a text; a mark of the byte order may come first. -/
def tokens (text : List Char) : Option (List Token) :=
  if text.all isAllowed then
    let scan := Scan.start text
    let scan := if text.head? == some '\ufeff' then { scan with place := scan.place.next } else scan
    scan.finish (text.length + 1)
  else none

end PlainScript.Yaml
