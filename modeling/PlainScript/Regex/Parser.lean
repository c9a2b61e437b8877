/-
Reading the usual notation of regular expressions, with groups up to a given count of levels.
-/

import PlainScript.Number.Integer
import PlainScript.Regex.Syntax

namespace PlainScript.Regex

/-- Why a text is not a regular expression. -/
inductive Fault where
  | badEscape
  | unterminatedSet
  | badRange
  | nothingToRepeat
  | doubleRepeat
  | badRepeatBounds
  | unbalancedGroup
  | unknownExtension
  | badGroupName
  | badGroupReference
  | badFlags
  | unboundedLookbehind
  | repeatedTemplate
  | oversizedCode
  | oversizedBound
  | overlongBound (count : Nat)
  | mixedAlphabets
  | namedCharacter
  | unusualName
  | tooDeep
  deriving DecidableEq, Repr

/-- Names of characters, names with letters beyond the basic ones and groups that nest deeper are
read elsewhere. Few faults are reported. -/
def Fault.severity : Fault → Severity
  | overlongBound count => .reported (Number.tooManyDigits count)
  | mixedAlphabets => .reported "ASCII and UNICODE flags are incompatible"
  | namedCharacter | unusualName | tooDeep => .unsettled
  | _ => .breaking

/-- A backslash and the character after it are one token. -/
inductive Token where
  | plain (c : Char)
  | escaped (c : Char)
  /-- A backslash that ends the text. -/
  | dangling
  deriving DecidableEq, Repr

def tokens : List Char → List Token
  | [] => []
  | ['\\'] => [.dangling]
  | '\\' :: c :: rest => .escaped c :: tokens rest
  | c :: rest => .plain c :: tokens rest

structure Flags where
  ignoreCase : Bool := false
  ascii : Bool := false
  /-- The letters of every script are asked for. -/
  unicode : Bool := false
  multiline : Bool := false
  dotAll : Bool := false
  verbose : Bool := false
  /-- Nothing may be repeated. -/
  template : Bool := false
  deriving DecidableEq, Repr

def Flags.folding (flags : Flags) : Folding :=
  if flags.ignoreCase then (if flags.ascii then .ascii else .full) else .exact

/-- The least and the greatest length of a match; none is without limit. -/
structure Width where
  least : Nat
  most : Option Nat
  deriving DecidableEq, Repr

namespace Width

def exact (count : Nat) : Width := ⟨count, some count⟩

def add (left right : Width) : Width :=
  ⟨left.least + right.least, do return (← left.most) + (← right.most)⟩

def either (left right : Width) : Width :=
  ⟨min left.least right.least, do return max (← left.most) (← right.most)⟩

def times (width : Width) (least : Nat) (most : Option Nat) : Width :=
  ⟨width.least * least,
    if width.most == some 0 || most == some 0 then some 0
    else do return (← width.most) * (← most)⟩

/-- The greatest length of what is looked for behind a place. -/
def mostBehind : Nat := 0xFFFFFFFF

/-- All matches are of one length that can be looked back. -/
def isFixed (width : Width) : Bool :=
  width.most == some width.least && width.least ≤ mostBehind

end Width

/-- The length of the matches of an expression, given those of its groups. -/
def width (groups : List (Nat × Width)) : Regex → Width
  | empty | anchor _ | ahead _ _ | behind _ _ _ => .exact 0
  | char _ _ | member _ _ | any _ => .exact 1
  | seq first second => (width groups first).add (width groups second)
  | alt first second => (width groups first).either (width groups second)
  | times _ least most body => (width groups body).times least most
  | group _ body | atomic body => width groups body
  | back index _ => (groups.lookup index).getD (.exact 0)
  | given _ matched unmatched => (width groups matched).either (width groups unmatched)

/-- What was read so far. -/
structure Progress where
  rest : List Token
  flags : Flags
  /-- Groups opened so far. -/
  opened : Nat := 0
  /-- The lengths of the closed groups. -/
  closed : List (Nat × Width) := []
  names : List (String × Nat) := []
  /-- Groups opened before the outermost lookbehind that is being read. -/
  outside : Option Nat := none
  /-- Groups that conditions refer to by number. -/
  conditions : List Nat := []
  /-- The levels of groups that may still be opened. -/
  levels : Nat
  /-- Both the basic letters and those of every script have been asked for. -/
  mixed : Bool := false
  /-- There is a lookbehind for matches of several lengths. -/
  unbounded : Bool := false

abbrev Reader := StateT Progress (Except Fault)

namespace Reader

def peek : Reader (Option Token) := do return (← get).rest.head?

/-- Passes over a token, when the next one has to be whole. -/
def advance : Reader Unit := do
  let progress ← get
  let rest := progress.rest.drop 1
  if rest.head? == some .dangling then throw .badEscape
  set { progress with rest }

def take : Reader (Option Token) := do
  let token ← peek
  advance
  return token

/-- Takes the token if it comes next. -/
def accept (token : Token) : Reader Bool := do
  if (← peek) == some token then
    advance
    return true
  else return false

/-- Takes the characters that pass the test, at most `count`. -/
def takeWhile (test : Char → Bool) : (count : Nat) → Reader (List Char)
  | 0 => return []
  | count + 1 => do
      match ← peek with
      | some (.plain c) =>
          if test c then
            let _ ← take
            return c :: (← takeWhile test count)
          else return []
      | _ => return []

def remaining : Reader Nat := do return (← get).rest.length

/-- Takes the text up to a mark, which is dropped. -/
def takeUntil (mark : Char) : (fuel : Nat) → Reader (List Char)
  | 0 => throw .badGroupName
  | fuel + 1 => do
      match ← take with
      | none => throw .badGroupName
      | some (.plain c) =>
          if c == mark then return [] else return c :: (← takeUntil mark fuel)
      | some (.escaped c) => return '\\' :: c :: (← takeUntil mark fuel)
      | some .dangling => throw .badEscape

/-- Takes a name up to a mark. -/
def name (mark : Char) : Reader String := do
  let chars ← takeUntil mark (← remaining)
  if chars.isEmpty then throw .badGroupName
  return .ofList chars

/-- Opens a level of groups. -/
def enter : Reader Unit := do
  let progress ← get
  match progress.levels with
  | 0 => throw .tooDeep
  | levels + 1 => set { progress with levels }

/-- Closes a level. -/
def leave : Reader Unit :=
  modify fun progress => { progress with levels := progress.levels + 1 }

end Reader

open Reader

def isBasic (c : Char) : Bool := c.toNat < 0x80

/-- Refuses names that are no identifiers, as far as the basic characters tell. -/
def checkIdentifier (name : String) : Except Fault Unit :=
  let chars := name.toList
  let fits := fun (c : Char) => !isBasic c || c.isAlphanum || c == '_'
  if chars.head?.any Char.isDigit || !chars.all fits then .error .badGroupName
  else if chars.all isBasic then .ok ()
  else .error .unusualName

def isHexDigit (c : Char) : Bool :=
  c.isDigit || ('a' ≤ c && c ≤ 'f') || ('A' ≤ c && c ≤ 'F')

def isOctalDigit (c : Char) : Bool := '0' ≤ c && c ≤ '7'

def hexNumber (digits : List Char) : Nat :=
  digits.foldl (fun value c =>
    16 * value + (if c.isDigit then c.toNat - '0'.toNat else c.toLower.toNat - 'a'.toNat + 10)) 0

def octalNumber (digits : List Char) : Nat :=
  digits.foldl (fun value c => 8 * value + (c.toNat - '0'.toNat)) 0

def decimalNumber (digits : List Char) : Nat :=
  digits.foldl (fun value c => 10 * value + (c.toNat - '0'.toNat)) 0

/-- The code of a hexadecimal escape with exactly so many digits. -/
def hexEscape (count : Nat) : Reader Nat := do
  let digits ← takeWhile isHexDigit count
  if digits.length != count then throw .badEscape
  let code := hexNumber digits
  if 0x7FFFFFFF < code then throw .oversizedCode
  if 0x10FFFF < code then throw .badEscape
  return code

/-- The escape of a character by its name. -/
def namedEscape : Reader Nat := do
  if !(← accept (.plain '\x7b')) then throw .badEscape
  let _ ← name '\x7d'
  throw .namedCharacter

/-- The escapes for control characters. -/
def control? : Char → Option Char
  | 'a' => some '\x07'
  | 'b' => some '\x08'
  | 'f' => some '\x0c'
  | 'n' => some '\n'
  | 'r' => some '\r'
  | 't' => some '\t'
  | 'v' => some '\x0b'
  | '\\' => some '\\'
  | _ => none

def category? (flags : Flags) : Char → Option SetItem
  | 'd' => some (.category .digit flags.ascii false)
  | 'D' => some (.category .digit flags.ascii true)
  | 's' => some (.category .blank flags.ascii false)
  | 'S' => some (.category .blank flags.ascii true)
  | 'w' => some (.category .word flags.ascii false)
  | 'W' => some (.category .word flags.ascii true)
  | _ => none

/-- The code of an escape that stands for one character wherever it is written. -/
def charEscape (c : Char) : Reader Nat := do
  if c == 'x' then hexEscape 2
  else if c == 'u' then hexEscape 4
  else if c == 'U' then hexEscape 8
  else if c == 'N' then namedEscape
  else if c.isAlphanum then throw .badEscape
  else return c.toNat

/-- Half of a pair has a code, but is no character. -/
def isHalf (code : Nat) : Bool := 0xD800 ≤ code && code < 0xE000

/-- The character of a code; half of a pair stands nowhere. -/
def literal (code : Nat) (folding : Folding) : Regex :=
  if isHalf code then member ⟨false, []⟩ folding else char (.ofNat code) folding

/-- A member of a set as it is written: a character by its code, or a category. -/
inductive SetMember where
  | code (code : Nat)
  | category (item : SetItem)

/-- The characters with codes from one to another. -/
def codeRange (first last : Nat) : SetItem :=
  .range (if isHalf first then '\ue000' else .ofNat first)
    (if isHalf last then '\ud7ff' else .ofNat last)

def SetMember.item : SetMember → SetItem
  | code number => if isHalf number then codeRange number number else .one (.ofNat number)
  | category item => item

/-- An escape inside a set. -/
def setEscape (c : Char) : Reader SetMember := do
  let flags := (← get).flags
  match control? c, category? flags c with
  | some plain, _ => return .code plain.toNat
  | _, some item => return .category item
  | none, none =>
      if isOctalDigit c then
        let digits := c :: (← takeWhile isOctalDigit 2)
        if 0o377 < octalNumber digits then throw .badEscape
        return .code (octalNumber digits)
      else return .code (← charEscape c)

/-- A reference to a group that is complete and may be referred to here. -/
def reference (index : Nat) : Reader Regex := do
  let progress ← get
  if (progress.closed.lookup index).isNone then throw .badGroupReference
  match progress.outside with
  | some outside => if outside < index then throw .badGroupReference
  | none => pure ()
  return back index progress.flags.folding

/-- An escape that begins with a digit other than zero: a character code of three octal digits
or a reference. -/
def digitEscape (c : Char) : Reader Regex := do
  let folding := (← get).flags.folding
  match (← get).rest with
  | .plain d :: .plain e :: _ =>
      if isOctalDigit c && isOctalDigit d && isOctalDigit e then
        advance
        advance
        let code := octalNumber [c, d, e]
        if 0o377 < code then throw .badEscape
        return char (.ofNat code) folding
      else pure ()
  | _ => pure ()
  let more ← takeWhile Char.isDigit 1
  reference (decimalNumber (c :: more))

/-- An escape outside sets; the flag tells an anchor. -/
def escape (c : Char) : Reader (Regex × Bool) := do
  let flags := (← get).flags
  match c with
  | 'A' => return (anchor .textStart, true)
  | 'Z' => return (anchor .textEnd, true)
  | 'b' => return (anchor (.wordEdge flags.ascii), true)
  | 'B' => return (anchor (.noWordEdge flags.ascii), true)
  | _ => pure ()
  match category? flags c, control? c with
  | some item, _ => return (.member ⟨false, [item]⟩ flags.folding, false)
  | _, some plain => return (char plain flags.folding, false)
  | none, none =>
      if c == '0' then
        let digits ← takeWhile isOctalDigit 2
        return (char (.ofNat (octalNumber digits)) flags.folding, false)
      else if c.isDigit then return (← digitEscape c, false)
      else return (literal (← charEscape c) flags.folding, false)

/-- One member of a set. -/
def setMember : Token → Reader SetMember
  | .plain c => return .code c.toNat
  | .escaped c => setEscape c
  | .dangling => throw .badEscape

/-- The members of a set up to its end; none are read yet if `first` holds. -/
def setItems : (fuel : Nat) → (first : Bool) → Reader (List SetItem)
  | 0, _ => throw .unterminatedSet
  | fuel + 1, first => do
      match ← take with
      | none => throw .unterminatedSet
      | some token =>
          if token == .plain ']' && !first then return []
          let low ← setMember token
          if ← accept (.plain '-') then
            match ← take with
            | none => throw .unterminatedSet
            | some (.plain ']') => return [low.item, .one '-']
            | some token =>
                match low, ← setMember token with
                | .code low, .code high =>
                    if high < low then throw .badRange
                    return codeRange low high :: (← setItems fuel false)
                | _, _ => throw .badRange
          else return low.item :: (← setItems fuel false)

/-- A set whose opening bracket is behind. -/
def charSet : Reader Regex := do
  let folding := (← get).flags.folding
  let negated ← accept (.plain '^')
  return .member ⟨negated, ← setItems (← remaining) true⟩ folding

/-- The least count of rounds that no bound may reach. -/
def boundLimit : Nat := 0xFFFFFFFF

/-- The number of a bound; none if it is left out. -/
def bound? (digits : List Char) : Except Fault (Option Nat) :=
  if digits.isEmpty then .ok none
  else if Number.mostDigits < digits.length then .error (.overlongBound digits.length)
  else if boundLimit ≤ decimalNumber digits then .error .oversizedBound
  else .ok (some (decimalNumber digits))

/-- The bounds of a repetition in braces; none if the brace stands for itself. -/
def bounds : Reader (Option (Nat × Option Nat)) := do
  let here ← get
  if here.rest.head? == some (.plain '}') then return none
  let low ← takeWhile Char.isDigit here.rest.length
  let comma ← accept (.plain ',')
  let high ← if comma then takeWhile Char.isDigit here.rest.length else pure low
  if !(← accept (.plain '}')) then
    set here
    return none
  let least := (← bound? low).getD 0
  let most ← bound? high
  match most with
  | some most => if most < least then throw .badRepeatBounds
  | none => pure ()
  return some (least, most)

/-- Settings for a part of an expression. -/
def Flags.set? (flags : Flags) (value : Bool) : Char → Option Flags
  | 'i' => some { flags with ignoreCase := value }
  | 'm' => some { flags with multiline := value }
  | 's' => some { flags with dotAll := value }
  | 'x' => some { flags with verbose := value }
  | 't' => some { flags with template := value }
  | 'a' => if value then some { flags with ascii := true, unicode := false } else none
  | 'u' => if value then some { flags with ascii := false, unicode := true } else none
  | _ => none

/-- Applies the letters of a group of flags. -/
def setFlags (value : Bool) (letters : List Char) (flags : Flags) : Reader Flags :=
  letters.foldlM (fun flags c =>
    match flags.set? value c with
    | some flags => return flags
    | none => throw .badFlags) flags

/-- How flags at the start of a group apply. -/
inductive FlagScope where
  | whole
  | part

/-- Reads flag letters after the question mark of a group. -/
def groupFlags (first : Char) : Reader (Flags × FlagScope) := do
  let flags := (← get).flags
  let on ← if first == '-' then pure [] else do
    pure (first :: (← takeWhile Char.isAlpha (← remaining)))
  if on.contains 'a' && on.contains 'u' then throw .badFlags
  let raised ← setFlags true on flags
  let next ← if first == '-' then pure (some (.plain '-')) else take
  match next with
  | some (.plain ')') => return (raised, .whole)
  | some (.plain ':') =>
      if on.contains 't' then throw .badFlags
      return (raised, .part)
  | some (.plain '-') =>
      let off ← takeWhile Char.isAlpha (← remaining)
      if off.isEmpty || off.any on.contains || (on ++ off).contains 't' then throw .badFlags
      let lowered ← setFlags false off raised
      if ← accept (.plain ':') then return (lowered, .part) else throw .badFlags
  | _ => throw .badFlags

/-- What can be said about the piece before a repetition sign. -/
inductive PieceKind where
  | place
  | repeated
  | other
  deriving DecidableEq

/-- Pieces read so far, last first. -/
abbrev Pieces := List (Regex × PieceKind)

def Pieces.regex (pieces : Pieces) : Regex := all (pieces.reverse.map (·.1))

/-- Repeats the last piece. -/
def Pieces.times (pieces : Pieces) (least : Nat) (most : Option Nat) : Reader Pieces := do
  match pieces with
  | [] => throw .nothingToRepeat
  | (_, .place) :: _ => throw .nothingToRepeat
  | (_, .repeated) :: _ => throw .doubleRepeat
  | (body, .other) :: earlier =>
      if ← accept (.plain '?') then
        return (Regex.times .lazy least most body, .repeated) :: earlier
      if ← accept (.plain '+') then
        return (Regex.times .possessive least most body, .repeated) :: earlier
      return (Regex.times .greedy least most body, .repeated) :: earlier

/-- Skips the rest of a comment up to a mark. -/
def skipPast (mark : Char) : (fuel : Nat) → Reader Bool
  | 0 => return false
  | fuel + 1 => do
      match ← take with
      | none => return false
      | some token => if token == .plain mark then return true else skipPast mark fuel

def close : Reader Unit := do
  if !(← accept (.plain ')')) then throw .unbalancedGroup

/-- Opens a group with a number of its own. -/
def openGroup (name : Option String) : Reader Nat := do
  let progress ← get
  let index := progress.opened + 1
  let names ← match name with
    | none => pure progress.names
    | some name =>
        if (progress.names.lookup name).isSome then throw .badGroupName
        pure ((name, index) :: progress.names)
  set { progress with opened := index, names := names }
  return index

/-- The least number that no group may have. -/
def groupLimit : Nat := 0x3FFFFFFF

/-- The group that a condition refers to, by its name or its number. -/
def condition (name : String) : Reader Nat := do
  let progress ← get
  let index ← match progress.names.lookup name, Number.readInt? name with
    | some index, _ => pure index
    | none, none => throw .badGroupReference
    | none, some number => do
        if number < 1 || groupLimit ≤ number.toNat then throw .badGroupReference
        modify fun progress =>
          { progress with conditions := number.toNat :: progress.conditions }
        pure number.toNat
  match progress.outside with
  | some outside =>
      if (progress.closed.lookup index).isNone || outside < index then throw .badGroupReference
  | none => pure ()
  return index

mutual

/-- Alternatives up to a closing parenthesis or the end. -/
def alternatives : (fuel : Nat) → (top : Bool) → Reader Regex
  | 0, _ => throw .unbalancedGroup
  | fuel + 1, top => do
      let first ← sequence fuel top []
      if ← accept (.plain '|') then return alt first (← otherAlternatives fuel)
      else return first

def otherAlternatives : (fuel : Nat) → Reader Regex
  | 0 => throw .unbalancedGroup
  | fuel + 1 => do
      let first ← sequence fuel false []
      if ← accept (.plain '|') then return alt first (← otherAlternatives fuel)
      else return first

/-- Pieces up to a bar, a closing parenthesis or the end; flags for the whole expression may
stand where `top` holds and nothing was read. -/
def sequence : (fuel : Nat) → (top : Bool) → Pieces → Reader Regex
  | 0, _, _ => throw .unbalancedGroup
  | fuel + 1, top, pieces => do
      match ← peek with
      | none => return pieces.regex
      | some (.plain '|') => return pieces.regex
      | some (.plain ')') => return pieces.regex
      | some token =>
          let _ ← take
          let flags := (← get).flags
          match token with
          | .dangling => throw .badEscape
          | .escaped c =>
              let (piece, place) ← escape c
              sequence fuel top ((piece, if place then .place else .other) :: pieces)
          | .plain c =>
              if flags.verbose && [' ', '\t', '\n', '\r', '\x0b', '\x0c'].contains c then
                sequence fuel top pieces
              else if flags.verbose && c == '#' then
                let _ ← skipPast '\n' (← remaining)
                sequence fuel top pieces
              else match c with
                | '[' => sequence fuel top ((← charSet, .other) :: pieces)
                | '.' => sequence fuel top ((any flags.dotAll, .other) :: pieces)
                | '^' =>
                    let place := if flags.multiline then Anchor.lineStart else .textStart
                    sequence fuel top ((anchor place, .place) :: pieces)
                | '$' =>
                    let place := if flags.multiline then Anchor.lineEnd else .lastLineEnd
                    sequence fuel top ((anchor place, .place) :: pieces)
                | '?' => sequence fuel top (← pieces.times 0 (some 1))
                | '*' => sequence fuel top (← pieces.times 0 none)
                | '+' => sequence fuel top (← pieces.times 1 none)
                | '{' =>
                    match ← bounds with
                    | none => sequence fuel top ((char '{' flags.folding, .other) :: pieces)
                    | some (least, most) => sequence fuel top (← pieces.times least most)
                | '(' =>
                    match ← parenthesis fuel (top && pieces.isEmpty) with
                    | none => sequence fuel top pieces
                    | some piece => sequence fuel top ((piece, .other) :: pieces)
                | c => sequence fuel top ((char c flags.folding, .other) :: pieces)

/-- A group whose opening parenthesis is behind; comments and flags leave nothing. -/
def parenthesis : (fuel : Nat) → (top : Bool) → Reader (Option Regex)
  | 0, _ => throw .unbalancedGroup
  | fuel + 1, top => do
      if !(← accept (.plain '?')) then return some (← numbered fuel none)
      match ← take with
      | some (.plain 'P') =>
          match ← take with
          | some (.plain '<') =>
              let label ← name '>'
              checkIdentifier label
              return some (← numbered fuel (some label))
          | some (.plain '=') =>
              let label ← name ')'
              match (← get).names.lookup label with
              | none => throw .badGroupReference
              | some index => return some (← reference index)
          | _ => throw .unknownExtension
      | some (.plain ':') => return some (← inner fuel (← get).flags)
      | some (.plain '#') =>
          if ← skipPast ')' (← remaining) then return none else throw .unbalancedGroup
      | some (.plain '=') => return some (ahead false (← inner fuel (← get).flags))
      | some (.plain '!') => return some (ahead true (← inner fuel (← get).flags))
      | some (.plain '<') =>
          match ← take with
          | some (.plain '=') => return some (← lookbehind fuel false)
          | some (.plain '!') => return some (← lookbehind fuel true)
          | _ => throw .unknownExtension
      | some (.plain '(') =>
          let index ← condition (← name ')')
          enter
          let matched ← sequence fuel false []
          let unmatched ← if ← accept (.plain '|') then sequence fuel false [] else pure empty
          close
          leave
          return some (given index matched unmatched)
      | some (.plain '>') => return some (atomic (← inner fuel (← get).flags))
      | some (.plain c) =>
          if !(c.isAlpha || c == '-') then throw .unknownExtension
          let (flags, scope) ← groupFlags c
          match scope with
          | .whole =>
              if !top then throw .badFlags
              modify fun progress =>
                { progress with
                  flags
                  mixed := progress.mixed || (progress.flags.ascii && flags.unicode) ||
                    (progress.flags.unicode && flags.ascii) }
              return none
          | .part => return some (← inner fuel flags)
      | _ => throw .unknownExtension

/-- The inside of a group, read under its own flags. -/
def inner : (fuel : Nat) → Flags → Reader Regex
  | 0, _ => throw .unbalancedGroup
  | fuel + 1, flags => do
      let outer := (← get).flags
      enter
      modify fun progress => { progress with flags := flags }
      let body ← alternatives fuel false
      close
      leave
      modify fun progress => { progress with flags := outer }
      return body

def numbered : (fuel : Nat) → Option String → Reader Regex
  | 0, _ => throw .unbalancedGroup
  | fuel + 1, label => do
      let index ← openGroup label
      let body ← inner fuel (← get).flags
      modify fun progress =>
        { progress with closed := (index, body.width progress.closed) :: progress.closed }
      return group index body

def lookbehind : (fuel : Nat) → (negated : Bool) → Reader Regex
  | 0, _ => throw .unbalancedGroup
  | fuel + 1, negated => do
      let outside := (← get).outside
      modify fun progress =>
        { progress with outside := some (outside.getD progress.opened) }
      let body ← inner fuel (← get).flags
      modify fun progress => { progress with outside := outside }
      let width := body.width (← get).closed
      -- Only what is read as a whole is refused for that.
      modify fun progress =>
        { progress with unbounded := progress.unbounded || !width.isFixed }
      return behind negated width.least body

end

/-- Whether a part of the expression is repeated. -/
def repeats : Regex → Bool
  | empty | char _ _ | member _ _ | any _ | anchor _ | back _ _ => false
  | times _ _ _ _ => true
  | seq first second | alt first second | given _ first second => first.repeats || second.repeats
  | group _ body | ahead _ body | behind _ _ body | atomic body => body.repeats

/-- The levels of groups that are read whatever else is under way. -/
def mostLevels : Nat := 300

/-- Reads a whole expression. -/
def parse (flags : Flags) (source : String) : Except Fault Regex := do
  let pieces := tokens source.toList
  if pieces.head? == some .dangling then throw .badEscape
  let reader := alternatives (8 * pieces.length + 8) true
  let (regex, progress) ← reader.run { rest := pieces, flags, levels := mostLevels }
  if progress.mixed then throw .mixedAlphabets
  if !progress.rest.isEmpty then throw .unbalancedGroup
  if progress.conditions.any (progress.opened < ·) then throw .badGroupReference
  if progress.unbounded then throw .unboundedLookbehind
  if progress.flags.template && regex.repeats then throw .repeatedTemplate
  return regex

/-- Reads an expression that ignores letter case. -/
def parseCaseless (source : String) : Except Fault Regex := parse { ignoreCase := true } source

end PlainScript.Regex
