/-
Extraction of values: for each field the alternatives are tried in order, each from left to
right, and the first acceptable capture wins. Nothing is invented. Locks and values may also be read
from documents.
-/

import PlainScript.Instruction.Lock
import PlainScript.Instruction.Values
import PlainScript.Instruction.Vocabulary
import PlainScript.Regex.Parser
import PlainScript.Schema.Decoder

namespace PlainScript

open Vocabulary

/-- A captured value and where it stands. -/
structure Hit where
  value : String
  span : Regex.Span
  deriving DecidableEq, Repr

namespace Vocabulary.Alternative

/-- A capture is acceptable if it is not empty, is no connective word unless the alternative is
verbatim, and does not share characters with the claimed span. -/
def accept? (alternative : Alternative) (claimed : Option Regex.Span) (found : Regex.Match) :
    Option Hit := do
  let span ← found.group? 1
  let value := Chars.trim span.chars
  if span.chars.isEmpty then none
  else if !alternative.verbatim && reserved.contains (.ofList (Chars.lower value)) then none
  else if claimed.any span.overlaps then none
  else some ⟨.ofList value, span⟩

/-- The first acceptable capture of the alternative. -/
def hit? (alternative : Alternative) (text : String) (claimed : Option Regex.Span) :
    Option Hit :=
  (alternative.pattern.findAll text).findSome? (alternative.accept? claimed)

end Vocabulary.Alternative

/-- The highest number of a group. -/
def Regex.groupCount : Regex → Nat
  | .group index body => max index body.groupCount
  | .seq first second | .alt first second | .given _ first second =>
      max first.groupCount second.groupCount
  | .times _ _ _ body | .ahead _ body | .behind _ _ body | .atomic body => body.groupCount
  | _ => 0

namespace Extraction

def firstHit (alternatives : List Alternative) (text : String) (claimed : Option Regex.Span) :
    Option Hit :=
  alternatives.findSome? fun alternative => alternative.hit? text claimed

/-- A password never shares characters with the user name found before it. -/
def claimed (earlier : List (String × Hit)) (field : String) : Option Regex.Span :=
  if field == "password" then (earlier.lookup "username").map Hit.span else none

/-- The hits of named fields, in order. -/
def hitsFrom (text : String) (earlier : List (String × Hit)) :
    List (String × List Alternative) → List (String × Hit)
  | [] => earlier
  | (field, alternatives) :: rest =>
      match firstHit alternatives text (claimed earlier field) with
      | some hit => hitsFrom text (earlier ++ [(field, hit)]) rest
      | none => hitsFrom text earlier rest

def hits (fields : List (String × List Alternative)) (text : String) : List (String × Hit) :=
  hitsFrom text [] fields

def valuesOf (found : List (String × Hit)) : Values :=
  .ofFunction fun field => (found.lookup field.name).map Hit.value

/-- The fields with their usual alternatives. -/
def standard : List (String × List Alternative) :=
  ValueField.all.map fun field => (field.name, alternatives field)

/-- The values that an instruction spells out, its locks apart. -/
def extract (text : String) : Values := valuesOf (hits standard (Lock.strip text))

/-! Extraction with alternatives that are written as regular expressions. -/

/-- The notation of the two paired alternatives, which are verbatim unless said otherwise. -/
def pairedSources : List String := [
  "\\busername\\s+([A-Za-z0-9_.@-]+)(?=\\s+and\\s+password\\s+[A-Za-z0-9_.@!-])",
  "\\busername\\s+[A-Za-z0-9_.@-]+\\s+and\\s+password\\s+([A-Za-z0-9_.@!-]+)"]

def readAlternative (verbatim : List String) (source : String) :
    Except Regex.Fault Alternative :=
  (Regex.parseCaseless source).map fun pattern => ⟨pattern, verbatim.contains source⟩

def readFields (verbatim : List String) (fields : List (String × List String)) :
    Except Regex.Fault (List (String × List Alternative)) :=
  fields.mapM fun field => (field.2.mapM (readAlternative verbatim)).map fun read => (field.1, read)

/-- Whether an alternative without a group comes to match before any other one hits. -/
def missesGroup (alternatives : List Alternative) (text : String)
    (claimed : Option Regex.Span) : Bool :=
  (alternatives.takeWhile fun alternative => (alternative.hit? text claimed).isNone).any
    fun alternative => alternative.pattern.groupCount == 0 && alternative.pattern.occursIn text

/-- Whether extraction of the fields comes to a match without a group. -/
def missesAnyGroup (text : String) (earlier : List (String × Hit)) :
    List (String × List Alternative) → Bool
  | [] => false
  | (field, alternatives) :: rest =>
      let span := claimed earlier field
      missesGroup alternatives text span ||
        missesAnyGroup text
          (earlier ++ ((firstHit alternatives text span).toList.map fun hit => (field, hit))) rest

/-- Extraction with other alternatives; none if a match has no group to capture. -/
def extractWith (fields : List (String × List Alternative)) (text : String) : Option Values :=
  let plain := Lock.strip text
  if missesAnyGroup plain [] fields then none else some (valuesOf (hits fields plain))

end Extraction

open Schema

/-- All types in quotes, the last one after a word. -/
def LockType.choices : String := "'URL', 'SELECTOR', 'VALUE', 'ASSERTION_TEXT' or 'ASSERTION_TYPE'"

def LockType.decode : Decoder LockType
  | .text name =>
      match ofName? name with
      | some type => .valid type
      | none => .fault (.notAmong choices)
  | _ => .fault (.notAmong choices)

def Lock.decode : Decoder Lock :=
  model .memory "LockedValue" fun document =>
    Lock.mk <$>
      required ["type"] LockType.decode document <*>
      required ["key"] plainText document <*>
      required ["value"] plainText document <*>
      defaulted ["is_locked"] truth true document

def Values.decode : Decoder Values :=
  model .memory "ExtractedValues" fun document =>
    Values.mk <$>
      possible ["username"] plainText document <*>
      possible ["password"] plainText document <*>
      possible ["email"] plainText document <*>
      possible ["url"] plainText document <*>
      possible ["button"] plainText document <*>
      possible ["expected"] plainText document <*>
      possible ["expected_url"] plainText document

end PlainScript
