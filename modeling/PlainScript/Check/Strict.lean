/-
The strict check: generated code holds every known value and nothing that strict mode forbids.
It is a scan of the code's statements; comment lines and the titles taken from the instruction
do not count, and protected pieces are blanked out, so that the search passes them over.
-/

import PlainScript.Instruction.Lock
import PlainScript.Instruction.Values
import PlainScript.Literal.Quoted
import PlainScript.Locator.Basic
import PlainScript.TestCase.Marker
import PlainScript.TestCase.Name
import PlainScript.Text.Search
import PlainScript.Value.Basic

namespace PlainScript.Masking

def blanked (piece : List Char) : List Char := List.replicate piece.length ' '

/-- Blanks out every occurrence of one piece. -/
def maskOne (text piece : List Char) : List Char := Chars.replace piece (blanked piece) text

/-- The pieces once each and without the empty one, longer ones first. -/
def longestFirst (pieces : List (List Char)) : List (List Char) :=
  Order.sort (fun first second => second.length ≤ first.length)
    (pieces.filter (!·.isEmpty)).eraseDups

/-- Blanks out the pieces one after another, longer ones first. -/
def maskChars (text : List Char) (pieces : List (List Char)) : List Char :=
  (longestFirst pieces).foldl maskOne text

def mask (text : String) (pieces : List String) : String :=
  .ofList (maskChars text.toList (pieces.map String.toList))

end PlainScript.Masking

namespace PlainScript

/-- Something that the code should not have, or should have and has not. -/
inductive Deviation where
  | missingValue (label value : String)
  | unauthorized (token : String)
  | placeholder (word : String)
  | localhost
  | genericError
  | genericInput
  deriving DecidableEq, Repr

def Deviation.reason : Deviation → String
  | missingValue label value => label ++ " \"" ++ value ++ "\" not found in generated code"
  | unauthorized token => "Unauthorized addition \"" ++ token ++ "\" found in code"
  | placeholder word => "Value replaced with placeholder \"" ++ word ++ "\""
  | localhost => "URL replaced with localhost"
  | genericError => "Selector replaced with generic #error"
  | genericInput => "Selector replaced with generic input selector"

def Deviation.message (deviation : Deviation) : String :=
  "DEVIATION DETECTED: " ++ deviation.reason

/-- Something that was never filled in. -/
inductive Gap where
  | marker (text : String)
  | unresolvedSelector
  | lock (type : LockType) (key : String)
  deriving DecidableEq, Repr

def Gap.reason : Gap → String
  | marker text => text
  | unresolvedSelector => Unresolved.tag ++ " found in generated code"
  | lock type key => type.name ++ " \"" ++ key ++ "\" is not properly specified"

def Gap.message (gap : Gap) : String := "INCOMPLETE: " ++ gap.reason

structure Verdict where
  gaps : List Gap
  deviations : List Deviation
  deriving DecidableEq, Repr

namespace Verdict

def isValid (verdict : Verdict) : Bool := verdict.gaps.isEmpty && verdict.deviations.isEmpty

def merge (first second : Verdict) : Verdict :=
  ⟨first.gaps ++ second.gaps, first.deviations ++ second.deviations⟩

def errors (verdict : Verdict) : List String := verdict.gaps.map Gap.message

def deviationTexts (verdict : Verdict) : List String := verdict.deviations.map Deviation.message

end Verdict

namespace Strict

/-- Calls that wait, retry or move by themselves. -/
def forbidden : List String := [
  "waitForTimeout", "waitForSelector", "wait_for_timeout", "wait_for_selector", "retry",
  "try \x7b", "catch (", "try:", "except ", ".reload()", ".goBack()", ".goForward()",
  ".go_back()", ".go_forward()", ".refresh()"]

/-- Invented credentials. -/
def placeholders : List String := ["testuser", "password123"]

/-- A comment line begins, blanks apart, with a comment mark of one of the languages. -/
def isComment (line : List Char) : Bool :=
  let text := Chars.trimLeft line
  ['/', '/'].isPrefixOf text || ['#'].isPrefixOf text

/-- The lines of the code that are no comments. -/
def statements (code : String) : String :=
  .ofList (['\n'].intercalate ((Chars.lines code.toList).filter fun line => !isComment line))

/-- A text bare and as a literal of either kind. -/
def spellings (text : String) : List String :=
  [text, Literal.quote text, Literal.quoteDouble text]

/-- Literals that rendering derives from the instruction: test names and titles. -/
def titles (instruction : String) : List String :=
  let names := [instruction, Lock.strip instruction].flatMap fun text =>
    [Name.derive text, Name.camel (Name.derive text)]
  (Text.oneLine instruction :: names).flatMap spellings

/-- The code that counts: statements without the titles. -/
def body (instruction code : String) : String :=
  Masking.mask (statements code) (titles instruction)

def missing (body : String) (values : List (String × String)) : List Deviation :=
  (values.filter fun value => !Text.contains body value.2).map fun (label, value) =>
    .missingValue label value

def additions (scanned : String) : List Deviation :=
  (forbidden.filter (Text.contains scanned)).map .unauthorized ++
    (placeholders.filter (Text.contains scanned)).map .placeholder

/-- The markers in the code, each once and in the order of their texts, and unresolved
selectors. -/
def gaps (code : String) : List Gap :=
  ((Order.sort (fun first second => first ≤ second) (Marker.findAll code).eraseDups).map .marker) ++
    if Text.contains code Unresolved.tag then [.unresolvedSelector] else []

/-- Checks code against labelled values. Forbidden words count only outside the values and the
context, which holds addresses that the code may contain. -/
def check (instruction code : String) (values : List (String × String))
    (context : List String) : Verdict :=
  let body := body instruction code
  let scanned := Masking.mask body (values.map (·.2) ++ context)
  ⟨gaps code, missing body values ++ additions scanned⟩

/-- The values that locks put into code; an assertion type picks a matcher and is no literal. -/
def lockValues (locks : List Lock) : List (String × String) :=
  (locks.filter fun lock =>
    lock.isLocked && !lock.value.isEmpty && lock.type != .assertionType).map fun lock =>
      ("locked " ++ lock.type.name, lock.value)

/-- The replacements that a lock of its type is prone to. -/
def replacements (code : String) (lock : Lock) : List Deviation :=
  if !lock.isLocked || lock.value.isEmpty then []
  else match lock.type with
    | .url =>
        if Text.contains code "localhost" && !Text.contains lock.value "localhost" then
          [.localhost]
        else []
    | .selector =>
        (if Text.contains code "#error" && lock.value != "#error" then [.genericError] else []) ++
          if Text.contains code "input[type=\"text\"]" &&
              !Text.contains lock.value "input[type=\"text\"]" then [.genericInput] else []
    | _ => []

/-- Checks every lock on its own. -/
def checkLocks (locks : List Lock) (instruction code : String) (context : List String) :
    Verdict :=
  ⟨[], (check instruction code (lockValues locks) context).deviations ++
    locks.flatMap (replacements code)⟩

/-- Locks without a value, or with one that is still a placeholder. -/
def incomplete (locks : List Lock) : Verdict :=
  ⟨(locks.filter fun lock =>
      lock.isLocked && (lock.value.isEmpty || Text.contains lock.value "<" ||
        Text.contains lock.value "TODO")).map fun lock => .lock lock.type lock.key, []⟩

/-- Both checks of the locks. -/
def final (instruction code : String) (locks : List Lock) (context : List String) : Verdict :=
  (incomplete locks).merge (checkLocks locks instruction code context)

/-- The check of generated code by values and by locks. -/
def verdict (text code : String) (values : List (String × String)) (locks : List Lock)
    (context : List String) : Verdict :=
  let byValues := check text code values context
  if locks.isEmpty then byValues else byValues.merge (checkLocks locks text code context)

end Strict

def Verdict.document (verdict : Verdict) : Value :=
  .ofFields [
    ("isValid", .bool verdict.isValid),
    ("errors", .texts verdict.errors),
    ("deviations", .texts verdict.deviationTexts)]

end PlainScript
