/-
The coarse actions that an instruction asks for.
-/

import PlainScript.Instruction.Vocabulary

namespace PlainScript

open Regex Vocabulary

inductive Request where
  | navigate (target : String)
  | login (username : String) (password : Option String)
  | click (target : String)
  | check (assertion : String)
  deriving DecidableEq, Repr

namespace Request

/-- What ends an object: a connective or the end of the text. -/
def objectEnd : Regex :=
  choice [seq blanks (caseless "and"), seq blanks (caseless "then"), anchor .lastLineEnd]

/-- Some text, as short as can be, up to its end. -/
def object : Regex := seq (group 1 shortest) objectEnd

def navigation : Regex :=
  all [choice [caseless "go to", caseless "navigate to", caseless "visit", caseless "open"],
    blanks, object]

def loginRequest : Regex :=
  let credential := many1 (oneOf (lettersAndDigits ++ marks "_@.-"))
  all [leading [phrase ["try", "to"]],
    choice [caseless "login", caseless "signin", phrase ["log", "in"]],
    blanks, phrase ["with", "username"], blanks, group 1 credential,
    maybe (all [blanks, phrase ["and", "password"], blanks, group 2 credential])]

def clicking : Regex :=
  all [choice [caseless "click", caseless "press", caseless "tap"], blanks,
    leading [caseless "on"], leading [caseless "the"], object]

def expecting : Regex :=
  all [choice [caseless "expect", phrase ["should", "see"],
      seq (caseless "show") (maybe (caseless "s")),
      seq (caseless "display") (maybe (caseless "s"))],
    blanks, object]

/-- The trimmed first group of the first match. -/
def found? (pattern : Regex) (text : String) : Option String :=
  (pattern.search text).bind fun found => (found.text? 1).map Text.trim

def login? (text : String) : Option Request :=
  (loginRequest.search text).bind fun found =>
    (found.text? 1).map fun username => .login username (found.text? 2)

/-- At most one request of each kind. -/
def ofText (text : String) : List Request :=
  ((found? navigation text).map navigate).toList ++ (login? text).toList ++
    ((found? clicking text).map click).toList ++ ((found? expecting text).map check).toList

end Request

end PlainScript
