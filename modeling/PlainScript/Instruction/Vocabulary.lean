/-
The phrases in which instructions give their values.
-/

import PlainScript.Instruction.Values
import PlainScript.Regex.Match

namespace PlainScript.Vocabulary

open Regex

/-- Words one or more blanks apart. -/
def phrase (words : List String) : Regex := all ((words.map caseless).intersperse blanks)

/-- A phrase that may be left out, with the blanks after it. -/
def leading (options : List Regex) : Regex := maybe (seq (choice options) blanks)

def lettersAndDigits : List SetItem := [.range 'A' 'Z', .range 'a' 'z', .range '0' '9']

def marks (chars : String) : List SetItem := chars.toList.map .one

/-- Characters of an unquoted value. -/
def valueChar : Regex := oneOf (lettersAndDigits ++ marks "_.@-")

/-- Characters of an unquoted password. -/
def secretChar : Regex := oneOf (lettersAndDigits ++ marks "_.@!-")

/-- An unquoted value, which never ends with a period. -/
def value : Regex :=
  group 1 (seq (many valueChar) (oneOf (lettersAndDigits ++ marks "_@-")))

/-- An unquoted password, which never ends with a period. -/
def secret : Regex :=
  group 1 (seq (many secretChar) (oneOf (lettersAndDigits ++ marks "_@!-")))

def quoteMark : Regex := oneOf (marks "'\"")

/-- A value between quotes of either kind. -/
def quoted : Regex := all [quoteMark, group 1 (many1 (noneOf (marks "'\""))), quoteMark]

def emailAddress : Regex :=
  group 1 (all [
    many1 (oneOf (lettersAndDigits ++ marks "._%+-")),
    caseless "@",
    many1 (oneOf (lettersAndDigits ++ marks ".-")),
    caseless ".",
    times .greedy 2 none (oneOf [.range 'A' 'Z', .range 'a' 'z'])])

/-- An address with its scheme, up to a blank or a quote and without a period or comma at its
end. -/
def webAddress : Regex :=
  let stops : List SetItem := .category .blank false false :: marks "'\""
  group 1 (all [
    caseless "http", maybe (caseless "s"), caseless "://",
    many (noneOf stops), noneOf (stops ++ marks ".,")])

def login : Regex :=
  choice [caseless "login", caseless "signin", phrase ["sign", "in"], phrase ["log", "in"]]

/-- The start of a login instruction. -/
def tryLogin : Regex := all [wordEdge, leading [phrase ["try", "to"]], login]

/-- A way to give a value; a verbatim one takes connective words for values too. -/
structure Alternative where
  pattern : Regex
  verbatim : Bool := false

/-- The user name of a pair of credentials. -/
def pairedUsername : Alternative where
  pattern := all [
    wordEdge, caseless "username", blanks, group 1 (many1 valueChar),
    ahead false (all [blanks, phrase ["and", "password"], blanks, secretChar])]
  verbatim := true

/-- The password of a pair of credentials. -/
def pairedPassword : Alternative where
  pattern := all [
    wordEdge, caseless "username", blanks, many1 valueChar, blanks,
    phrase ["and", "password"], blanks, group 1 (many1 secretChar)]
  verbatim := true

/-- A verb that sets a named field. -/
def setField (name : String) : Regex :=
  all [wordEdge, choice [caseless "set", caseless "use", caseless "enter"], blanks,
    leading [caseless "the"], caseless name, blanks, leading [caseless "to", caseless "as"]]

def usernames : List Alternative := [
  pairedUsername,
  { pattern := all [tryLogin, blanks, phrase ["with", "username"], blanks, value] },
  { pattern := all [tryLogin, blanks, phrase ["with", "user"], blanks, value] },
  { pattern := all [wordEdge, login, blanks, caseless "using", blanks, value] },
  { pattern := all [wordEdge, login, blanks, caseless "as", blanks, value] },
  { pattern := all [wordEdge, caseless "user", many blank, caseless "name", blanks,
      leading [caseless "is", caseless "of"], quoted] },
  { pattern := all [setField "username", value] },
  { pattern := all [wordEdge, caseless "username", blanks, value] },
  { pattern := all [wordEdge, caseless "user", blanks, value] },
  { pattern := all [wordEdge, caseless "with", blanks, value, blanks,
      phrase ["and", "password"], wordEdge] }]

def passwords : List Alternative := [
  pairedPassword,
  { pattern := all [wordEdge, phrase ["and", "password"], blanks, secret] },
  { pattern := all [wordEdge, phrase ["with", "password"], blanks, secret] },
  { pattern := all [wordEdge, caseless "password", blanks,
      leading [caseless "is", caseless "of"], quoted] },
  { pattern := all [setField "password", secret] },
  { pattern := all [wordEdge, caseless "password", blanks, secret] },
  { pattern := all [wordEdge, caseless "pass", blanks, secret] },
  { pattern := all [wordEdge, caseless "and", blanks, secret, many blank,
      maybe (oneOf (marks ",.")), many blank, anchor .lastLineEnd] }]

def emails : List Alternative := [
  { pattern := all [wordEdge, caseless "email", blanks, leading [caseless "address"],
      leading [caseless "is", caseless "of"], maybe quoteMark, emailAddress] },
  { pattern := all [wordEdge, phrase ["with", "email"], blanks, emailAddress] },
  { pattern := all [wordEdge, phrase ["using", "email"], blanks, emailAddress] }]

def urls : List Alternative := [
  { pattern := all [wordEdge,
      choice [phrase ["go", "to"], caseless "visit", phrase ["navigate", "to"], caseless "open",
        phrase ["login", "to"], phrase ["log", "in", "to"]],
      blanks, maybe quoteMark, webAddress] },
  { pattern := webAddress }]

def clickVerb : Regex :=
  choice [caseless "click", caseless "press", caseless "tap", caseless "hit"]

def buttons : List Alternative := [
  { pattern := all [wordEdge, clickVerb, blanks, leading [caseless "on"],
      leading [caseless "the"], quoted] }]

/-- What may stand between a verb of seeing and the quoted text. -/
def seen : Regex :=
  all [leading [caseless "the"], leading [caseless "text", caseless "message"], quoted]

def expectations : List Alternative := [
  { pattern := all [wordEdge, choice [caseless "expect", caseless "expecting"], blanks,
      leading [phrase ["to", "see"]], seen] },
  { pattern := all [wordEdge, caseless "should", blanks,
      choice [caseless "see", caseless "show", caseless "display"], blanks, seen] },
  { pattern := all [wordEdge,
      choice [seq (caseless "show") (maybe (caseless "s")),
        seq (caseless "display") (maybe (caseless "s")),
        seq (caseless "see") (maybe (caseless "s"))],
      blanks, seen] }]

def expectedUrls : List Alternative := [
  { pattern := all [wordEdge, choice [caseless "url", caseless "address"], blanks,
      choice [seq (caseless "contain") (maybe (caseless "s")),
        seq (caseless "include") (maybe (caseless "s"))],
      blanks, quoted] }]

/-- The ways to give each value, better ones first. -/
def alternatives : ValueField → List Alternative
  | .username => usernames
  | .password => passwords
  | .email => emails
  | .url => urls
  | .button => buttons
  | .expected => expectations
  | .expectedUrl => expectedUrls

/-- Connective words, which loose phrases may run into. -/
def reserved : List String := [
  "a", "an", "and", "as", "at", "button", "expect", "expecting", "field", "for",
  "in", "into", "is", "it", "of", "on", "or", "see", "should", "that", "the",
  "then", "to", "user", "username", "password", "email", "using", "with"]

end PlainScript.Vocabulary
