/-
The tables of keywords by which an instruction is resolved. Of the rules of a table the first one
that matches counts.
-/

import PlainScript.Instruction.Vocabulary
import PlainScript.Regex.Parser
import PlainScript.Value.Display

namespace PlainScript

namespace Resolver

open Regex Vocabulary

/-- A regular expression, or why its notation is none; that shows when the cue is looked for. -/
abbrev Cue := Except Regex.Fault Regex

def Cue.read (source : String) : Cue := Regex.parseCaseless source

def Cue.occursIn (cue : Cue) (text : String) : Except Regex.Fault Bool :=
  cue.map fun regex => regex.occursIn text

structure Rule where
  cue : Cue
  result : String

/-- The result of the first rule whose cue occurs. -/
def lookup : List Rule → String → Except Regex.Fault (Option String)
  | [], _ => .ok none
  | rule :: rules, text => do
      if ← rule.cue.occursIn text then return some rule.result
      else lookup rules text

/-- Whole words. -/
def wholly (words : List Regex) : Regex := all [wordEdge, choice words, wordEdge]

/-- Two words, together or with blanks between them. -/
def close (first second : String) : Regex :=
  all [caseless first, many blank, caseless second]

def login : Regex :=
  wholly [caseless "login", close "log" "in", close "sign" "in", caseless "signin"]

def dashboard : Regex := wholly [caseless "dashboard"]

/-- The tables, and the cues of single decisions. -/
structure Tables where
  paths : List Rule := [
    ⟨.ok login, "/login"⟩,
    ⟨.ok (wholly [caseless "register", caseless "registration", close "sign" "up",
      caseless "signup"]), "/register"⟩,
    ⟨.ok dashboard, "/dashboard"⟩,
    ⟨.ok (wholly [caseless "profile"]), "/profile"⟩,
    ⟨.ok (wholly [caseless "settings"]), "/settings"⟩]
  buttons : List Rule := [
    ⟨.ok login, "Login"⟩,
    ⟨.ok (wholly [caseless "submit", caseless "send"]), "Submit"⟩,
    ⟨.ok (wholly [caseless "register", close "sign" "up", caseless "signup"]), "Register"⟩,
    ⟨.ok (wholly [caseless "save", caseless "update"]), "Save"⟩,
    ⟨.ok (wholly [caseless "cancel", caseless "close"]), "Cancel"⟩]
  dashboardCue : Cue := .ok dashboard
  errorCue : Cue := .ok (wholly [
    caseless "error", caseless "wrong", caseless "invalid", caseless "incorrect",
    seq (caseless "fail") (maybe (choice [caseless "s", caseless "ed", caseless "ure"])),
    caseless "denied"])
  successCue : Cue := .ok (wholly [
    caseless "success", caseless "successful", caseless "successfully",
    seq (caseless "succeed") (maybe (caseless "s")), caseless "succeeded", caseless "welcome"])
  credentialsCue : Cue := .ok (choice [
    login,
    wholly [caseless "username", close "user" "name", caseless "password",
      caseless "credentials"]])

namespace Tables

/-- Why a table cannot be read. -/
inductive Fault where
  | noRules
  | noPair
  | fieldMissing (name : String)
  | tooFew (count : Nat)
  | tooMany
  | untold (cause : Number.Unwritable)
  deriving DecidableEq, Repr

def Fault.severity : Fault → Severity
  | tooFew count =>
      .reported ("not enough values to unpack (expected 2, got " ++ toString count ++ ")")
  | tooMany => .reported "too many values to unpack (expected 2)"
  | noRules | noPair | fieldMissing _ => .breaking
  | untold cause => cause.severity

def tell (value : Value) : Except Fault String := value.tell.mapError .untold

def readField (item : Value) (name : String) : Except Fault String :=
  match item.field? name with
  | some value => tell value
  | none => .error (.fieldMissing name)

/-- A rule is a record of a pattern and a result, or the two of them in order. -/
def readRule (item : Value) : Except Fault Rule :=
  match item with
  | .record _ => do
      let pattern ← readField item "pattern"
      let result ← readField item "result"
      return ⟨Cue.read pattern, result⟩
  | _ =>
      match item.members? with
      | none => .error .noPair
      | some [pattern, result] => do
          let pattern ← tell pattern
          let result ← tell result
          return ⟨Cue.read pattern, result⟩
      | some [] => .error (.tooFew 0)
      | some [_] => .error (.tooFew 1)
      | some _ => .error .tooMany

def readRules (value : Value) : Except Fault (List Rule) :=
  match value.members? with
  | some items => items.mapM readRule
  | none => .error .noRules

/-- The rules of a field, or the usual ones. -/
def rulesOr (usual : List Rule) (document : Value) (name : String) :
    Except Fault (List Rule) :=
  match document.field? name with
  | some value => readRules value
  | none => .ok usual

def cueOr (usual : Cue) (document : Value) (name : String) : Except Fault Cue :=
  match document.field? name with
  | some value => (tell value).map Cue.read
  | none => .ok usual

/-- The tables of a document; what it leaves out is as usual. -/
def ofDocument (document : Value) : Except Fault Tables := do
  let usual : Tables := {}
  let paths ← rulesOr usual.paths document "paths"
  let buttons ← rulesOr usual.buttons document "buttons"
  let dashboardCue ← cueOr usual.dashboardCue document "dashboard_cue"
  let errorCue ← cueOr usual.errorCue document "error_cue"
  let successCue ← cueOr usual.successCue document "success_cue"
  let credentialsCue ← cueOr usual.credentialsCue document "credentials_cue"
  return { paths, buttons, dashboardCue, errorCue, successCue, credentialsCue }

end Tables

end Resolver

end PlainScript
