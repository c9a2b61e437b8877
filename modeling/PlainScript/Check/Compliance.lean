/-
Compliance: code does what the instruction asks for, as far as its calls show.
-/

import PlainScript.Instruction.Extraction
import PlainScript.Instruction.Request
import PlainScript.Text.Search
import PlainScript.Value.Basic

namespace PlainScript

/-- A kind of call that the code lacks. -/
inductive Requirement where
  | navigation
  | filling
  | clicking
  | assertion
  deriving DecidableEq, Repr

namespace Requirement

def message : Requirement → String
  | navigation => "Missing navigation step"
  | filling => "Missing form filling steps"
  | clicking => "Missing click action"
  | assertion => "Missing assertion step"

/-- The calls, in any framework, that meet the requirement. -/
def calls : Requirement → List String
  | navigation => ["page.goto", "cy.visit", "driver.get"]
  | filling => [".fill(", ".type(", "send_keys", "sendKeys"]
  | clicking => ["click"]
  | assertion => ["expect", "assert", ".should("]

def isMet (requirement : Requirement) (code : String) : Bool :=
  requirement.calls.any (Text.contains code)

end Requirement

def Request.requirement : Request → Requirement
  | .navigate _ => .navigation
  | .login _ _ => .filling
  | .click _ => .clicking
  | .check _ => .assertion

structure Compliance where
  deviations : List String
  credentials : List (String × String)
  missing : List Requirement
  deriving DecidableEq, Repr

namespace Compliance

def isValid (result : Compliance) : Bool := result.deviations.isEmpty && result.missing.isEmpty

/-- The credentials that the instruction spells out. -/
def credentialsOf (values : Values) : List (String × String) :=
  values.toList.filter fun value => value.1 == "username" || value.1 == "password"

/-- Credentials that a login request needs and the code lacks. -/
def absent (credentials : List (String × String)) (code : String) : List String :=
  (credentials.filter fun credential => !Text.contains code credential.2).map
    fun (field, value) =>
      Text.capitalize field ++ " \"" ++ value ++ "\" not found in generated code"

def check (instruction code : String) : Compliance :=
  let requests := Request.ofText instruction
  let credentials := credentialsOf (Extraction.extract instruction)
  let isLogin : Request → Bool
    | .login _ _ => true
    | _ => false
  ⟨if requests.any isLogin then absent credentials code else [],
    credentials,
    (requests.map Request.requirement).filter fun requirement => !requirement.isMet code⟩

end Compliance

def Compliance.document (result : Compliance) : Value :=
  .ofFields [
    ("is_valid", .bool result.isValid),
    ("deviations", .texts result.deviations),
    ("extracted_values", .ofTexts result.credentials),
    ("missing_requirements", .texts (result.missing.map Requirement.message))]

end PlainScript
