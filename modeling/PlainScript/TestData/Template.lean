/-
Test data to begin with: demonstration data, and templates to fill in.
-/

import PlainScript.TestData.Basic

namespace PlainScript.TestData

/-- The fields of the demonstration data. -/
def usualFields : List String :=
  ["username", "password", "email", "name", "phone", "address", "city", "zip", "country", "state"]

def usualValue (field : String) : String :=
  if field == "email" then "your_email@example.com" else "your_" ++ field ++ "_here"

/-- Demonstration data for an address. -/
def demonstration (baseUrl : String) : TestData where
  baseUrl
  sets := [
    { name := "valid_user_data"
      description := "Valid user credentials and information"
      entries := usualFields.map fun field => ("test_" ++ field, usualValue field) },
    { name := "invalid_user_data"
      description := "Invalid user credentials for negative testing"
      entries := [
        ("invalid_username", "invalid_user"),
        ("invalid_password", "wrong_password"),
        ("invalid_email", "invalid.email"),
        ("invalid_phone", "123"),
        ("invalid_zip", "00000")]
      isValid := false }]
  globals := [("base_url", baseUrl)]

/-- The characters that the key of a field keeps. -/
def isKeyChar (c : Char) : Bool := c.isLower || c.isDigit

/-- A field as part of a key: in small letters, with underscores for all other characters. -/
def keyPart (field : String) : String :=
  .ofList ((Text.lower field).toList.map fun c => if isKeyChar c then c else '_')

/-- A placeholder that asks for a value. -/
def request (words field : String) : String :=
  .ofList (['{', '{'] ++ words.toList ++ (Text.upper field).toList ++ ['}', '}'])

/-- Entries that ask for the values of fields; fields of one key share an entry. -/
def requests (start words : String) (fields : List String) : List (String × String) :=
  (fields.map keyPart).foldl
    (fun entries field => putText entries (start ++ field) (request words field)) []

/-- A template with a valid and an invalid value for each field. -/
def template (fields : List String) : TestData where
  baseUrl := request "REPLACE_WITH_YOUR_BASE_URL" ""
  sets := [
    { name := "valid_data"
      description := "Valid test data"
      entries := requests "test_" "REPLACE_WITH_YOUR_" fields },
    { name := "invalid_data"
      description := "Invalid test data for negative testing"
      entries := requests "invalid_" "REPLACE_WITH_INVALID_" fields
      isValid := false }]

end PlainScript.TestData
