/-
Test data as documents.
-/

import PlainScript.File.Directory
import PlainScript.Schema.Decoder
import PlainScript.TestData.Basic
import PlainScript.Yaml.Reader
import PlainScript.Yaml.Writer

namespace PlainScript

open Schema

namespace DataSet

def decode : Decoder DataSet :=
  model .memory "TestDataSet" fun document =>
    DataSet.mk <$>
      required ["name"] plainText document <*>
      possible ["description"] plainText document <*>
      defaulted ["data"] (mapping .memory) [] document <*>
      defaulted ["is_valid"] truth true document

/-- The document; a description that is missing is null. -/
def document (set : DataSet) : Value :=
  .ofFields [
    ("name", .text set.name),
    ("description", (set.description.map Value.text).getD .null),
    ("data", Value.ofTexts set.entries),
    ("is_valid", .bool set.isValid)]

end DataSet

namespace TestData

def decode : Decoder TestData :=
  model .memory "TestDataConfig" fun document =>
    TestData.mk <$>
      defaulted ["base_url"] plainText "" document <*>
      defaulted ["datasets"] (listOf .memory DataSet.decode) [] document <*>
      defaulted ["global_variables"] (mapping .memory) [] document

def document (data : TestData) : Value :=
  .ofFields [
    ("base_url", .text data.baseUrl),
    ("datasets", .list (data.sets.map DataSet.document)),
    ("global_variables", Value.ofTexts data.globals)]

def write (data : TestData) : String := Yaml.write data.document

/-- Why a file holds no test data. -/
inductive Fault where
  | unreadable (fault : File.Fault)
  | malformed (fault : Yaml.Fault)
  | noMapping (path : String)
  | invalid (faults : List Schema.Fault)
  deriving DecidableEq, Repr

def Fault.severity : Fault → Severity
  | unreadable fault => .reported fault.message
  | malformed fault => fault.severity
  | noMapping path => .reported (path ++ ": test data must be a mapping")
  | invalid faults => .reported (Schema.report faults)

/-- The test data of a document; nothing at all counts as an empty mapping. -/
def ofDocument (path : String) (document : Value) : Except Fault TestData :=
  let document := if document.isPresent then document else .record []
  match document with
  | .record entries => (decode (.record entries)).toExcept.mapError .invalid
  | _ => .error (.noMapping path)

/-- The test data in a file. -/
def load (directory : Directory) (path : String) : Except Fault TestData := do
  let content ← (directory.readText path).mapError .unreadable
  let document ← (Yaml.read content).mapError .malformed
  ofDocument path document

end TestData

end PlainScript
