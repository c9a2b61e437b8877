/-
The resolver that settings and options ask for.
-/

import PlainScript.Resolver.Resolve
import PlainScript.Settings.Basic
import PlainScript.TestData.Document
import PlainScript.TestData.Placeholder

namespace PlainScript

/-- Why there are no tables in a file. -/
inductive Resolver.Tables.FileFault where
  | unreadable (fault : File.Fault)
  | malformed (fault : Yaml.Fault)
  | noMapping (path : String)
  | unfit (fault : Resolver.Tables.Fault)
  deriving DecidableEq, Repr

namespace Resolver.Tables

def FileFault.severity : FileFault → Severity
  | .unreadable fault => .reported fault.message
  | .malformed fault => fault.severity
  | .noMapping path => .reported (path ++ ": expected a mapping at the top level")
  | .unfit fault => fault.severity

/-- The tables in a file; an empty one changes nothing. -/
def load (directory : Directory) (path : String) : Except FileFault Tables := do
  let content ← (directory.readText path).mapError .unreadable
  let document ← (Yaml.read content).mapError .malformed
  match document with
  | .record entries => (ofDocument (.record entries)).mapError .unfit
  | document => if document.isPresent then .error (.noMapping path) else return {}

end Resolver.Tables

/-- What a resolver is to be set up with; what is left out is as in the settings. -/
structure ResolverOptions where
  strictness : Option Strictness := none
  tables : Option String := none
  data : Option TestData := none
  pages : Option String := none

namespace Settings

/-- Why a resolver cannot be set up. -/
inductive ResolverFault where
  | catalog (fault : Catalog.Fault)
  | tables (fault : Resolver.Tables.FileFault)
  | strictness (name : String)
  deriving DecidableEq, Repr

def ResolverFault.severity : ResolverFault → Severity
  | .catalog fault => fault.severity
  | .tables fault => fault.severity
  | .strictness name => .reported (Text.display name ++ " is not a valid Strictness")

/-- The tables that the options name, or the usual ones. -/
def tables (directory : Directory) (options : ResolverOptions) :
    Except ResolverFault Resolver.Tables :=
  match filled options.tables with
  | some path => (Resolver.Tables.load directory path).mapError .tables
  | none => .ok {}

/-- The strictness that the options ask for, or that of the settings. -/
def strictnessOf (settings : Settings) (options : ResolverOptions) :
    Except ResolverFault Strictness :=
  match options.strictness with
  | some strictness => .ok strictness
  | none =>
      match Strictness.ofName? settings.strictness with
      | some strictness => .ok strictness
      | none => .error (.strictness settings.strictness)

/-- The catalog that the options name. -/
def catalog (directory : Directory) (options : ResolverOptions) :
    Except ResolverFault (Option Catalog × List Catalog.Notice) :=
  match filled options.pages with
  | some folder =>
      ((Catalog.load directory folder).mapError .catalog).map fun (catalog, notices) =>
        (some catalog, notices)
  | none => .ok (none, [])

/-- The resolver with a catalog that has been loaded. -/
def resolver (settings : Settings) (directory : Directory) (options : ResolverOptions)
    (catalog : Option Catalog) : Except ResolverFault Resolver := do
  let tables ← tables directory options
  let strictness ← settings.strictnessOf options
  let testData := (options.data.map fun data => data.credentials .valid).getD []
  return { tables, strictness, testData, catalog }

end Settings

end PlainScript
