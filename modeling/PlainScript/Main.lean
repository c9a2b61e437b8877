/-
The command line. It loads the files that a command names, runs the command, and writes what has
changed. No browser and no network are attached to it.
-/

import PlainScript.Command.Run

namespace PlainScript.CommandLine

def detached : PageFault := ⟨false, "no browser is attached"⟩

/-- A page on which nothing can be done. -/
def detachedPage : Page Unit where
  setTimeout _ := return ()
  goto _ := throw detached
  count _ := throw detached
  fill _ _ := throw detached
  click _ := throw detached
  innerText _ := throw detached
  inputValue _ := throw detached
  isEnabled _ := throw detached
  waitVisible _ _ := throw detached
  waitForUrl _ _ := throw detached
  url := throw detached
  screenshot _ := throw detached

def surroundings (settings : Settings) : Command.Surroundings Unit where
  settings
  reply _ := .unreachable "no network is attached"
  page := detachedPage
  clock _ _ := 0
  site _ := .error detached

def settingNames : List String := [
  "NL2TEST_STRICTNESS", "NL2TEST_FRAMEWORK", "NL2TEST_LANGUAGE", "NL2TEST_TIMEOUT",
  "NL2TEST_BASE_URL", "NL2TEST_HEADLESS", "NL2TEST_PAGES_DIR"]

def loadEnvironment : IO (List (String × String)) := do
  let found ← settingNames.mapM fun name => do
    return (← IO.getEnv name).map fun value => (name, value)
  return found.filterMap id

/-- The files and folders at a path; what cannot be read is left out. -/
def loadPath (path : String) : IO Directory := do
  try
    let place ← IO.FS.realPath path
    if ← place.isDir then
      let entries ← place.readDir
      let files ← entries.toList.mapM fun entry => do
        if ← entry.path.isDir then return none
        else
          let content ← IO.FS.readBinFile entry.path
          return some (File.join path entry.fileName, File.Content.bytes content.toList)
      return ⟨files.filterMap id, [path]⟩
    else
      let content ← IO.FS.readBinFile path
      return ⟨[(path, .bytes content.toList)], []⟩
  catch _ => return .empty

/-- All that the paths lead to. -/
def loadPaths (paths : List String) : IO Directory := do
  let parts ← paths.mapM loadPath
  return ⟨parts.flatMap Directory.files, parts.flatMap Directory.folders⟩

/-- The folder that a path lies in, if it names one. -/
def folderOf (path : String) : Option String :=
  let rest := path.toList.reverse.dropWhile (· != '/')
  if rest.length ≤ 1 then none else some (.ofList (rest.drop 1).reverse)

/-- Writes the files that have changed. -/
def saveChanges (before after : Directory) : IO Unit := do
  for (path, content) in after.files do
    if !before.files.contains (path, content) then
      match folderOf path with
      | some folder => IO.FS.createDirAll folder
      | none => pure ()
      match content with
      | .text text => IO.FS.writeFile path text
      | .bytes bytes => IO.FS.writeBinFile path ⟨bytes.toArray⟩

def usage : String :=
  "commands: " ++ ", ".intercalate (Command.entries.map Command.Entry.name) ++ "\n"

def run (settings : Settings) (arguments : List String) : IO UInt32 := do
  let paths := match Command.read arguments with
    | .ok (some command) => command.inputs
    | _ => []
  let directory ← loadPaths paths
  match Command.invoke (surroundings settings) { directory, page := () } arguments with
  | .error _ => do
      IO.eprintln "the command was broken off"
      return 1
  | .ok outcome => do
      let workspace := outcome.workspace
      saveChanges directory workspace.directory
      workspace.logLines.forM fun line => IO.eprintln line
      IO.print (if outcome.isHelp then usage else workspace.printed)
      return .ofNat outcome.exitCode

end PlainScript.CommandLine

def main (arguments : List String) : IO UInt32 := do
  match PlainScript.Settings.ofEnvironment (← PlainScript.CommandLine.loadEnvironment) with
  | .error fault => do
      IO.eprintln fault.message
      return 1
  | .ok settings => PlainScript.CommandLine.run settings arguments
