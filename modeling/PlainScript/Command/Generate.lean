/-
The command that generates code. Its exit code is zero if all instructions went well.
-/

import PlainScript.Command.Session

namespace PlainScript.Command

variable {σ : Type}

/-- The entries of a batch, after a warning of each item that was passed over. -/
def openBatch (batch : Batch.Reading) : Act σ (List BatchEntry) := do
  warnAll (batch.notices.map Batch.Notice.message)
  expect .batch batch.entries

/-- The instructions that are asked for. -/
def loadBatch (surroundings : Surroundings σ) (arguments : GenerateArguments) :
    Act σ (List BatchEntry) :=
  match arguments.origin with
  | .prompt =>
      match filled arguments.prompt with
      | none => throw (.lack .prompt)
      | some prompt => return BatchEntry.ofPrompt prompt arguments.setup.baseUrl
  | .network =>
      match filled arguments.url with
      | none => throw (.lack .url)
      | some url => openBatch (Batch.ofReply url (surroundings.reply url))
  | .file =>
      match filled arguments.file with
      | none => throw (.lack .file)
      | some path => do openBatch (Batch.ofFile (← get).directory path)

/-- The render options of the settings, but for what is asked for. -/
def renderOptions (settings : Settings) (arguments : GenerateArguments) : RenderOptions where
  framework := firstFilled [arguments.framework] settings.framework
  language := firstFilled [arguments.language] settings.language
  timeout := (arguments.timeout.filter (· != 0)).getD settings.timeout
  includeComments := arguments.comments
  includeScreenshots := arguments.screenshots

/-- Saves code in a folder that is made for it. -/
def save (folder : String) (generation : Generation) : Act σ Unit := do
  change fun directory => directory.makeFolder folder
  let path := File.join folder generation.fileName
  change fun directory => directory.writeText path generation.code
  printLine ("Saved to " ++ path)

/-- Prints or saves what has been generated. -/
def deliver (arguments : GenerateArguments) (generation : Generation) : Act σ Unit :=
  if arguments.asJson then printLine (Json.readable.write generation.summary)
  else match filled arguments.outputFolder with
    | some folder =>
        if generation.isOk then save folder generation else printLine generation.code
    | none => printLine generation.code

/-- Generates the code of an instruction; tells whether that went well. -/
def generateEntry (settings : Settings) (arguments : GenerateArguments) (generator : Generator)
    (entry : BatchEntry) : Act σ Bool := do
  let baseUrl := firstFilled [entry.baseUrl, arguments.setup.baseUrl] settings.baseUrl
  match generator.generate entry.prompt baseUrl (renderOptions settings arguments) with
  | .error fault => do
      let notices := generator.earlyNotices (generator.substitute entry.prompt)
      notices.forM fun notice => record notice.log
      throw (.generator fault)
  | .ok generation => do
      generation.notices.forM fun notice => record notice.log
      deliver arguments generation
      if !generation.isOk then
        let reasons := "; ".intercalate generation.errors
        record ⟨.error, "Case " ++ entry.id ++ " failed: " ++ reasons⟩
      return generation.isOk

def runGenerate (surroundings : Surroundings σ) (arguments : GenerateArguments) : Act σ Nat := do
  let entries ← loadBatch surroundings arguments
  if entries.isEmpty then
    printLine "No cases found."
    return 1
  else
    let (resolver, data) ← setUp surroundings.settings arguments.setup
    let results ← entries.mapM (generateEntry surroundings.settings arguments { resolver, data })
    return codeOf (results.all id)

end PlainScript.Command
