import PlainScript.Batch.Source
import PlainScript.Catalog.Pages
import PlainScript.Check.Compliance
import PlainScript.Check.Strict
import PlainScript.Command.Run
import PlainScript.File.Directory
import PlainScript.Generation.Generate
import PlainScript.Instruction.Extraction
import PlainScript.Json.Writer
import PlainScript.Locator.Parser
import PlainScript.Locator.Selector
import PlainScript.Main
import PlainScript.Number.Integer
import PlainScript.Number.Text
import PlainScript.Proofs.Catalog.Load
import PlainScript.Proofs.Catalog.Meant
import PlainScript.Proofs.Check.Additions
import PlainScript.Proofs.Check.Arrangement
import PlainScript.Proofs.Check.Blanking
import PlainScript.Proofs.Check.Compliance
import PlainScript.Proofs.Check.Legible
import PlainScript.Proofs.Command.Batch
import PlainScript.Proofs.Command.ExitCode
import PlainScript.Proofs.Command.Validate
import PlainScript.Proofs.Generation.Carried
import PlainScript.Proofs.Generation.EmptyLock
import PlainScript.Proofs.Generation.Lenient
import PlainScript.Proofs.Generation.Live
import PlainScript.Proofs.Generation.Login
import PlainScript.Proofs.Generation.SavedName
import PlainScript.Proofs.Generation.Soundness
import PlainScript.Proofs.Generation.TestData
import PlainScript.Proofs.Generation.Visit
import PlainScript.Proofs.Instruction.Annotation
import PlainScript.Proofs.Instruction.Quotation
import PlainScript.Proofs.Instruction.Taken
import PlainScript.Proofs.Instruction.WebAddress
import PlainScript.Proofs.Literal.XPath
import PlainScript.Proofs.Locator.RoundTrip
import PlainScript.Proofs.Render.Carried
import PlainScript.Proofs.Render.Faithful
import PlainScript.Proofs.Render.Remark
import PlainScript.Proofs.Report.Html
import PlainScript.Proofs.Report.ReadBack
import PlainScript.Proofs.Resolver.Outline
import PlainScript.Proofs.Resolver.Refinement
import PlainScript.Proofs.Run.Accepted
import PlainScript.Proofs.Run.BaseAddress
import PlainScript.Proofs.Run.Completion
import PlainScript.Proofs.Run.Destination
import PlainScript.Proofs.Run.Discipline
import PlainScript.Proofs.Survey.Visit
import PlainScript.Proofs.TestCase.RoundTrip
import PlainScript.Proofs.TestData.Lookup
import PlainScript.Proofs.TestData.Simultaneous
import PlainScript.Proofs.TestData.Template
import PlainScript.Regex.Match
import PlainScript.Regex.Parser
import PlainScript.Render.Code
import PlainScript.Report.Format
import PlainScript.Resolver.Resolve
import PlainScript.Run.Address
import PlainScript.Run.Document
import PlainScript.Run.Execute
import PlainScript.Run.Script
import PlainScript.Settings.Resolver
import PlainScript.Survey.Visit
import PlainScript.TestCase.Basic
import PlainScript.TestCase.Document
import PlainScript.TestCase.Name
import PlainScript.TestData.Document
import PlainScript.TestData.Placeholder
import PlainScript.TestData.Template
import PlainScript.Text.Alphabet
import PlainScript.Text.Blank
import PlainScript.Text.Case
import PlainScript.Text.Printable
import PlainScript.Text.Search
import PlainScript.Value.Display
import PlainScript.Yaml.Node
import PlainScript.Yaml.Reader
import PlainScript.Yaml.Scalar
import PlainScript.Yaml.Writer
