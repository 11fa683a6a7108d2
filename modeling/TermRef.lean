import TermRef.Command.Help
import TermRef.Command.Options
import TermRef.Command.Run
import TermRef.Conversion
import TermRef.Decimal.Numeral
import TermRef.Decimal.Places
import TermRef.Decimal.Shortest
import TermRef.Edit
import TermRef.Failure
import TermRef.Files.Document
import TermRef.Files.Glob
import TermRef.Files.Path
import TermRef.Files.Tree
import TermRef.Files.Wildcard
import TermRef.Glossary.Entry
import TermRef.Glossary.Index
import TermRef.Glossary.Intake
import TermRef.Glossary.Load
import TermRef.Glossary.Phrases
import TermRef.Glossary.Terminology
import TermRef.Journal
import TermRef.Link.Render
import TermRef.Link.Style
import TermRef.Main
import TermRef.Pattern.CharSet
import TermRef.Pattern.Cursor
import TermRef.Pattern.Reader
import TermRef.Pattern.Syntax
import TermRef.Pattern.Walk
import TermRef.Proofs.Command.Break
import TermRef.Proofs.Command.Fatal
import TermRef.Proofs.Conversion.Again
import TermRef.Proofs.Conversion.Defaults
import TermRef.Proofs.Conversion.Forms
import TermRef.Proofs.Conversion.Lines
import TermRef.Proofs.Conversion.Rescan
import TermRef.Proofs.Conversion.Resolution
import TermRef.Proofs.Conversion.Splice
import TermRef.Proofs.Conversion.Turns
import TermRef.Proofs.Edit.Order
import TermRef.Proofs.Edit.Pass
import TermRef.Proofs.Edit.Undo
import TermRef.Proofs.Files.Beside
import TermRef.Proofs.Files.Change
import TermRef.Proofs.Files.Delivery
import TermRef.Proofs.Files.Listing
import TermRef.Proofs.Files.Normal
import TermRef.Proofs.Files.NullFree
import TermRef.Proofs.Files.Provide
import TermRef.Proofs.Files.Way
import TermRef.Proofs.Glossary.Arrangement
import TermRef.Proofs.Glossary.Build
import TermRef.Proofs.Glossary.Expansion
import TermRef.Proofs.Glossary.Growth
import TermRef.Proofs.Glossary.History
import TermRef.Proofs.Glossary.Intake
import TermRef.Proofs.Glossary.Load
import TermRef.Proofs.Glossary.Normal
import TermRef.Proofs.Glossary.Origin
import TermRef.Proofs.Glossary.Phrases
import TermRef.Proofs.Glossary.Required
import TermRef.Proofs.Glossary.Versions
import TermRef.Proofs.Json.Quoted
import TermRef.Proofs.Json.Readable
import TermRef.Proofs.Json.Syntax
import TermRef.Proofs.Json.Tokens
import TermRef.Proofs.Json.Tree
import TermRef.Proofs.Link.Anchor
import TermRef.Proofs.Link.Markdown
import TermRef.Proofs.Link.Verbatim
import TermRef.Proofs.Pattern.Brackets
import TermRef.Proofs.Pattern.Marks
import TermRef.Proofs.Pattern.Places
import TermRef.Proofs.Pattern.Renaming
import TermRef.Proofs.Pattern.Taken
import TermRef.Proofs.Pattern.Verbatim
import TermRef.Proofs.Pattern.Walk
import TermRef.Proofs.Reference.Alternate
import TermRef.Proofs.Reference.Bracketed
import TermRef.Proofs.Reference.Escape
import TermRef.Proofs.Reference.Greedy
import TermRef.Proofs.Reference.Lines
import TermRef.Proofs.Reference.Mention
import TermRef.Proofs.Reference.Parts
import TermRef.Proofs.Reference.Passage
import TermRef.Proofs.Reference.Scan
import TermRef.Proofs.Reference.Spelled
import TermRef.Proofs.Reference.Standard
import TermRef.Proofs.Reference.Words
import TermRef.Proofs.Run.Account
import TermRef.Proofs.Run.Below
import TermRef.Proofs.Run.Elsewhere
import TermRef.Proofs.Run.Mirror
import TermRef.Proofs.Run.Once
import TermRef.Proofs.Run.Order
import TermRef.Proofs.Run.Outcome
import TermRef.Proofs.Run.Rendered
import TermRef.Proofs.Run.Stored
import TermRef.Proofs.Run.Visit
import TermRef.Proofs.Scope.Normal
import TermRef.Proofs.Settings.Ending
import TermRef.Proofs.Settings.Json
import TermRef.Proofs.Settings.Ranking
import TermRef.Proofs.Settings.Variables
import TermRef.Proofs.Text.Lines
import TermRef.Proofs.Text.Pieces
import TermRef.Proofs.Text.Slug
import TermRef.Proofs.Text.Utf8
import TermRef.Proofs.Url.Join
import TermRef.Proofs.Value.Again
import TermRef.Proofs.Value.Entries
import TermRef.Proofs.Value.Text
import TermRef.Proofs.Yaml.Bare
import TermRef.Proofs.Yaml.Build
import TermRef.Proofs.Yaml.Fields
import TermRef.Proofs.Yaml.Flow
import TermRef.Proofs.Yaml.Line
import TermRef.Proofs.Yaml.Place
import TermRef.Proofs.Yaml.Quotes
import TermRef.Proofs.Yaml.Round
import TermRef.Proofs.Yaml.Word
import TermRef.Reference.Basic
import TermRef.Reference.Grammar
import TermRef.Reference.Scan
import TermRef.Report
import TermRef.Run
import TermRef.Scope.Administration
import TermRef.Settings.Basic
import TermRef.Settings.EnvFile
import TermRef.Settings.Load
import TermRef.Template.Address
import TermRef.Template.Arithmetic
import TermRef.Template.Check
import TermRef.Template.Datum
import TermRef.Template.Filter
import TermRef.Template.Format
import TermRef.Template.Method
import TermRef.Template.Pretty
import TermRef.Template.Reader.Expression
import TermRef.Template.Reader.Statement
import TermRef.Template.Render
import TermRef.Template.Syntax
import TermRef.Template.Test
import TermRef.Template.Token
import TermRef.Text.Entities
import TermRef.Text.Lines
import TermRef.Text.Markup
import TermRef.Text.Pieces
import TermRef.Text.Quoted
import TermRef.Text.Slug
import TermRef.Text.Utf8
import TermRef.Text.Wrap
import TermRef.Unicode.Blank
import TermRef.Unicode.Case
import TermRef.Unicode.CaseTable
import TermRef.Unicode.Digit
import TermRef.Unicode.Letter
import TermRef.Unicode.Name
import TermRef.Unicode.Printable
import TermRef.Unicode.Ranges
import TermRef.Url.Encode
import TermRef.Url.Host
import TermRef.Url.Join
import TermRef.Value.Basic
import TermRef.Value.Check
import TermRef.Value.Show
import TermRef.Yaml.Lexer
import TermRef.Yaml.Meaning
import TermRef.Yaml.Place
import TermRef.Yaml.Scalar
import TermRef.Yaml.Token
import TermRef.Yaml.Tree
