import Emission.Entries
import Emission.Escape.CodePoint
import Emission.Escape.Format
import Emission.Escape.Literal
import Emission.Escape.Strategy
import Emission.Fault
import Emission.Files
import Emission.Files.Path
import Emission.Journal
import Emission.Json.Read
import Emission.Json.Write
import Emission.Main
import Emission.Number.Binary
import Emission.Number.FloatText
import Emission.Number.Shortest
import Emission.Options
import Emission.Proofs.Escape.Literal
import Emission.Proofs.Escape.Query
import Emission.Proofs.Escape.Reading
import Emission.Proofs.Escape.References
import Emission.Proofs.Escape.Sequence
import Emission.Proofs.Escape.Translation
import Emission.Proofs.Escape.Undoing
import Emission.Proofs.Fault
import Emission.Proofs.Files
import Emission.Proofs.Files.Change
import Emission.Proofs.Files.Path
import Emission.Proofs.Files.Tree
import Emission.Proofs.Header.Marks
import Emission.Proofs.Header.Reading
import Emission.Proofs.Header.Rendered
import Emission.Proofs.Journal
import Emission.Proofs.Journal.Handlers
import Emission.Proofs.Json.Document
import Emission.Proofs.Json.Text
import Emission.Proofs.Log
import Emission.Proofs.Names.Reading
import Emission.Proofs.Names.Rendered
import Emission.Proofs.Options
import Emission.Proofs.Renaming
import Emission.Proofs.Run
import Emission.Proofs.Segment.Reading
import Emission.Proofs.Segment.Rendered
import Emission.Proofs.Segment.Splitting
import Emission.Proofs.Session.Actions
import Emission.Proofs.Session.Alike
import Emission.Proofs.Session.Call
import Emission.Proofs.Session.Catalog
import Emission.Proofs.Session.Drafts
import Emission.Proofs.Session.Effect
import Emission.Proofs.Session.Formatting
import Emission.Proofs.Session.Isolation
import Emission.Proofs.Session.Levels
import Emission.Proofs.Session.Reachable
import Emission.Proofs.Session.Retry
import Emission.Proofs.Session.Settings
import Emission.Proofs.Session.Setup
import Emission.Proofs.Session.Shipped
import Emission.Proofs.Session.Step
import Emission.Proofs.Settings
import Emission.Proofs.Store
import Emission.Proofs.Target.Catalog
import Emission.Proofs.Target.Php
import Emission.Proofs.Template.Agreement
import Emission.Proofs.Template.Asking
import Emission.Proofs.Template.Cache
import Emission.Proofs.Template.Compiling
import Emission.Proofs.Template.Construction
import Emission.Proofs.Template.Engine
import Emission.Proofs.Template.Folding
import Emission.Proofs.Template.Formats
import Emission.Proofs.Template.Group
import Emission.Proofs.Template.Nameless
import Emission.Proofs.Template.Refusal
import Emission.Proofs.Template.Rendering
import Emission.Proofs.Template.Shipped
import Emission.Proofs.Template.Tree
import Emission.Proofs.Template.Vacancy
import Emission.Proofs.Template.Validation
import Emission.Proofs.Text.Case
import Emission.Proofs.Text.Order
import Emission.Proofs.Text.Search
import Emission.Proofs.Text.Utf8
import Emission.Proofs.Value.Dictionary
import Emission.Proofs.Vocabulary
import Emission.Proofs.Yaml.Blocks
import Emission.Proofs.Yaml.Document
import Emission.Proofs.Yaml.DoubleQuoted
import Emission.Proofs.Yaml.Plain
import Emission.Proofs.Yaml.Quoted
import Emission.Proofs.Yaml.Scanner
import Emission.Proofs.Yaml.SingleQuoted
import Emission.Run
import Emission.Segment
import Emission.Session
import Emission.Session.Configuration
import Emission.Session.Overview
import Emission.Session.Targets
import Emission.Session.Templates
import Emission.Settings
import Emission.Store
import Emission.Target
import Emission.Target.Catalog
import Emission.Target.Php
import Emission.Template.Cache
import Emission.Template.Engine
import Emission.Template.Filter
import Emission.Template.Group
import Emission.Template.ParseFault
import Emission.Template.Program
import Emission.Template.Program.Render
import Emission.Template.Scope
import Emission.Template.Shipped
import Emission.Template.Token
import Emission.Template.Token.Literal
import Emission.Template.Token.Scan
import Emission.Template.Tree
import Emission.Template.Tree.Parse
import Emission.Text.Blank
import Emission.Text.Case
import Emission.Text.CaseTable
import Emission.Text.Hex
import Emission.Text.Identifier
import Emission.Text.Pattern
import Emission.Text.Printable
import Emission.Text.Search
import Emission.Text.Utf8
import Emission.Value.Access
import Emission.Value.Arithmetic
import Emission.Value.Basic
import Emission.Value.Compare
import Emission.Value.Display
import Emission.Value.Equal
import Emission.Value.Misuse
import Emission.Vocabulary
import Emission.Yaml.Basic
import Emission.Yaml.Block
import Emission.Yaml.Node
import Emission.Yaml.Plain
import Emission.Yaml.Quoted
import Emission.Yaml.Spelling
import Emission.Yaml.Tag
import Emission.Yaml.Token
import Emission.Yaml.Write
