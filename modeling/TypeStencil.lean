import TypeStencil.ClassModel
import TypeStencil.CommandLine.Arguments
import TypeStencil.CommandLine.Run
import TypeStencil.CommandLine.Session
import TypeStencil.CommandLine.Switch
import TypeStencil.CommandLine.Usage
import TypeStencil.Config
import TypeStencil.Config.File
import TypeStencil.Descriptor
import TypeStencil.Descriptor.View
import TypeStencil.Display.Colour
import TypeStencil.Display.Emoji
import TypeStencil.Display.EmojiTable
import TypeStencil.Display.Listing
import TypeStencil.Display.Markup
import TypeStencil.Display.Style
import TypeStencil.Display.Table
import TypeStencil.Display.Wrap
import TypeStencil.Document
import TypeStencil.Fault
import TypeStencil.Files.FilePath
import TypeStencil.Files.FileSystem
import TypeStencil.Files.PathText
import TypeStencil.Generation
import TypeStencil.Json.Reader
import TypeStencil.Json.Writer
import TypeStencil.Logging
import TypeStencil.Main
import TypeStencil.Naming.Case
import TypeStencil.Naming.Sanitizer
import TypeStencil.Naming.TypeScript
import TypeStencil.Number.Binary64
import TypeStencil.Number.Shortest
import TypeStencil.Proofs.ClassModel.Calls
import TypeStencil.Proofs.ClassModel.Comments
import TypeStencil.Proofs.ClassModel.Content
import TypeStencil.Proofs.ClassModel.Descriptions
import TypeStencil.Proofs.ClassModel.Layout
import TypeStencil.Proofs.ClassModel.Printed
import TypeStencil.Proofs.ClassModel.Printing
import TypeStencil.Proofs.ClassModel.Refusals
import TypeStencil.Proofs.ClassModel.Registration
import TypeStencil.Proofs.ClassModel.Renderings
import TypeStencil.Proofs.ClassModel.Sheets
import TypeStencil.Proofs.CommandLine.Effect
import TypeStencil.Proofs.CommandLine.Failures
import TypeStencil.Proofs.CommandLine.Steps
import TypeStencil.Proofs.Config.Layers
import TypeStencil.Proofs.Config.Overriding
import TypeStencil.Proofs.Config.RoundTrip
import TypeStencil.Proofs.Descriptor.Fields
import TypeStencil.Proofs.Descriptor.Relaid
import TypeStencil.Proofs.Descriptor.Spellings
import TypeStencil.Proofs.Display.Messages
import TypeStencil.Proofs.Document.Building
import TypeStencil.Proofs.Document.Contents
import TypeStencil.Proofs.Document.Digests
import TypeStencil.Proofs.Document.Layouts
import TypeStencil.Proofs.Document.Registered
import TypeStencil.Proofs.Document.Rejections
import TypeStencil.Proofs.Document.Repeats
import TypeStencil.Proofs.Document.WellFormed
import TypeStencil.Proofs.Files.Imports
import TypeStencil.Proofs.Files.Resolution
import TypeStencil.Proofs.Files.Routes
import TypeStencil.Proofs.Files.Specifiers
import TypeStencil.Proofs.Files.Writing
import TypeStencil.Proofs.Generation.Collisions
import TypeStencil.Proofs.Generation.Concatenation
import TypeStencil.Proofs.Generation.Contents
import TypeStencil.Proofs.Generation.Layouts
import TypeStencil.Proofs.Generation.Paths
import TypeStencil.Proofs.Generation.Processes
import TypeStencil.Proofs.Generation.WellFormed
import TypeStencil.Proofs.Json.Tables
import TypeStencil.Proofs.Json.Written
import TypeStencil.Proofs.Naming.Boundaries
import TypeStencil.Proofs.Naming.Canonical
import TypeStencil.Proofs.Naming.Disambiguation
import TypeStencil.Proofs.Naming.FileNames
import TypeStencil.Proofs.Naming.Grammar
import TypeStencil.Proofs.Naming.Histories
import TypeStencil.Proofs.Naming.Letters
import TypeStencil.Proofs.Naming.RegularNames
import TypeStencil.Proofs.Naming.Remembering
import TypeStencil.Proofs.Naming.Safety
import TypeStencil.Proofs.Naming.Search
import TypeStencil.Proofs.Naming.Separation
import TypeStencil.Proofs.Naming.Substitution
import TypeStencil.Proofs.Naming.Words
import TypeStencil.Proofs.Sequencing
import TypeStencil.Proofs.Sorting.Counting
import TypeStencil.Proofs.Sorting.Joined
import TypeStencil.Proofs.Sorting.Keys
import TypeStencil.Proofs.Sorting.Merging
import TypeStencil.Proofs.Sorting.Order
import TypeStencil.Proofs.Sorting.Permutation
import TypeStencil.Proofs.Sorting.Stable
import TypeStencil.Proofs.Sorting.Texts
import TypeStencil.Proofs.Source.Loading
import TypeStencil.Proofs.Template.Lines
import TypeStencil.Proofs.Template.Members
import TypeStencil.Proofs.Template.Output
import TypeStencil.Proofs.Template.Placeholders
import TypeStencil.Proofs.Template.Plain
import TypeStencil.Proofs.Template.Programs
import TypeStencil.Proofs.Template.Trees
import TypeStencil.Proofs.Template.Views
import TypeStencil.Proofs.Template.Width
import TypeStencil.Proofs.Text.Comments
import TypeStencil.Proofs.Text.Lines
import TypeStencil.Proofs.Text.Lossless
import TypeStencil.Proofs.Text.Patterns
import TypeStencil.Proofs.Text.Pieces
import TypeStencil.Proofs.Text.Utf8
import TypeStencil.Proofs.UniqueList.Pushes
import TypeStencil.Proofs.Value.Depth
import TypeStencil.Proofs.Value.Merging
import TypeStencil.Proofs.Value.Numbers
import TypeStencil.Proofs.Value.Sameness
import TypeStencil.Reference
import TypeStencil.Sorting
import TypeStencil.Sorting.Merge
import TypeStencil.Sorting.Search
import TypeStencil.Source.HostAddress
import TypeStencil.Source.Loader
import TypeStencil.Source.Url
import TypeStencil.Template.Arithmetic
import TypeStencil.Template.Builtin
import TypeStencil.Template.Check
import TypeStencil.Template.Comparison
import TypeStencil.Template.Constant
import TypeStencil.Template.Datum
import TypeStencil.Template.Engine
import TypeStencil.Template.Evaluation
import TypeStencil.Template.Expr
import TypeStencil.Template.Fault
import TypeStencil.Template.Filter
import TypeStencil.Template.Grammar.Expr
import TypeStencil.Template.Grammar.Node
import TypeStencil.Template.Literal
import TypeStencil.Template.Member
import TypeStencil.Template.Packaged
import TypeStencil.Template.Part
import TypeStencil.Template.Program
import TypeStencil.Template.Reading
import TypeStencil.Template.Rendering
import TypeStencil.Template.Slice
import TypeStencil.Template.Test
import TypeStencil.Template.Token
import TypeStencil.Text.Blank
import TypeStencil.Text.Case
import TypeStencil.Text.CaseTable
import TypeStencil.Text.CharacterName
import TypeStencil.Text.CharacterName.Alias
import TypeStencil.Text.CharacterName.Alphabets
import TypeStencil.Text.CharacterName.EastAsia
import TypeStencil.Text.CharacterName.Signs
import TypeStencil.Text.CharacterName.Supplement
import TypeStencil.Text.Digit
import TypeStencil.Text.Identifier
import TypeStencil.Text.Lines
import TypeStencil.Text.Printable
import TypeStencil.Text.Quoted
import TypeStencil.Text.Ranges
import TypeStencil.Text.Tabs
import TypeStencil.Text.Utf8
import TypeStencil.Text.Width
import TypeStencil.Text.Words
import TypeStencil.Trace
import TypeStencil.UniqueList
import TypeStencil.Value
import TypeStencil.Value.Entries
import TypeStencil.Value.Order
import TypeStencil.Value.Same
import TypeStencil.Value.Text
