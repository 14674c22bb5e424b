import FormLetter.Archive.Basic
import FormLetter.Archive.Checksum
import FormLetter.Archive.Container
import FormLetter.Archive.Deflate
import FormLetter.CommandLine.Arguments
import FormLetter.CommandLine.Help
import FormLetter.CommandLine.Run
import FormLetter.Decimal.Rounding
import FormLetter.Decimal.Shortest
import FormLetter.Decimal.Value
import FormLetter.Fault
import FormLetter.Files.Basic
import FormLetter.Files.Change
import FormLetter.Files.Path
import FormLetter.Json.Basic
import FormLetter.Json.Reader
import FormLetter.Keyed
import FormLetter.Letter.Basic
import FormLetter.Letter.Body
import FormLetter.Letter.Compile
import FormLetter.Letter.Deliver
import FormLetter.Letter.Manifest
import FormLetter.Letter.Picture
import FormLetter.Letter.Process
import FormLetter.Letter.Surroundings
import FormLetter.Letter.Work
import FormLetter.Log
import FormLetter.Main
import FormLetter.Markup.Compile
import FormLetter.Markup.Directive
import FormLetter.Markup.Run
import FormLetter.Markup.Surroundings
import FormLetter.Markup.Token
import FormLetter.MediaType
import FormLetter.Package
import FormLetter.Part
import FormLetter.Proofs.Markup.Cut
import FormLetter.Proofs.Markup.Nesting
import FormLetter.Proofs.Markup.Outline
import FormLetter.Proofs.Markup.Runs
import FormLetter.Proofs.Markup.Taken
import FormLetter.Script.Arithmetic
import FormLetter.Script.Check
import FormLetter.Script.Compare
import FormLetter.Script.Cursor
import FormLetter.Script.Evaluate
import FormLetter.Script.Filter
import FormLetter.Script.Format
import FormLetter.Script.Given
import FormLetter.Script.Member
import FormLetter.Script.Method
import FormLetter.Script.Parser
import FormLetter.Script.Problem
import FormLetter.Script.Render
import FormLetter.Script.Run
import FormLetter.Script.Show
import FormLetter.Script.Symbols
import FormLetter.Script.Syntax
import FormLetter.Script.Token
import FormLetter.Script.Trouble
import FormLetter.Script.Value
import FormLetter.Style.Derivation
import FormLetter.Style.Merge
import FormLetter.Style.Role
import FormLetter.Text.Blank
import FormLetter.Text.Digit
import FormLetter.Text.Entity
import FormLetter.Text.Entity.Table
import FormLetter.Text.Escape
import FormLetter.Text.Identifier
import FormLetter.Text.Letters
import FormLetter.Text.Printable
import FormLetter.Text.Quoted
import FormLetter.Text.Ranges
import FormLetter.Text.Search
import FormLetter.Xml.Character
import FormLetter.Xml.Doctype
import FormLetter.Xml.Encoding
import FormLetter.Xml.Event
import FormLetter.Xml.Graft
import FormLetter.Xml.Indent
import FormLetter.Xml.Item
import FormLetter.Xml.Namespace
import FormLetter.Xml.Printer
import FormLetter.Xml.Reader
import FormLetter.Xml.Scan
import FormLetter.Xml.Tree
import FormLetter.Proofs.Markup.Order
import FormLetter.Proofs.Markup.Balance
import FormLetter.Proofs.Markup.Recut
import FormLetter.Proofs.Markup.Joining
import FormLetter.Proofs.Markup.Written
import FormLetter.Proofs.Markup.Floor
import FormLetter.Proofs.Markup.Alone
import FormLetter.Proofs.Markup.Printed
import FormLetter.Proofs.Style.Closure
import FormLetter.Proofs.Files.Writing
import FormLetter.Proofs.Package.Commit
import FormLetter.Proofs.Files.Copying
import FormLetter.Proofs.Letter.AllOrNothing
import FormLetter.Proofs.Markup.Values
import FormLetter.Proofs.Script.Lenient
import FormLetter.Proofs.Xml.Characters
import FormLetter.Proofs.Xml.Received
import FormLetter.Proofs.Xml.Rereading
import FormLetter.Proofs.Xml.Roundtrip
import FormLetter.Proofs.Letter.Alongside
import FormLetter.Proofs.Letter.Repeating
import FormLetter.Proofs.Script.Linting
import FormLetter.Proofs.Markup.Typing
import FormLetter.Proofs.CommandLine.Refusing
import FormLetter.Proofs.CommandLine.Ending
import FormLetter.Proofs.Letter.Staging
import FormLetter.Proofs.Letter.Registering
import FormLetter.Proofs.Letter.Confining
import FormLetter.Proofs.Letter.Enclosing
import FormLetter.Proofs.Markup.Decoding
import FormLetter.Proofs.Markup.Exact
import FormLetter.Proofs.Script.Bracketing
import FormLetter.Proofs.Script.Covering
import FormLetter.Proofs.Xml.Moving
import FormLetter.Proofs.Style.Merging
import FormLetter.Proofs.Xml.Carrying
import FormLetter.Proofs.Letter.Sharing
import FormLetter.Proofs.Xml.Indenting
import FormLetter.Proofs.Xml.Reindenting
import FormLetter.Proofs.Package.Failing
import FormLetter.Proofs.Letter.Scoping
import FormLetter.Proofs.Style.Arriving
import FormLetter.Proofs.Letter.Outermost
import FormLetter.Proofs.Letter.Closing
import FormLetter.Proofs.Markup.Kinds
import FormLetter.Proofs.Markup.StyleName
import FormLetter.Proofs.Letter.Body
import FormLetter.Markup.Context
import FormLetter.Proofs.Markup.Placing
import FormLetter.Proofs.Part.Preview
import FormLetter.Proofs.Text.Escaping
import FormLetter.Proofs.Script.Writing
