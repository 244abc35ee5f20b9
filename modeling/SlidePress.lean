import SlidePress.Calendar
import SlidePress.Citation.Collect
import SlidePress.Citation.Grammar
import SlidePress.Citation.Inline
import SlidePress.Compile.Basic
import SlidePress.Compile.Error
import SlidePress.Compile.References
import SlidePress.Config
import SlidePress.Deck.Model
import SlidePress.Deck.Source
import SlidePress.Fault
import SlidePress.Fields
import SlidePress.Files
import SlidePress.Icon.Registry
import SlidePress.Icon.Resolver
import SlidePress.Icon.Svg
import SlidePress.Json.Reader
import SlidePress.Json.Writer
import SlidePress.Layout.Course
import SlidePress.Layout.Deck
import SlidePress.Layout.Gather
import SlidePress.Layout.Request
import SlidePress.Layout.Slide
import SlidePress.Number.Binary64
import SlidePress.Number.Places
import SlidePress.Number.Power
import SlidePress.Number.Read
import SlidePress.Number.Shortest
import SlidePress.Pattern.Basic
import SlidePress.Pattern.Match
import SlidePress.Pattern.Parser
import SlidePress.Pattern.Replacement
import SlidePress.Presentation
import SlidePress.Proofs.Citation.Expansion
import SlidePress.Proofs.Citation.Extracting
import SlidePress.Proofs.Citation.FirstUse
import SlidePress.Proofs.Compile.Citations
import SlidePress.Proofs.Compile.Filling
import SlidePress.Proofs.Compile.Lookup
import SlidePress.Proofs.Compile.Raw
import SlidePress.Proofs.Compile.Stages
import SlidePress.Proofs.Compile.StyleSheet
import SlidePress.Proofs.Config.RoundTrip
import SlidePress.Proofs.Deck.Faults
import SlidePress.Proofs.Deck.Lines
import SlidePress.Proofs.Document.Decoding
import SlidePress.Proofs.Document.Notes
import SlidePress.Proofs.Document.Quoting
import SlidePress.Proofs.Icon.Dressing
import SlidePress.Proofs.Icon.Markup
import SlidePress.Proofs.Icon.Recolor
import SlidePress.Proofs.Icon.Setting
import SlidePress.Proofs.Layout.Gathering
import SlidePress.Proofs.Layout.Ledger
import SlidePress.Proofs.Layout.Nesting
import SlidePress.Proofs.Layout.Transcript
import SlidePress.Proofs.Packaged.Lists
import SlidePress.Proofs.Packaged.Returning
import SlidePress.Proofs.Packaged.Tables
import SlidePress.Proofs.Reference.Authors
import SlidePress.Proofs.Reference.Dated
import SlidePress.Proofs.Registry.Validating
import SlidePress.Proofs.Schema.Decision
import SlidePress.Proofs.Schema.Openness
import SlidePress.Proofs.Schema.Reporting
import SlidePress.Proofs.Template.Following
import SlidePress.Proofs.Yaml.Quoted
import SlidePress.Reference.Basic
import SlidePress.Reference.Bibliography
import SlidePress.Reference.Source
import SlidePress.Registry.Basic
import SlidePress.Registry.Definition
import SlidePress.Registry.Packaged
import SlidePress.Schema
import SlidePress.Template.Access
import SlidePress.Template.Arguments
import SlidePress.Template.Basic
import SlidePress.Template.Check
import SlidePress.Template.Eval
import SlidePress.Template.Filter
import SlidePress.Template.Parser
import SlidePress.Template.Reader
import SlidePress.Template.Store
import SlidePress.Template.Test
import SlidePress.Template.TextMethod
import SlidePress.Template.Token
import SlidePress.Text.Blank
import SlidePress.Text.Case
import SlidePress.Text.Printable
import SlidePress.Text.Quoted
import SlidePress.Text.Runs
import SlidePress.Text.Search
import SlidePress.Text.Split
import SlidePress.Text.Word
import SlidePress.Value.Arithmetic
import SlidePress.Value.Basic
import SlidePress.Value.Order
import SlidePress.Value.Percent
import SlidePress.Value.Sequence
import SlidePress.Value.Text
import SlidePress.Yaml.Cursor
import SlidePress.Yaml.Data
import SlidePress.Yaml.Node
import SlidePress.Yaml.Scalar
import SlidePress.Yaml.Tag
import SlidePress.Yaml.Token
