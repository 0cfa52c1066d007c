import SlideDeck.Main
import SlideDeck.Proofs.Text.ByteOrder
import SlideDeck.Proofs.Text.Escape
import SlideDeck.Proofs.Text.Occurrence
import SlideDeck.Proofs.Text.Span
import SlideDeck.Proofs.Text.Places
import SlideDeck.Proofs.Inline.MixedText
import SlideDeck.Proofs.Inline.Placeholder
import SlideDeck.Proofs.Inline.Fidelity
import SlideDeck.Proofs.Inline.FencedCode
import SlideDeck.Proofs.Inline.TaggedText
import SlideDeck.Proofs.Rendering.Gaps
import SlideDeck.Proofs.Rendering.Policy
import SlideDeck.Proofs.Store.Writing
import SlideDeck.Proofs.Store.Spelling
import SlideDeck.Proofs.Store.PagePath
import SlideDeck.Proofs.Store.Directory
import SlideDeck.Proofs.Build.Effect
import SlideDeck.Proofs.Build.Truth
import SlideDeck.Proofs.Build.Inputs
import SlideDeck.Proofs.Build.Independence
import SlideDeck.Proofs.Store.PageFile
import SlideDeck.Proofs.CommandLine.Operations
import SlideDeck.Proofs.Yaml.Plain
import SlideDeck.Proofs.Schema.Grammar
import SlideDeck.Proofs.Schema.Record
import SlideDeck.Proofs.Schema.Acceptance
import SlideDeck.Proofs.Rendering.Tags
import SlideDeck.Proofs.Rendering.SpanNesting
import SlideDeck.Proofs.Rendering.Element
import SlideDeck.Proofs.Rendering.FormattedText
import SlideDeck.Proofs.Rendering.CodeElement
import SlideDeck.Proofs.Rendering.CleanTexts
import SlideDeck.Proofs.Rendering.Bodies
import SlideDeck.Proofs.Rendering.Stretch
import SlideDeck.Proofs.Rendering.Slides
import SlideDeck.Proofs.Rendering.PageNesting
import SlideDeck.Proofs.Rendering.InlineNesting
import SlideDeck.Proofs.Decimal.LargeWhole
import SlideDeck.Proofs.Rendering.TwoColumn
import SlideDeck.Proofs.Result
import SlideDeck.Proofs.Decimal.ShortestWhole
import SlideDeck.Proofs.Schema.WholeNumber
import SlideDeck.Proofs.Yaml.BareName
import SlideDeck.Proofs.Schema.Entries
import SlideDeck.Proofs.Schema.OpenRecord
import SlideDeck.Proofs.Schema.OpenMapping
import SlideDeck.Proofs.Yaml.Depth
import SlideDeck.Proofs.Schema.Nesting
import SlideDeck.Proofs.Schema.Fallback
import SlideDeck.Proofs.Rendering.Children
import SlideDeck.Proofs.Rendering.Sequences
import SlideDeck.Proofs.Rendering.AltText
import SlideDeck.Proofs.Rendering.CodeRoutes
import SlideDeck.Proofs.Rendering.EmptyTexts
import SlideDeck.Proofs.Inline.PlainText
import SlideDeck.Proofs.Rendering.IgnoredBlocks
import SlideDeck.Proofs.Rendering.LineBreaks
import SlideDeck.Proofs.Rendering.PageHead
import SlideDeck.Proofs.Text.Division
import SlideDeck.Proofs.Inline.Passes
import SlideDeck.Proofs.Inline.PassOrder
import SlideDeck.Proofs.CommandLine.Verbosity
import SlideDeck.Proofs.CommandLine.ExitCode
import SlideDeck.Proofs.CommandLine.Shorthand
import SlideDeck.Proofs.Store.Component
import SlideDeck.Proofs.Store.DefaultOutput
import SlideDeck.Proofs.Store.Encoding
