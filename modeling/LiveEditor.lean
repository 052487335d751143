import LiveEditor.Main
import LiveEditor.Settings.Writer
import LiveEditor.Proofs.Style.Runs
import LiveEditor.Proofs.Bridge.LineSplitter
import LiveEditor.Proofs.Session.CompileRun
import LiveEditor.Proofs.Search.Occurrence
import LiveEditor.Proofs.Session.Selection
import LiveEditor.Proofs.Session.Isolation
import LiveEditor.Proofs.Editor.Operations
import LiveEditor.Proofs.Editor.History
import LiveEditor.Proofs.Editor.Output
import LiveEditor.Proofs.Highlight.TokenRule
import LiveEditor.Proofs.Highlight.Tokenization
import LiveEditor.Proofs.Search.Matches
import LiveEditor.Proofs.Session.Navigation
import LiveEditor.Proofs.Style.Fitting
import LiveEditor.Proofs.Text.Lines
import LiveEditor.Proofs.Search.Extent
import LiveEditor.Proofs.Search.Locality
import LiveEditor.Proofs.Search.Replacement
import LiveEditor.Proofs.Session.Replacement
import LiveEditor.Proofs.Session.ErrorLines
import LiveEditor.Proofs.Session.ErrorOrigin
import LiveEditor.Proofs.Highlight.Overlay
import LiveEditor.Proofs.Session.Rendering
import LiveEditor.Proofs.Bridge.Exchange
import LiveEditor.Proofs.Session.Compilation
import LiveEditor.Proofs.Session.Indicator
import LiveEditor.Proofs.Session.Probes
import LiveEditor.Proofs.Editor.Notifications
import LiveEditor.Proofs.Editor.Draft
import LiveEditor.Proofs.Search.Target
import LiveEditor.Proofs.Search.WholeWord
import LiveEditor.Proofs.CommandLine.Compilation
import LiveEditor.Proofs.Text.Encoding
import LiveEditor.Proofs.Number.Digits
import LiveEditor.Proofs.Toml.Quoted
import LiveEditor.Proofs.Toml.Scalar
import LiveEditor.Proofs.Toml.Integers
import LiveEditor.Proofs.Toml.Document
import LiveEditor.Proofs.Files.Writing
import LiveEditor.Proofs.Settings.RoundTrip
import LiveEditor.Proofs.Files.Kinds
import LiveEditor.Proofs.Files.Reaching
import LiveEditor.Proofs.Files.Saving
import LiveEditor.Proofs.Search.Literal
import LiveEditor.Proofs.Search.ReplaceAll
import LiveEditor.Proofs.Search.Choice
import LiveEditor.Proofs.Search.Narrowing
import LiveEditor.Highlight.Feature
import LiveEditor.Proofs.Highlight.Lookahead
import LiveEditor.Proofs.Search.Delimited
import LiveEditor.Proofs.Highlight.Grammar
import LiveEditor.Proofs.Highlight.Feature
import LiveEditor.Proofs.Highlight.Delimiters
import LiveEditor.Proofs.Highlight.Passes
import LiveEditor.Proofs.Highlight.Repetition
import LiveEditor.Proofs.Text.LineTiling
import LiveEditor.Proofs.Text.Splicing
import LiveEditor.Proofs.Bridge.Diagnostics
import LiveEditor.Proofs.Style.Composition
import LiveEditor.Proofs.Editor.Reachable
import LiveEditor.Proofs.Editor.Clipboard
import LiveEditor.Proofs.Editor.Failures
import LiveEditor.Proofs.Text.Clamping
