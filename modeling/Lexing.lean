import Lexing.CharClass.Basic
import Lexing.CharClass.Table
import Lexing.Data.Codec
import Lexing.Data.Datum
import Lexing.Digit
import Lexing.Filter.Basic
import Lexing.Filter.Chain
import Lexing.Filter.LineDirective
import Lexing.Filter.ModeGate
import Lexing.Filter.Probe
import Lexing.Filter.Relabel
import Lexing.Filter.SequenceComposer
import Lexing.Filter.Stock
import Lexing.Filter.SuffixGlue
import Lexing.Kind
import Lexing.Literal.Quoted
import Lexing.Literal.Raw
import Lexing.Literal.Reader
import Lexing.Literal.Registry
import Lexing.Literal.Scripted
import Lexing.Literal.Stock
import Lexing.Numeral
import Lexing.Options
import Lexing.Profile.Basic
import Lexing.Profile.Builder
import Lexing.Profile.CLike
import Lexing.Profile.Diagram
import Lexing.Profile.Error
import Lexing.Proofs.Absorption
import Lexing.Proofs.Accumulation
import Lexing.Proofs.Answers
import Lexing.Proofs.BlockComments
import Lexing.Proofs.Bodies
import Lexing.Proofs.Building
import Lexing.Proofs.Bytes
import Lexing.Proofs.Changes
import Lexing.Proofs.ClosingMarkers
import Lexing.Proofs.Closings
import Lexing.Proofs.CommentTexts
import Lexing.Proofs.Complaints
import Lexing.Proofs.Composition
import Lexing.Proofs.Compounds
import Lexing.Proofs.Coverage
import Lexing.Proofs.Cutting
import Lexing.Proofs.Delegation
import Lexing.Proofs.Directives
import Lexing.Proofs.Dispatch
import Lexing.Proofs.Emissions
import Lexing.Proofs.EscapeBounds
import Lexing.Proofs.ExactNumbers
import Lexing.Proofs.FailedWalks
import Lexing.Proofs.FilteredSources
import Lexing.Proofs.FilteredTiling
import Lexing.Proofs.Frame
import Lexing.Proofs.FrozenTries
import Lexing.Proofs.Guarantees
import Lexing.Proofs.Independence
import Lexing.Proofs.InsertionHistories
import Lexing.Proofs.IntegerRoundTrips
import Lexing.Proofs.IntegerScans
import Lexing.Proofs.IntegerSources
import Lexing.Proofs.Interiors
import Lexing.Proofs.Journey
import Lexing.Proofs.Kinds
import Lexing.Proofs.Layout
import Lexing.Proofs.Likeness
import Lexing.Proofs.LineComments
import Lexing.Proofs.LineEndings
import Lexing.Proofs.LineStarts
import Lexing.Proofs.LongestMatch
import Lexing.Proofs.LongestWalk
import Lexing.Proofs.Markers
import Lexing.Proofs.Memoryless
import Lexing.Proofs.Moments
import Lexing.Proofs.Names
import Lexing.Proofs.NumberSplices
import Lexing.Proofs.NumberTexts
import Lexing.Proofs.Numbering
import Lexing.Proofs.Numerals
import Lexing.Proofs.Origins
import Lexing.Proofs.Outcomes
import Lexing.Proofs.Parallel
import Lexing.Proofs.ParentLinks
import Lexing.Proofs.Passing
import Lexing.Proofs.Payloads
import Lexing.Proofs.Points
import Lexing.Proofs.Potential
import Lexing.Proofs.QuotedItems
import Lexing.Proofs.QuotedReading
import Lexing.Proofs.QuotedRemarks
import Lexing.Proofs.QuotedTexts
import Lexing.Proofs.RawStrings
import Lexing.Proofs.Reaction
import Lexing.Proofs.Reading
import Lexing.Proofs.RegistrationOrder
import Lexing.Proofs.Registrations
import Lexing.Proofs.Renewal
import Lexing.Proofs.Replacements
import Lexing.Proofs.Representation
import Lexing.Proofs.Runs
import Lexing.Proofs.Segments
import Lexing.Proofs.Spellings
import Lexing.Proofs.Splices
import Lexing.Proofs.Splicing
import Lexing.Proofs.Starts
import Lexing.Proofs.Termination
import Lexing.Proofs.Terminators
import Lexing.Proofs.Tiling
import Lexing.Proofs.Trace
import Lexing.Proofs.Transcript
import Lexing.Proofs.Trie
import Lexing.Proofs.TrieContents
import Lexing.Proofs.Truncation
import Lexing.Proofs.Twins
import Lexing.Proofs.Unexpected
import Lexing.Proofs.Utterances
import Lexing.Proofs.Walks
import Lexing.Proofs.Weaving
import Lexing.Scan.Comment
import Lexing.Scan.Continuation
import Lexing.Scan.Describe
import Lexing.Scan.Dispatch
import Lexing.Scan.Error
import Lexing.Scan.Literal
import Lexing.Scan.Number
import Lexing.Scan.Operator
import Lexing.Scan.Reaction
import Lexing.Scan.Run
import Lexing.Scan.State
import Lexing.Sink.Basic
import Lexing.Sink.Recorder
import Lexing.Span
import Lexing.Text.Blank
import Lexing.Text.Hex
import Lexing.Text.Printable
import Lexing.Text.Quoted
import Lexing.Token
import Lexing.Trie
import Lexing.Trie.Frozen
