import Terminator.Text
import Terminator.Verdict
import Terminator.TokenSet
import Terminator.Cursor
import Terminator.Cursor.Recorded
import Terminator.SourceReader
import Terminator.Text.Alphabetic
import Terminator.Text.Letter
import Terminator.Text.Quoted
import Terminator.Text.Lowercase
import Terminator.Scanner
import Terminator.Expectation
import Terminator.Lexeme.Piece
import Terminator.Report
import Terminator.Span
import Terminator.Verdict.Reading
import Terminator.Binary64
import Terminator.Toml.Document
import Terminator.Settings.Layers
import Terminator.Main
import Terminator.Proofs.DecisionPolicy
import Terminator.Proofs.TextBoundaries
import Terminator.Proofs.SpanNormalForm
import Terminator.Proofs.VisibleText
import Terminator.Proofs.ReaderInvariant
import Terminator.Proofs.ReaderRuns
import Terminator.Proofs.ReaderRefinement
import Terminator.Proofs.LexemeOffsets
import Terminator.Proofs.SurveySites
import Terminator.Proofs.SpanCoverage
import Terminator.Proofs.LexemeSuccession
import Terminator.Proofs.LexerAgreement
import Terminator.Proofs.CommentSites
import Terminator.Proofs.HiddenText
import Terminator.Proofs.HostProtocol
import Terminator.Proofs.WholeScope
import Terminator.Proofs.SiteModes
import Terminator.Proofs.InsertionScope
import Terminator.Proofs.EmptyToken
import Terminator.Proofs.Lookahead
import Terminator.Proofs.DroppedText
import Terminator.Proofs.SurveySafety
import Terminator.Proofs.CanonicalSpans
import Terminator.Proofs.SeekAndRetry
import Terminator.Proofs.WholeWords
import Terminator.Proofs.CaretPlaces
import Terminator.Proofs.BlockComments
import Terminator.Proofs.LineTerminators
import Terminator.Proofs.LastStatement
import Terminator.Proofs.SettingMembers
import Terminator.Proofs.LayerMerging
import Terminator.Proofs.LayerPrecedence
import Terminator.Proofs.BoundarySearch
import Terminator.Proofs.WrittenSpans
import Terminator.Proofs.DistinctOutputs
