import StyleLexer.Main
import StyleLexer.Proofs.ScanEnds
import StyleLexer.Proofs.TriviaRuns
import StyleLexer.Proofs.LexemeShape
import StyleLexer.Proofs.Passages
import StyleLexer.Proofs.TokenKinds
import StyleLexer.Proofs.Coverage
import StyleLexer.Proofs.Neighbours
import StyleLexer.Proofs.Readings
import StyleLexer.Proofs.Composition
import StyleLexer.Proofs.Hints
import StyleLexer.Proofs.FaultCauses
import StyleLexer.Proofs.Exchanges
import StyleLexer.Proofs.Truncation
import StyleLexer.Proofs.Steps
import StyleLexer.Proofs.Sessions
import StyleLexer.Proofs.Layouts
import StyleLexer.Proofs.Gaps
import StyleLexer.Proofs.TrailingBlanks
import StyleLexer.Proofs.BlankGaps
import StyleLexer.Proofs.Origins
import StyleLexer.Proofs.KindShapes
import StyleLexer.Proofs.Verdicts
import StyleLexer.Proofs.Offsets
import StyleLexer.Proofs.OffsetLocations
import StyleLexer.Proofs.OffsetScans
import StyleLexer.Proofs.OffsetTrivia
import StyleLexer.Proofs.Reader
import StyleLexer.Proofs.ReaderSteps
import StyleLexer.Proofs.ReaderRuns
import StyleLexer.Proofs.ReadingBounds
import StyleLexer.Proofs.ReadingEnds
import StyleLexer.Proofs.Fragments
import StyleLexer.Proofs.PlaceInfluence
import StyleLexer.Proofs.Delimiters
import StyleLexer.Proofs.LiteralRule
import StyleLexer.Proofs.LocationOrder
import StyleLexer.Proofs.Occurrences
import StyleLexer.Proofs.TriviaElements
