import CharStream.Check.Lines
import CharStream.Check.Percent
import CharStream.Main
import CharStream.Proofs.Conservation
import CharStream.Proofs.Cursor
import CharStream.Proofs.DecodedFaults
import CharStream.Proofs.LineErrors
import CharStream.Proofs.PercentCanonical
import CharStream.Proofs.PercentFailures
import CharStream.Proofs.PercentHistory
import CharStream.Proofs.PercentLines
import CharStream.Proofs.Pulls
import CharStream.Proofs.Recovery
import CharStream.Reader.Planned
import CharStream.Settings.Options
import CharStream.Proofs.ReplayStrip
import CharStream.Proofs.EncodingReadBack
import CharStream.Proofs.PercentPieces
import CharStream.Proofs.PercentReadBack
import CharStream.Proofs.Lookahead
import CharStream.Proofs.ReplayFailures
import CharStream.Proofs.PercentSucceeds
import CharStream.Proofs.ScanCells
import CharStream.Proofs.Progress
import CharStream.Proofs.AsciiSet
import CharStream.Proofs.Skips
import CharStream.Proofs.ScanText
import CharStream.Proofs.DecodedOffset
