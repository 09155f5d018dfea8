import MonkeyScan.Main
import MonkeyScan.Settings.Operation
import MonkeyScan.Proofs.Command.LineEnds
import MonkeyScan.Proofs.Command.Outcomes
import MonkeyScan.Proofs.Command.Renderings
import MonkeyScan.Proofs.Command.Reports
import MonkeyScan.Proofs.Cursor.Runs
import MonkeyScan.Proofs.Diagnostic.Collecting
import MonkeyScan.Proofs.Scan.Lookahead
import MonkeyScan.Proofs.Session.Decoding
import MonkeyScan.Proofs.Settings.Loading
import MonkeyScan.Proofs.Settings.Logging
