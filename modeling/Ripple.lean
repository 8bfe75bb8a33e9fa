import Ripple.Call.Directory
import Ripple.Graph.Drawing
import Ripple.Main
import Ripple.Proofs.Analyzer.History
import Ripple.Proofs.Chain.Hops
import Ripple.Proofs.Chain.Reachability
import Ripple.Proofs.Table.History
import Ripple.Proofs.Text.Lines
import Ripple.Proofs.Json.Line
import Ripple.Proofs.Cache.CallLog
import Ripple.Proofs.Cache.Batches
import Ripple.Proofs.BuildModule.Partition
import Ripple.Proofs.Call.Log
import Ripple.Proofs.Call.Directory
import Ripple.Proofs.Call.Identifiers
import Ripple.Proofs.Digest.Fingerprint
import Ripple.Proofs.Repository.Relinking
import Ripple.Proofs.Cache.RoundTrip
import Ripple.Proofs.Workers.Schedule
import Ripple.Proofs.Analyzer.Coverage
import Ripple.Proofs.Impact.Affected
import Ripple.Proofs.Sql.Anchors
import Ripple.Proofs.Sql.CommaLists
import Ripple.Proofs.Sql.LetterCase
import Ripple.Proofs.Mapper.Inlining
import Ripple.Proofs.Call.Accounting
import Ripple.Proofs.Table.Listing
import Ripple.Proofs.Graph.Drawing
import Ripple.Proofs.Cache.Loading
import Ripple.Proofs.Table.Separation
import Ripple.Proofs.Report.ReadBack
import Ripple.Proofs.Settings.Accepted
import Ripple.Proofs.BuildModule.Sources
import Ripple.Proofs.Report.Location
import Ripple.Proofs.Policy.Packages
import Ripple.Proofs.Mapper.Words
