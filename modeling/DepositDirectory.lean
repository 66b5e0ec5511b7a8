import DepositDirectory.Cache.Traffic
import DepositDirectory.Directory.Request
import DepositDirectory.Main
import DepositDirectory.Proofs.Cache.Barrier
import DepositDirectory.Proofs.Custody.WireFormat
import DepositDirectory.Proofs.Dialogue.Laws
import DepositDirectory.Proofs.Directory.Failure
import DepositDirectory.Proofs.Directory.Findable
import DepositDirectory.Proofs.Directory.Freezing
import DepositDirectory.Proofs.Directory.Hosted
import DepositDirectory.Proofs.Directory.Isolation
import DepositDirectory.Proofs.Directory.Staleness
import DepositDirectory.Proofs.Directory.Transparency
import DepositDirectory.Proofs.Http.Discretion
import DepositDirectory.Proofs.Http.Execution
import DepositDirectory.Proofs.Program.Credentials
import DepositDirectory.Rehearsal.Gates
import DepositDirectory.Rehearsal.Remote
import DepositDirectory.Rehearsal.Script
import DepositDirectory.Rehearsal.Server
import DepositDirectory.Together
import DepositDirectory.Proofs.Together.Interleaving
import DepositDirectory.Proofs.Together.Rounds
import DepositDirectory.Proofs.Together.Backoff
import DepositDirectory.Proofs.Dialogue.Silence
import DepositDirectory.Proofs.Directory.Spelling
import DepositDirectory.Proofs.Directory.Spendable
import DepositDirectory.Proofs.Json.Decoded
import DepositDirectory.Proofs.Program.Ending
import DepositDirectory.Proofs.Listing.Chain
import DepositDirectory.Proofs.Directory.Blanks
import DepositDirectory.Proofs.Url.Form
import DepositDirectory.Proofs.Url.Hosts
import DepositDirectory.Proofs.Http.Cursors
import DepositDirectory.Proofs.Custody.Tolerance
import DepositDirectory.Proofs.Text.Numeral
import DepositDirectory.Proofs.Custody.HintedWait
import DepositDirectory.Proofs.Directory.NormalRows
import DepositDirectory.Proofs.Program.Settings
import DepositDirectory.Proofs.Text.Excerpt
