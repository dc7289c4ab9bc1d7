import Montage.Main
import Montage.Console.Journal
import Montage.Document.Composition
import Montage.Document.Settings
import Montage.Document.Status
import Montage.Server.Client
import Montage.Server.Address
import Montage.Proofs.Filter.Sync
import Montage.Proofs.Filter.Structure
import Montage.Proofs.Jobs.Settlement
import Montage.Proofs.Jobs.Outcome
import Montage.Proofs.Jobs.Announcement
import Montage.Proofs.Jobs.Subscription
import Montage.Proofs.Encode.Aftermath
import Montage.Proofs.Encode.Stream
import Montage.Proofs.Filter.Building
import Montage.Proofs.Filter.Validity
import Montage.Proofs.Numeric.Rounding
import Montage.Proofs.Probe.Answers
import Montage.Proofs.Render.Degradation
import Montage.Proofs.Render.Subsumption
import Montage.Proofs.Timeline.Removal
import Montage.Proofs.Timeline.Subtitles
import Montage.Proofs.Storage.Lookup
import Montage.Proofs.Storage.Uploads
import Montage.Proofs.Server.Acceptance
import Montage.Proofs.Video.Fitting
import Montage.Proofs.Jobs.Cancellation
import Montage.Proofs.Jobs.Floor
import Montage.Proofs.Filter.Refusals
import Montage.Proofs.Filter.Validation
import Montage.Proofs.Jobs.Percentages
import Montage.Proofs.Render.Probing
import Montage.Proofs.Jobs.Pruning
import Montage.Proofs.Media.Ledger
import Montage.Proofs.Probe.Memory
import Montage.Proofs.Config.Precedence
import Montage.Proofs.Numeric.Amounts
import Montage.Proofs.Jobs.Maximum
import Montage.Proofs.Timeline.Overlays
import Montage.Proofs.Render.Arguments
import Montage.Proofs.Filter.Edits
import Montage.Proofs.Encode.Diagnosis
import Montage.Proofs.Encode.Marker
