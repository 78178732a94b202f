import Gatehouse.Config.Settings
import Gatehouse.Proofs.Pattern.Pieces
import Gatehouse.Proofs.Text.Ranges
import Gatehouse.Proofs.Gateway.Delivery
import Gatehouse.Proofs.Safety.Handlers
import Gatehouse.Proofs.Gateway.Agreement
import Gatehouse.Proofs.Gateway.Channel
import Gatehouse.Proofs.Gateway.Gate
import Gatehouse.Proofs.Gateway.Interleaving
import Gatehouse.Proofs.Gateway.Caller
import Gatehouse.Proofs.Gateway.Levels
import Gatehouse.Proofs.Gateway.SafetyLog
import Gatehouse.Proofs.Provider.Body
import Gatehouse.Proofs.Gateway.Wire
import Gatehouse.Proofs.Gateway.Forwarding
import Gatehouse.Proofs.Gateway.Faults
import Gatehouse.Proofs.Provider.Messages
import Gatehouse.Proofs.Safety.Spans
import Gatehouse.Proofs.Provider.FinalUsage
import Gatehouse.Proofs.Safety.Padding
import Gatehouse.Proofs.Safety.LetterCase
import Gatehouse.Proofs.Safety.Spacing
import Gatehouse.Proofs.Safety.Increments
import Gatehouse.Proofs.Safety.Policy
import Gatehouse.Proofs.Safety.AddedKeyword
import Gatehouse.Proofs.Safety.Overflow
import Gatehouse.Proofs.Provider.TokenCounts
import Gatehouse.Proofs.Provider.Registry
import Gatehouse.Proofs.Provider.Lifecycle
import Gatehouse.Proofs.Config.Secrets
import Gatehouse.Proofs.Gateway.ConfiguredToken
import Gatehouse.Proofs.Provider.LineEnds
