import ECompass.Command
import ECompass.Proofs.HealthCheck
import ECompass.Proofs.InterruptedReset
import ECompass.Proofs.Agreement
import ECompass.Proofs.Mirror
import ECompass.Proofs.Effects
import ECompass.Proofs.QueueHistory
import ECompass.Proofs.Polling
import ECompass.Proofs.PollRates
import ECompass.Proofs.Recovery
import ECompass.Proofs.Delivery
import ECompass.Proofs.PowerLoss
import ECompass.Proofs.Requests
import ECompass.Proofs.ManualReads
import ECompass.Proofs.Commitment
import ECompass.Proofs.SinkProtocol
import ECompass.Proofs.Ledger
import ECompass.Proofs.Filtering
import ECompass.Proofs.Noninterference
import ECompass.Proofs.LogRate
import ECompass.Proofs.MonitorHistory
import ECompass.Proofs.SplitTransfers
import ECompass.Proofs.BurstCounts
import ECompass.Proofs.ResetOutcome
import ECompass.Proofs.WriteLog
import ECompass.Proofs.Dumps
import ECompass.Proofs.FilterDesigns
import ECompass.Proofs.Stability
import ECompass.Proofs.SelfTests
import ECompass.Proofs.SettingRequests
import ECompass.Proofs.FilterLine
import ECompass.Proofs.ChannelParts
import ECompass.Proofs.Interleavings
