import LanguageClient.Performance
import LanguageClient.Pipes.Action
import LanguageClient.Proofs.Frame.Pieces
import LanguageClient.Proofs.Json.Token
import LanguageClient.Proofs.Text.Utf8
import LanguageClient.Proofs.Json.Parser
import LanguageClient.Proofs.Frame.Header
import LanguageClient.Proofs.Frame.RoundTrip
import LanguageClient.Proofs.Frame.Isolation
import LanguageClient.Proofs.Act
import LanguageClient.Proofs.Session.Account
import LanguageClient.Proofs.Session.Course
import LanguageClient.Proofs.Session.Calls
import LanguageClient.Proofs.Session.Sending
import LanguageClient.Proofs.Session.Receiving
import LanguageClient.Proofs.Session.Lifecycle
import LanguageClient.Proofs.Attribution
import LanguageClient.Proofs.Correlation
import LanguageClient.Proofs.Handshake
import LanguageClient.Proofs.Tick
import LanguageClient.Proofs.Settlement
import LanguageClient.Proofs.Wire.Calls
import LanguageClient.Proofs.Wire.Numbers
import LanguageClient.Proofs.Wire.Order
import LanguageClient.Proofs.Documents
import LanguageClient.Proofs.Typing
import LanguageClient.Proofs.Wire.Deferral
import LanguageClient.Proofs.Message.Failure
import LanguageClient.Proofs.Progress
import LanguageClient.Proofs.Refusal
import LanguageClient.Proofs.Wire.Delivery
import LanguageClient.Proofs.Wire.Phases
import LanguageClient.Proofs.Wire.Farewell
import LanguageClient.Proofs.Registry.Shutdown
import LanguageClient.Proofs.Registry.Single
import LanguageClient.Proofs.Frame.Rest
import LanguageClient.Proofs.Registry.Granting
import LanguageClient.Proofs.Opening
import LanguageClient.Proofs.Pipes.Order
import LanguageClient.Proofs.Independence
import LanguageClient.Proofs.Frame.Fields
import LanguageClient.Proofs.Frame.Oversized
import LanguageClient.Proofs.Draining
import LanguageClient.Proofs.FailedHandshake
import LanguageClient.Proofs.Uri.RoundTrip
import LanguageClient.Proofs.Pending.Answers
import LanguageClient.Proofs.Pending.Expiry
import LanguageClient.Proofs.Registry.Starting
import LanguageClient.Proofs.Completion
import LanguageClient.Proofs.Landing
import LanguageClient.Proofs.Pending.Counting
import LanguageClient.Proofs.Dispatch.Mirror
import LanguageClient.Proofs.Logging
