import WalletAuth.Account.Signature
import WalletAuth.Server.Error
import WalletAuth.Message.Parse
import WalletAuth.Message.Json
import WalletAuth.Handshake.SignIn
import WalletAuth.Server.App
import WalletAuth.Cli.Command
import WalletAuth.Cli.Startup
import WalletAuth.Main
import WalletAuth.Proofs.Nonce.Steps
import WalletAuth.Proofs.Handshake.Spending
import WalletAuth.Proofs.Encoding.Hex
import WalletAuth.Proofs.Backend.KeyValue
import WalletAuth.Proofs.Nonce.Pending
import WalletAuth.Proofs.Handshake.Replay
import WalletAuth.Proofs.Handshake.Phases
import WalletAuth.Proofs.Message.Codec
import WalletAuth.Proofs.Account.Checksum
import WalletAuth.Proofs.Time.Rfc3339
import WalletAuth.Proofs.Message.RoundTrip
import WalletAuth.Proofs.Redis.Commands
import WalletAuth.Proofs.Nonce.InProcess
import WalletAuth.Proofs.Handshake.Rejection
import WalletAuth.Proofs.Time.Spans
import WalletAuth.Proofs.Handshake.Stateless
import WalletAuth.Proofs.Handshake.Deadlines
import WalletAuth.Proofs.Nonce.Lifecycle
import WalletAuth.Proofs.Nonce.OnServer
import WalletAuth.Proofs.Nonce.Interchange
import WalletAuth.Proofs.Account.Spelling
import WalletAuth.Proofs.Account.Signing
import WalletAuth.Proofs.Nonce.Claiming
import WalletAuth.Proofs.Handshake.Soundness
import WalletAuth.Proofs.Config.Policy
import WalletAuth.Proofs.Server.RateLimit
import WalletAuth.Proofs.Session.Writes
import WalletAuth.Proofs.Server.SignIn
import WalletAuth.Proofs.Session.Logins
import WalletAuth.Proofs.Time.Calendar
import WalletAuth.Proofs.Time.Printed
import WalletAuth.Proofs.Json.Quote
import WalletAuth.Proofs.Session.Calls
import WalletAuth.Proofs.Session.Revocation
import WalletAuth.Proofs.Nonce.Teardown
import WalletAuth.Proofs.Challenge.Issuing
import WalletAuth.Proofs.Handshake.Completeness
