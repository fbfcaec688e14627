import HttpExchange.Exchange.Scenario
import HttpExchange.Network
import HttpExchange.Proofs.Agreement
import HttpExchange.Proofs.Isolation
import HttpExchange.Proofs.Options.RoundTrip
import HttpExchange.Proofs.Outcome.Conversion
import HttpExchange.Proofs.Pending
import HttpExchange.Proofs.Progress
import HttpExchange.Proofs.Resolution
import HttpExchange.Proofs.Server.Put
import HttpExchange.Proofs.Server.Query
import HttpExchange.Proofs.Server.RoundTrip
import HttpExchange.Proofs.Streaming
import HttpExchange.Proofs.Transport
import HttpExchange.Proofs.Upload.Cutting
import HttpExchange.Proofs.Wakes
import HttpExchange.Proofs.Window
