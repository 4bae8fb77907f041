import Iso21177.Lib.Calendar
import Iso21177.Lib.Call
import Iso21177.Lib.Heap
import Iso21177.Lib.RefCount
import Iso21177.Lib.Packet
import Iso21177.Lib.Memory
import Iso21177.Lib.Run
import Iso21177.Lib.Interleave
import Iso21177.Lib.Transfer
import Iso21177.Lib.Thin
import Iso21177.Ssl.State
import Iso21177.Ssl.Env
import Iso21177.Ssl.Frame
import Iso21177.Ssl.SecEnt
import Iso21177.Ssl.CertType
import Iso21177.Ssl.TypeGrammar
import Iso21177.Ssl.Extensions
import Iso21177.Ssl.ExtTable
import Iso21177.Ssl.Config
import Iso21177.Ssl.FailedConfig
import Iso21177.Ssl.Sigalg
import Iso21177.Ssl.Certificate
import Iso21177.Ssl.CertVerify
import Iso21177.Ssl.VerifyRequest
import Iso21177.Ssl.Hello
import Iso21177.Ssl.Decision
import Iso21177.Ssl.Offer
import Iso21177.Ssl.Transition
import Iso21177.Ssl.Statem
import Iso21177.Ssl.StatemFrame
import Iso21177.Ssl.PeerCert
import Iso21177.Ssl.ClientAuth
import Iso21177.Ssl.PeerBinding
import Iso21177.Ssl.PeerReport
import Iso21177.Ssl.Downgrade
import Iso21177.Ssl.Inert
import Iso21177.Ssl.Agreement
import Iso21177.Ssl.CertList
import Iso21177.Ssl.OwnCertificate
import Iso21177.Ssl.VerifyFollows
import Iso21177.Ssl.OwnKind
import Iso21177.Ssl.OwnSignature
import Iso21177.Ssl.Quiet
import Iso21177.Ssl.Questions
import Iso21177.SecEnt.Socket
import Iso21177.SecEnt.Codec
import Iso21177.SecEnt.Exchange
import Iso21177.SecEnt.Request
import Iso21177.Ssl.World
import Iso21177.Ssl.Defined
import Iso21177.Ssl.CertMemory
import Iso21177.Ssl.Placed
import Iso21177.Ssl.Slots
import Iso21177.Ssl.InPlace
import Iso21177.Ssl.Safety
import Iso21177.Ssl.ClientHandshake
import Iso21177.Ssl.Armed
import Iso21177.SecEnt.Handlers
import Iso21177.SecEnt.Fields
import Iso21177.SecEnt.Validity
import Iso21177.SecEnt.Identity
import Iso21177.SecEnt.Chain
import Iso21177.Client.Headers
import Iso21177.Client.Split
import Iso21177.Client.Status
import Iso21177.Client.Grant
import Iso21177.Client.HttpGet
import Iso21177.Client.Send
import Iso21177.Client.Gate
import Iso21177.Client.Body
import Iso21177.Client.Outcome
import Iso21177.Client.Connection
import Iso21177.Log.FileLogger
import Iso21177.App.TripSummary
import Iso21177.App.SspText
import Iso21177.Lib.Turns
import Iso21177.Ssl.Dialogue
import Iso21177.Ssl.Spoken
import Iso21177.Ssl.Hearing
import Iso21177.Ssl.Saying
import Iso21177.Ssl.Speaks
import Iso21177.Ssl.Ends
import Iso21177.Ssl.Network
