import HoprTypes.Lib.AbiCall
import HoprTypes.Primitive.Primitives
import HoprTypes.Crypto.Types
import HoprTypes.Crypto.Signing
import HoprTypes.Crypto.Vrf
import HoprTypes.Crypto.Instance
import HoprTypes.Internal.Announcement
import HoprTypes.Internal.Service
import HoprTypes.Internal.Path
import HoprTypes.Internal.Tickets
import HoprTypes.Internal.TicketCodec
import HoprTypes.Internal.TicketMachine
import HoprTypes.Internal.Protocol
import HoprTypes.Chain.Payload
import HoprTypes.Chain.Contracts
import HoprTypes.Chain.StaticBased
import HoprTypes.Chain.BindingsBased
import HoprTypes.Chain.StaticEncoding
import HoprTypes.Chain.Messages
import HoprTypes.Chain.BindingsMessages
import HoprTypes.Chain.CrossVerify
import HoprTypes.Lib.Rlp
import HoprTypes.Chain.Eip1559
import HoprTypes.Chain.SignedTransactions
import HoprTypes.Internal.Acknowledging
import HoprTypes.Crypto.VrfCompleteness
import HoprTypes.Crypto.PublicKeys
import HoprTypes.Primitive.HexText
import HoprTypes.Crypto.Lioness
import HoprTypes.Crypto.Bn254
import HoprTypes.Lib.Interleaving
import HoprTypes.Telemetry.Gauges
import HoprTypes.Lib.Decimal
import HoprTypes.Lib.Regex
import HoprTypes.Primitive.BalanceText
import HoprTypes.Keypair.Keystore
import HoprTypes.Keypair.KeyPair
import HoprTypes.Keypair.Migration
import HoprTypes.Chain.Parser
import HoprTypes.Chain.ParserInverse
import HoprTypes.Chain.ContractView
import HoprTypes.Chain.NativeWithdrawals
import HoprTypes.Internal.BatchEntries
import HoprTypes.Internal.Routing
import HoprTypes.Lib.Binary64
import HoprTypes.Primitive.Floats
import HoprTypes.Internal.WinningProbability
import HoprTypes.Internal.ChannelDiff
import HoprTypes.Internal.SortOrder
import HoprTypes.Internal.Decapsulation
import HoprTypes.Lib.AddressText
import HoprTypes.Network.Types
import HoprTypes.Internal.ServiceNames
import HoprTypes.Crypto.Sec1
import HoprTypes.Lib.Windows
import HoprTypes.Crypto.VrfCodec
import HoprTypes.Crypto.VrfBinding
import HoprTypes.Crypto.BabyJubjub
import HoprTypes.Keypair.ReadKeystore
import HoprTypes.Crypto.CompactSignature
import HoprTypes.Crypto.PixAddress
import HoprTypes.Lib.RankedTable
import HoprTypes.Telemetry.PrefixProviders
import HoprTypes.Crypto.PeerIds
import HoprTypes.Primitive.BalanceParsing
import HoprTypes.Primitive.BaseUnits
import HoprTypes.Internal.Recipient
import HoprTypes.Chain.SameCall
import HoprTypes.Lib.ShortCurve
import HoprTypes.Crypto.Bn254Group
import HoprTypes.Crypto.Bn254Keypair
import HoprTypes.Crypto.Curvy
import HoprTypes.Internal.SenderIds
import HoprTypes.Crypto.BatchConversion
import HoprTypes.Crypto.RandomKeys
import HoprTypes.Crypto.OffchainSigning
import HoprTypes.Internal.Builders
import HoprTypes.Internal.Lottery
import HoprTypes.Internal.NodeIds
import HoprTypes.Keypair.PrivateKeyText
import HoprTypes.Keypair.Starts
import HoprTypes.Lib.Guarded
import HoprTypes.Primitive.HexDisplay
import HoprTypes.Telemetry.Counters
import HoprTypes.Telemetry.Guards
import HoprTypes.Telemetry.MetricState
import HoprTypes.Chain.AnnouncedBindings
import HoprTypes.Chain.ParserSound
import HoprTypes.Internal.Relaying
import HoprTypes.Lib.Clamped
import HoprTypes.Primitive.BalanceArithmetic
import HoprTypes.Chain.SignedObjects
import HoprTypes.Crypto.MontgomeryScalar
import HoprTypes.Crypto.Pseudonyms
import HoprTypes.Internal.Routes
import HoprTypes.Internal.TicketRuns
import HoprTypes.Internal.ChannelClosure
import HoprTypes.Internal.TicketPrices
