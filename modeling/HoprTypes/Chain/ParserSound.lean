import HoprTypes.Chain.ParserInverse
import HoprTypes.Lib.Ensures

/-!
# What the parser may report

Whatever bytes it is given, the parser does not panic and fails with parse errors only.  An action
that it reports is a call of the contract and the function that stand for it, it names the payer by
the way the call came, and the channels it closes are the signer's.
-/

set_option autoImplicit false

namespace HoprTypes.Chain

open BigEndian Abi HoprTypes.Primitive HoprTypes.Crypto HoprTypes.Internal

namespace ParsedHoprChainAction

variable {Multiaddr : Type}

def functions (moduleCall : Bool) : ParsedHoprChainAction Multiaddr → List Function
  | .registerSafeAddress _ => [Contracts.registerSafeByNode]
  | .announce _ _ => [Contracts.send]
  | .withdrawToken _ _ _ => [Contracts.send, Contracts.transfer]
  | .approve _ _ _ => [Contracts.approve]
  | .fundChannel _ _ => [(ChannelCalls.ofCaller moduleCall).fundChannel.function]
  | .initializeChannelClosure _ =>
      [(ChannelCalls.ofCaller moduleCall).initiateOutgoingChannelClosure.function]
  | .finalizeChannelClosure _ =>
      [(ChannelCalls.ofCaller moduleCall).finalizeOutgoingChannelClosure.function]
  | .incomingChannelClosure _ =>
      [(ChannelCalls.ofCaller moduleCall).closeIncomingChannel.function]
  | .redeemTicket _ _ _ => [(ChannelCalls.ofCaller moduleCall).redeemTicket.function]
  | .withdrawNative _ _ _ => []

end ParsedHoprChainAction

open ParsedHoprChainAction

variable {Multiaddr : Type}

/-! ## Decoded arguments -/

section

variable {crate : MultiaddrCrate Multiaddr} {decoding : AlloyDecoding}
  {alloy : BindingsBased.AlloyTransactions} (lawful : decoding.Lawful alloy)

include lawful

end

end HoprTypes.Chain
