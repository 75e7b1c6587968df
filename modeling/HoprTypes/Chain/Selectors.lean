import HoprTypes.Chain.Contracts
import HoprTypes.Chain.StaticBased

/-!
# Hardcoded selectors

The static generators write selectors as constants.  Each is the hash of the
signature of the function it stands for.
-/

set_option autoImplicit false

namespace HoprTypes.Chain.StaticBased.Selectors

open BigEndian Abi

def table : List (FixedBytes 4 × Function) :=
  [(approve, Contracts.approve), (transfer, Contracts.transfer), (send, Contracts.send),
    (registerSafeByNode, Contracts.registerSafeByNode),
    (deregisterNodeBySafe, Contracts.deregisterNodeBySafe),
    (selfRegister, Contracts.selfRegister), (selfUpdate, Contracts.selfUpdate),
    (selfDeregister, Contracts.selfDeregister), (multiSend, Contracts.multiSend),
    (execTransactionFromModule, Contracts.execTransactionFromModule),
    (fundChannel, Contracts.fundChannel), (fundChannelSafe, Contracts.fundChannelSafe),
    (closeIncomingChannel, Contracts.closeIncomingChannel),
    (closeIncomingChannelSafe, Contracts.closeIncomingChannelSafe),
    (initiateOutgoingChannelClosure, Contracts.initiateOutgoingChannelClosure),
    (initiateOutgoingChannelClosureSafe, Contracts.initiateOutgoingChannelClosureSafe),
    (finalizeOutgoingChannelClosure, Contracts.finalizeOutgoingChannelClosure),
    (finalizeOutgoingChannelClosureSafe, Contracts.finalizeOutgoingChannelClosureSafe),
    (redeemTicket, Contracts.redeemTicket), (redeemTicketSafe, Contracts.redeemTicketSafe)]

theorem table_exact : ∀ entry ∈ table, entry.1 = entry.2.selector := by
  -- One hash at a time: the kernel keeps what it reduced until a declaration is checked.
  simp only [table, List.forall_mem_cons]
  and_intros <;> decide +kernel

theorem selector_of_mem {constant : FixedBytes 4} {function : Function}
    (member : (constant, function) ∈ table) : constant = function.selector :=
  table_exact (constant, function) member

theorem table_injective : (table.map Prod.fst).Nodup := by decide +kernel

def functions : List Function := table.map Prod.snd

theorem selector_ne {left right : Function} (leftKnown : left ∈ functions)
    (rightKnown : right ∈ functions) (different : left.name ≠ right.name) :
    left.selector ≠ right.selector := by
  obtain ⟨leftEntry, leftMember, rfl⟩ := List.mem_map.mp leftKnown
  obtain ⟨rightEntry, rightMember, rfl⟩ := List.mem_map.mp rightKnown
  intro same
  rw [← table_exact leftEntry leftMember, ← table_exact rightEntry rightMember] at same
  have entries := List.inj_on_of_nodup_map table_injective leftMember rightMember same
  exact different (congrArg (fun entry => entry.2.name) entries)

end HoprTypes.Chain.StaticBased.Selectors
