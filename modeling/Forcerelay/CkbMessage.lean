import Forcerelay.Dispatch

/-!
# Converting messages into CKB transactions

The CKB endpoint turns a protocol message into an unsigned CKB transaction with
`convert_msg_to_ckb_tx`: a `match` on the type URL whose thirteen arms decode the message
(`from_any`, an `Err` naming the URL when it fails) and hand it to the converter of its kind;
any other URL reaches `todo!()` and panics. Among the message types `send_message` of the Axon
endpoint accepts, `chan_close_confirm` and `timeout` have no arm here.

The decoders and the per-kind converters (`convert_create_client`, `convert_conn_open_init_to_tx`,
...), with the getters of `MsgToTxConverter` they call, are `CkbConverter`. A converter may
panic: the getters of `Converter` unwrap their cache lookups, and `get_key` is `todo!()`.
-/

namespace Forcerelay

/-- `CkbTxInfo`: the unsigned transaction, the envelope, the relayer's input capacity and the
event the transaction will emit, with the transaction and envelope kept encoded. -/
structure CkbTxInfo where
  unsignedTx : Option (List UInt8)
  envelope : List UInt8
  inputCapacity : UInt64
  event : Option IbcEvent
  deriving DecidableEq, Repr

/-- The decoders of `from_any` (failing with the text of the decode error) and the converters of
each kind, calling the getters of a `MsgToTxConverter`, which may panic. A decoded message is
kept encoded. -/
structure CkbConverter where
  fromAny : MsgType → Any → Except String (List UInt8)
  convert : MsgType → List UInt8 → Except Fault CkbTxInfo

/-- The arms of `convert_msg_to_ckb_tx`. -/
def ckbArms : List MsgType :=
  [.createClient, .updateClient, .connOpenInit, .connOpenTry, .connOpenAck, .connOpenConfirm,
    .chanOpenInit, .chanOpenTry, .chanOpenAck, .chanOpenConfirm, .chanCloseInit, .recvPacket,
    .acknowledgement]

section
variable (mb : MsgBindings) (cv : CkbConverter)

/-- `convert!($msg, $conval, $msgty, $conv)`: decode, then convert. -/
def ckbConvert (t : MsgType) (msg : Any) : Except Fault CkbTxInfo := do
  let decoded ← mapErr (cv.fromAny t msg) (Error.protobufDecode msg.typeUrl)
  cv.convert t decoded

/-- `convert_msg_to_ckb_tx`: each arm converts the message with its own type's decoder and
converter; any other URL reaches `todo!()`. -/
def convertMsgToCkbTx (msg : Any) : Except Fault CkbTxInfo :=
  match mb.msgTypeOf ckbArms msg.typeUrl with
  | some t => ckbConvert cv t msg
  | none => .error (.panic "not yet implemented")

end

end Forcerelay
