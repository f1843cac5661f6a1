import Forcerelay.Chain
import Mathlib.Logic.Function.Defs
import Mathlib.Data.List.Forall2

/-!
# Sending messages to the IBC handler

`send_message` takes a protocol message (`Any`), converts it into a call of the IBC handler
contract, submits it, awaits the receipt and recovers the event the call emitted. It is two
`match`es on the message's type URL: the first picks the handler method (`convert!`), the
second the event to look for in the receipt. A `timeout` has no handler method of its own and is
sent to `recv_packet` with the timeout's packet, proofs and signer. `update_client` has an arm in
the second `match` only, so the first one rejects it.

The ledger is an oracle that answers each `send()` and each awaited receipt given the calls
sent before, and the model keeps the log of the calls handed to `send()`. Results:
`sendMessage_spec` (which call is sent, and exactly when and what `Ok` is returned) and
`sendMessagesAndWaitCommit_spec` (a batch is sent in order, stops at the first failure, and its
events are the ones `send_message` recovered). `sendMessagesAndWaitCommit_log` says what a batch
leaves in the log: the converted calls of a sublist of its messages (`CallsOfMessages`).
-/

namespace Forcerelay

/-- `google::protobuf::Any`. -/
structure Any where
  typeUrl : String
  value : List UInt8
  deriving DecidableEq, Repr

/-- The message types `send_message` names, one per `TYPE_URL` constant. -/
inductive MsgType where
  | createClient | updateClient
  | connOpenInit | connOpenTry | connOpenAck | connOpenConfirm
  | chanOpenInit | chanOpenTry | chanOpenAck | chanOpenConfirm | chanCloseInit | chanCloseConfirm
  | recvPacket | acknowledgement | timeout
  deriving DecidableEq, Repr

/-- The methods of the IBC handler that `send_message` calls. -/
inductive ContractMethod where
  | createClient
  | connectionOpenInit | connectionOpenTry | connectionOpenAck | connectionOpenConfirm
  | channelOpenInit | channelOpenTry | channelOpenAck | channelOpenConfirm
  | channelCloseInit | channelCloseConfirm
  | recvPacket | acknowledgePacket
  deriving DecidableEq, Repr

/-- A call of the handler: the method and its ABI-encoded argument. -/
structure ContractCall where
  method : ContractMethod
  msg : List UInt8
  deriving DecidableEq, Repr

/-- `timeout::MsgTimeout`, with its fields kept encoded. -/
structure MsgTimeout where
  packet : List UInt8
  nextSequenceRecv : UInt64
  proofs : List UInt8
  signer : String
  deriving DecidableEq, Repr

/-- `recv_packet::MsgRecvPacket`. -/
structure MsgRecvPacket where
  packet : List UInt8
  proofs : List UInt8
  signer : String
  deriving DecidableEq, Repr

/-- The constants, conversions and error helpers of other crates that `send_message` uses: the
`TYPE_URL`s (distinct strings), the `TryFrom<Any>` conversions into the handler's call structs,
`MsgTimeout::from_any` and `MsgUpdateClient::from_any` (failing with the text of the decode
error), `MsgRecvPacket`'s `into`, `Bytes`' `FromStr`, `decode_revert_error`, `convert_err`,
the text `?` gives an `Error` as an `eyre::Report`, and `hex::encode`. -/
structure MsgBindings where
  typeUrl : MsgType → String
  typeUrl_injective : Function.Injective typeUrl
  tryInto : MsgType → Any → Except Error (List UInt8)
  timeoutFromAny : Any → Except String MsgTimeout
  updateClientIdFromAny : Any → Except String String
  recvPacketInto : MsgRecvPacket → List UInt8
  parseBytes : String → Except String (List UInt8)
  decodeRevertError : String → String
  convertErr : String → Error
  reportOfError : Error → String
  hexEncode : H256 → String

/-- The ledger as the endpoint's calls meet it. `send sent call` answers `.send().await` for
`call` after the calls `sent`, with the text of the contract error; `receipt sent call` answers
awaiting the pending transaction (`None` when it was dropped). -/
structure Ledger where
  send : List ContractCall → ContractCall → Except String Unit
  receipt : List ContractCall → ContractCall → Except String (Option TransactionReceipt)

section
variable (mb : MsgBindings) (eb : EventBindings) (ledger : Ledger) (chain : AxonChain)

/-- The type of a URL among the arms `arms` of a `match`, tried in order. -/
def MsgBindings.msgTypeOf (arms : List MsgType) (url : String) : Option MsgType :=
  arms.find? fun t => mb.typeUrl t = url

/-- The arms of the first `match` of `send_message`. -/
def dispatchArms : List MsgType :=
  [.createClient, .connOpenInit, .connOpenTry, .connOpenAck, .connOpenConfirm, .chanOpenInit,
    .chanOpenTry, .chanOpenAck, .chanOpenConfirm, .chanCloseInit, .chanCloseConfirm, .recvPacket,
    .acknowledgement, .timeout]

/-- The arms of the second `match` of `send_message`. -/
def eventArms : List MsgType :=
  [.createClient, .updateClient, .connOpenInit, .connOpenTry, .connOpenAck, .connOpenConfirm,
    .chanOpenInit, .chanOpenTry, .chanOpenAck, .chanOpenConfirm, .chanCloseInit,
    .chanCloseConfirm, .recvPacket, .timeout, .acknowledgement]

/-- The `async` block of `convert!` (and of the `timeout` arm): the handler signs `call` and
sends it, and the pending transaction is awaited. It fails with an `eyre::Report`, kept as its
text; `revert` is what the arm maps a send error with. A call handed to `send()` is logged. -/
def submitCall (call : ContractCall) (revert : String → String) (sent : List ContractCall) :
    Except String (Option TransactionReceipt) × List ContractCall :=
  match chain.contract with
  | .error e => (.error (mb.reportOfError e), sent)
  | .ok _ =>
    (match ledger.send sent call with
      | .error e => .error (revert e)
      | .ok () => ledger.receipt sent call, sent ++ [call])

/-- `convert!($self, $msg, $eventy, $method)`: `$msg.try_into()?`, then `submitCall`. -/
def convert (t : MsgType) (method : ContractMethod) (message : Any) (sent : List ContractCall) :
    Except Error (Except String (Option TransactionReceipt)) × List ContractCall :=
  match mb.tryInto t message with
  | .error e => (.error e, sent)
  | .ok msg =>
    let r := submitCall mb ledger chain ⟨method, msg⟩ mb.decodeRevertError sent
    (.ok r.1, r.2)

/-- The first `match` of `send_message`: the receipt of the submitted call, or an `Err` returned
before anything is sent. -/
def submitMessage (message : Any) (sent : List ContractCall) :
    Except Error (Except String (Option TransactionReceipt)) × List ContractCall :=
  match mb.msgTypeOf dispatchArms message.typeUrl with
  | some .createClient => convert mb ledger chain .createClient .createClient message sent
  | some .connOpenInit => convert mb ledger chain .connOpenInit .connectionOpenInit message sent
  | some .connOpenTry => convert mb ledger chain .connOpenTry .connectionOpenTry message sent
  | some .connOpenAck => convert mb ledger chain .connOpenAck .connectionOpenAck message sent
  | some .connOpenConfirm =>
    convert mb ledger chain .connOpenConfirm .connectionOpenConfirm message sent
  | some .chanOpenInit => convert mb ledger chain .chanOpenInit .channelOpenInit message sent
  | some .chanOpenTry => convert mb ledger chain .chanOpenTry .channelOpenTry message sent
  | some .chanOpenAck => convert mb ledger chain .chanOpenAck .channelOpenAck message sent
  | some .chanOpenConfirm =>
    convert mb ledger chain .chanOpenConfirm .channelOpenConfirm message sent
  | some .chanCloseInit => convert mb ledger chain .chanCloseInit .channelCloseInit message sent
  | some .chanCloseConfirm =>
    convert mb ledger chain .chanCloseConfirm .channelCloseConfirm message sent
  | some .recvPacket => convert mb ledger chain .recvPacket .recvPacket message sent
  | some .acknowledgement =>
    convert mb ledger chain .acknowledgement .acknowledgePacket message sent
  | some .timeout =>
    match mb.timeoutFromAny message with
    | .error e => (.error (.protobufDecode (mb.typeUrl .timeout) e), sent)
    | .ok m =>
      let r := submitCall mb ledger chain ⟨.recvPacket, mb.recvPacketInto ⟨m.packet, m.proofs, m.signer⟩⟩
        id sent
      (.ok r.1, r.2)
  | _ => (.error (.otherError s!"non-support message type url: {message.typeUrl}"), sent)

/-- `matches!(event, Ok(V(_)))` for the variant `k`. -/
def isOkOf (k : HandlerEventKind) : Except String OwnableIBCHandlerEvents → Bool
  | .ok event => event.kind == k
  | .error _ => false

/-- The second `match` of `send_message`: the first decoded log of the receipt of the variant
the message type expects. -/
def findEvent (message : Any) (logs : List Log) :
    Except Fault (Option (Except String OwnableIBCHandlerEvents)) :=
  let events := logs.map fun log => eb.decodeLog log.toRawLog
  let find (k : HandlerEventKind) := pure (events.find? (isOkOf k))
  match mb.msgTypeOf eventArms message.typeUrl with
  | some .createClient => find .createClient
  | some .updateClient =>
    match mb.updateClientIdFromAny message with
    | .error e => throw (.err (.sendTx s!"fail to decode MsgUpdateClient {e}"))
    | .ok clientId => do
      let clientMessage ← unwrap (mb.parseBytes "update client")
      pure (some (.ok (.updateClientFilter clientId clientMessage)))
  | some .connOpenInit => find .openInitConnection
  | some .connOpenTry => find .openTryConnection
  | some .connOpenAck => find .openAckConnection
  | some .connOpenConfirm => find .openConfirmConnection
  | some .chanOpenInit => find .openInitChannel
  | some .chanOpenTry => find .openTryChannel
  | some .chanOpenAck => find .openAckChannel
  | some .chanOpenConfirm => find .openConfirmChannel
  | some .chanCloseInit => find .closeInitChannel
  | some .chanCloseConfirm => find .closeConfirmChannel
  | some .recvPacket | some .timeout => find .receivePacket
  | some .acknowledgement => find .acknowledgePacket
  | none => throw (.err (.sendTx s!"non-support message type url: {message.typeUrl}"))

/-- The rest of `send_message`, from the receipt the first `match` gave: the event of the
receipt's first matching log, at the receipt's block, with its transaction hash. -/
def recoverEvent (message : Any)
    (submitted : Except Error (Except String (Option TransactionReceipt))) :
    Except Fault IbcEventWithHeight := do
  let txReceipt ← liftM submitted
  let txReceipt ← mapErr txReceipt mb.convertErr
  let txReceipt ← okOr txReceipt (.sendTx "fail to send tx")
  let found ← findEvent mb eb message txReceipt.logs
  let found ← okOr found (.sendTx "not find right event from Axon transaction receipt.")
  let event ← unwrap found
  let txHash := txReceipt.transactionHash
  let blockHeight ←
    okOr txReceipt.blockNumber (.sendTx s!"transaction {mb.hexEncode txHash} is still pending")
  pure ⟨eb.toIbcEvent event, .fromNoncosmosHeight blockHeight, txHash⟩

/-- `AxonChain::send_message`, with the log of the calls sent. -/
def sendMessage (message : Any) (sent : List ContractCall) :
    Except Fault IbcEventWithHeight × List ContractCall :=
  let r := submitMessage mb ledger chain message sent
  (recoverEvent mb eb message r.1, r.2)

/-- `send_messages_and_wait_commit`: `map(send_message)` collected into a `Result`, which stops
at the first `Err`. -/
def sendMessagesAndWaitCommit : List Any → List ContractCall →
    Except Fault (List IbcEventWithHeight) × List ContractCall
  | [], sent => (.ok [], sent)
  | message :: messages, sent =>
    match sendMessage mb eb ledger chain message sent with
    | (.error f, sent') => (.error f, sent')
    | (.ok e, sent') =>
      let r := sendMessagesAndWaitCommit messages sent'
      ((fun es => e :: es) <$> r.1, r.2)

/-- `tendermint::abci::Code`. -/
inductive Code where
  | ok
  | err (code : UInt32)
  deriving DecidableEq, Repr

/-- `broadcast::tx_sync::Response`. -/
structure Response where
  code : Code
  data : List UInt8
  log : String
  hash : H256
  deriving DecidableEq, Repr

/-- The response `send_messages_and_wait_check_tx` makes of an event, given the text
`event.to_string()`. -/
def responseOf (display : IbcEventWithHeight → String) (event : IbcEventWithHeight) : Response :=
  ⟨.ok, (display event).toUTF8.toList, "", event.txHash⟩

/-- `send_messages_and_wait_check_tx`. -/
def sendMessagesAndWaitCheckTx (display : IbcEventWithHeight → String) (messages : List Any)
    (sent : List ContractCall) : Except Fault (List Response) × List ContractCall :=
  let r := sendMessagesAndWaitCommit mb eb ledger chain messages sent
  ((·.map (responseOf display)) <$> r.1, r.2)

/-! ### What `send_message` does -/

/-- The handler method of the kind of a message type; a timeout is sent to `recv_packet`. -/
def MsgType.handlerMethod : MsgType → Option ContractMethod
  | .createClient => some .createClient
  | .updateClient => none
  | .connOpenInit => some .connectionOpenInit
  | .connOpenTry => some .connectionOpenTry
  | .connOpenAck => some .connectionOpenAck
  | .connOpenConfirm => some .connectionOpenConfirm
  | .chanOpenInit => some .channelOpenInit
  | .chanOpenTry => some .channelOpenTry
  | .chanOpenAck => some .channelOpenAck
  | .chanOpenConfirm => some .channelOpenConfirm
  | .chanCloseInit => some .channelCloseInit
  | .chanCloseConfirm => some .channelCloseConfirm
  | .recvPacket => some .recvPacket
  | .acknowledgement => some .acknowledgePacket
  | .timeout => some .recvPacket

/-- The handler event paired with a message type; a timeout expects `ReceivePacket`. -/
def MsgType.pairedEvent : MsgType → HandlerEventKind
  | .createClient => .createClient
  | .updateClient => .updateClient
  | .connOpenInit => .openInitConnection
  | .connOpenTry => .openTryConnection
  | .connOpenAck => .openAckConnection
  | .connOpenConfirm => .openConfirmConnection
  | .chanOpenInit => .openInitChannel
  | .chanOpenTry => .openTryChannel
  | .chanOpenAck => .openAckChannel
  | .chanOpenConfirm => .openConfirmChannel
  | .chanCloseInit => .closeInitChannel
  | .chanCloseConfirm => .closeConfirmChannel
  | .recvPacket | .timeout => .receivePacket
  | .acknowledgement => .acknowledgePacket

/-- The call a message of type `t` converts to, when it converts: `try_into` and the handler
method of its kind, or for a timeout `from_any` and a `recv_packet` call with the timeout's
packet, proofs and signer. -/
def MsgBindings.convertedCall (t : MsgType) (message : Any) : Option ContractCall :=
  if t = .timeout then
    (mb.timeoutFromAny message).toOption.map fun m =>
      ⟨.recvPacket, mb.recvPacketInto ⟨m.packet, m.proofs, m.signer⟩⟩
  else t.handlerMethod.bind fun method => (mb.tryInto t message).toOption.map (⟨method, ·⟩)

/-- The first log of `logs` that decodes to an event of the variant `k`. -/
def firstEventOf (k : HandlerEventKind) (logs : List Log) : Option OwnableIBCHandlerEvents :=
  logs.findSome? fun log =>
    match eb.decodeLog log.toRawLog with
    | .ok event => if event.kind = k then some event else none
    | .error _ => none

theorem msgTypeOf_eq_some {arms : List MsgType} {url : String} {t : MsgType}
    (h : mb.msgTypeOf arms url = some t) : t ∈ arms ∧ url = mb.typeUrl t :=
  ⟨List.mem_of_find?_eq_some h, by simpa [eq_comm] using List.find?_some h⟩

theorem msgTypeOf_typeUrl {arms : List MsgType} {t : MsgType} (ht : t ∈ arms) :
    mb.msgTypeOf arms (mb.typeUrl t) = some t := by
  cases h : mb.msgTypeOf arms (mb.typeUrl t) with
  | none => exact absurd (List.find?_eq_none.1 h t ht) (by simp)
  | some t' => rw [mb.typeUrl_injective (msgTypeOf_eq_some mb h).2]

theorem submitCall_sent (call : ContractCall) (revert : String → String) (sent : List ContractCall) :
    (submitCall mb ledger chain call revert sent).2 = sent ∨
      (submitCall mb ledger chain call revert sent).2 = sent ++ [call] := by
  unfold submitCall; split <;> simp

theorem submitCall_eq_ok_some (call : ContractCall) (revert : String → String)
    (sent : List ContractCall) (r : TransactionReceipt) :
    (submitCall mb ledger chain call revert sent).1 = .ok (some r) ↔
      (∃ w, chain.contract = .ok w) ∧ ledger.send sent call = .ok () ∧
        ledger.receipt sent call = .ok (some r) := by
  unfold submitCall
  split
  · simp_all
  · cases ledger.send sent call <;> simp_all

/-- A converted call goes to the handler method of its message type. -/
theorem handlerMethod_of_convertedCall {t : MsgType} {message : Any} {call : ContractCall}
    (hc : mb.convertedCall t message = some call) : t.handlerMethod = some call.method := by
  unfold MsgBindings.convertedCall at hc
  split at hc
  · subst t; obtain ⟨_, _, rfl⟩ := Option.map_eq_some'.1 hc; rfl
  · obtain ⟨method, hm, hc⟩ := Option.bind_eq_some.1 hc
    obtain ⟨_, _, rfl⟩ := Option.map_eq_some'.1 hc
    exact hm

theorem convert_cases (t : MsgType) (method : ContractMethod) (hm : t.handlerMethod = some method)
    (ht : t ≠ .timeout) (message : Any) (sent : List ContractCall) :
    (mb.convertedCall t message = none ∧
        ∃ e, convert mb ledger chain t method message sent = (.error e, sent)) ∨
      ∃ call, mb.convertedCall t message = some call ∧
        convert mb ledger chain t method message sent =
          (.ok (submitCall mb ledger chain call mb.decodeRevertError sent).1,
            (submitCall mb ledger chain call mb.decodeRevertError sent).2) := by
  simp only [convert, MsgBindings.convertedCall, if_neg ht, hm, Option.some_bind]
  cases mb.tryInto t message <;> simp [Except.toOption]

/-- The first `match`: a message of a dispatched type either does not convert and nothing is
sent, or converts and its call is submitted. -/
theorem submitMessage_cases {t : MsgType} (ht : t ∈ dispatchArms) (message : Any)
    (hurl : message.typeUrl = mb.typeUrl t) (sent : List ContractCall) :
    (mb.convertedCall t message = none ∧
        ∃ e, submitMessage mb ledger chain message sent = (.error e, sent)) ∨
      ∃ call revert, mb.convertedCall t message = some call ∧
        submitMessage mb ledger chain message sent =
          (.ok (submitCall mb ledger chain call revert sent).1,
            (submitCall mb ledger chain call revert sent).2) := by
  rw [submitMessage, hurl, msgTypeOf_typeUrl mb ht]
  cases t
  case updateClient => exact absurd ht (by decide)
  case timeout =>
    cases h : mb.timeoutFromAny message with
    | error e => exact .inl ⟨by simp [MsgBindings.convertedCall, h, Except.toOption], _, rfl⟩
    | ok m => exact .inr ⟨_, id, by simp [MsgBindings.convertedCall, h, Except.toOption], rfl⟩
  all_goals
    refine (convert_cases mb ledger chain _ _ ?_ ?_ message sent).imp id fun ⟨call, h⟩ => ⟨call, _, h⟩
    all_goals first | rfl | decide

theorem findEvent_eq {t : MsgType} (ht : t ∈ dispatchArms) (message : Any)
    (hurl : message.typeUrl = mb.typeUrl t) (logs : List Log) :
    findEvent mb eb message logs =
      .ok ((logs.map fun log => eb.decodeLog log.toRawLog).find? (isOkOf t.pairedEvent)) := by
  have he : t ∈ eventArms := by cases t <;> decide
  rw [findEvent, hurl, msgTypeOf_typeUrl mb he]
  cases t <;> first | rfl | exact absurd ht (by decide)

theorem find?_isOkOf (k : HandlerEventKind) :
    ∀ logs : List Log, (logs.map fun log => eb.decodeLog log.toRawLog).find? (isOkOf k) =
      (firstEventOf eb k logs).map .ok
  | [] => rfl
  | log :: logs => by
    rw [List.map_cons, List.find?_cons, firstEventOf, List.findSome?_cons, ← firstEventOf,
      find?_isOkOf k logs]
    cases eb.decodeLog log.toRawLog with
    | error => rfl
    | ok event =>
      by_cases hk : event.kind = k
      · simp [isOkOf, hk]
      · simp [isOkOf, hk, beq_eq_false_iff_ne.2 hk]

/-- The second half: `Ok` exactly for a mined receipt with a log of the paired variant. -/
theorem recoverEvent_eq_ok {t : MsgType} (ht : t ∈ dispatchArms) (message : Any)
    (hurl : message.typeUrl = mb.typeUrl t)
    (submitted : Except Error (Except String (Option TransactionReceipt))) (e : IbcEventWithHeight) :
    recoverEvent mb eb message submitted = .ok e ↔
      ∃ receipt n event, submitted = .ok (.ok (some receipt)) ∧ receipt.blockNumber = some n ∧
        firstEventOf eb t.pairedEvent receipt.logs = some event ∧
        e = ⟨eb.toIbcEvent event, .fromNoncosmosHeight n, receipt.transactionHash⟩ := by
  rcases submitted with _ | _ | _ | receipt
  · simp [recoverEvent]
  · simp [recoverEvent]
  · simp [recoverEvent]
  · simp only [recoverEvent, liftM_ok, mapErr_ok, ok_bind, okOr_some, findEvent_eq mb eb ht message hurl,
      find?_isOkOf]
    cases hf : firstEventOf eb t.pairedEvent receipt.logs <;>
      cases hn : receipt.blockNumber <;> simp [unwrap, hf, hn, eq_comm]

/-- For a message whose type URL is one `send_message` dispatches: at most one call is sent,
and it is the converted message, to the handler method of the message's kind (a timeout to
`recv_packet`). The result is `Ok(e)` exactly when the message converts, the call is signed,
sent and mined with a block number, and a log of the receipt decodes to the event paired with
the message's type; `e` is then the first such event, at the receipt's block, with its
transaction hash. -/
theorem sendMessage_spec {t : MsgType} (ht : t ∈ dispatchArms) (message : Any)
    (hurl : message.typeUrl = mb.typeUrl t) (sent : List ContractCall) :
    ((sendMessage mb eb ledger chain message sent).2 = sent ∨
      ∃ call, mb.convertedCall t message = some call ∧ t.handlerMethod = some call.method ∧
        (sendMessage mb eb ledger chain message sent).2 = sent ++ [call]) ∧
    ∀ e, (sendMessage mb eb ledger chain message sent).1 = .ok e ↔
      ∃ call receipt n event, mb.convertedCall t message = some call ∧
        (∃ w, chain.contract = .ok w) ∧ ledger.send sent call = .ok () ∧
        ledger.receipt sent call = .ok (some receipt) ∧ receipt.blockNumber = some n ∧
        firstEventOf eb t.pairedEvent receipt.logs = some event ∧
        e = ⟨eb.toIbcEvent event, .fromNoncosmosHeight n, receipt.transactionHash⟩ := by
  simp only [sendMessage, recoverEvent_eq_ok mb eb ht message hurl]
  rcases submitMessage_cases mb ledger chain ht message hurl sent with ⟨hnone, e, hsub⟩ | ⟨call, revert, hc, hsub⟩
  · simp [hsub, hnone]
  · rw [hsub]
    refine ⟨(submitCall_sent mb ledger chain call revert sent).imp_right fun h => ⟨call, hc, handlerMethod_of_convertedCall mb hc, h⟩,
      fun e => ?_⟩
    constructor
    · rintro ⟨receipt, n, event, hr, hrest⟩
      obtain ⟨hw, hs, hrc⟩ :=
        (submitCall_eq_ok_some mb ledger chain call revert sent receipt).1 (Except.ok.inj hr)
      exact ⟨call, receipt, n, event, hc, hw, hs, hrc, hrest⟩
    · rintro ⟨call', receipt, n, event, hc', hw, hs, hrc, hrest⟩
      obtain rfl : call' = call := Option.some.inj (hc'.symm.trans hc)
      exact ⟨receipt, n, event,
        congrArg _ ((submitCall_eq_ok_some mb ledger chain call' revert sent receipt).2 ⟨hw, hs, hrc⟩), hrest⟩

/-! ### Batches -/

/-- `SentInOrder messages sent events sent'`: `send_message` run on `messages` in order from the
log `sent` succeeds on each, returning `events`, and leaves the log `sent'`. -/
def SentInOrder :
    List Any → List ContractCall → List IbcEventWithHeight → List ContractCall → Prop
  | [], sent, events, sent' => events = [] ∧ sent' = sent
  | message :: messages, sent, events, sent' =>
    ∃ e sent₁ events', sendMessage mb eb ledger chain message sent = (.ok e, sent₁) ∧
      events = e :: events' ∧ SentInOrder messages sent₁ events' sent'

theorem SentInOrder.length_eq : ∀ {messages sent events sent'},
    SentInOrder mb eb ledger chain messages sent events sent' → events.length = messages.length
  | [], _, _, _, ⟨h, _⟩ => by rw [h]; rfl
  | _ :: _, _, _, _, ⟨_, _, _, _, h, hs⟩ => by rw [h, List.length_cons, hs.length_eq]; rfl

/-- A batch either succeeds on every message in order, or stops at its first failing message,
with the log the failing `send_message` left. -/
theorem sendMessagesAndWaitCommit_cases (messages : List Any) (sent : List ContractCall) :
    (∃ events sent', sendMessagesAndWaitCommit mb eb ledger chain messages sent = (.ok events, sent') ∧
        SentInOrder mb eb ledger chain messages sent events sent') ∨
    ∃ pre message post events sent₁ f sent₂, messages = pre ++ message :: post ∧
        SentInOrder mb eb ledger chain pre sent events sent₁ ∧
        sendMessage mb eb ledger chain message sent₁ = (.error f, sent₂) ∧
        sendMessagesAndWaitCommit mb eb ledger chain messages sent = (.error f, sent₂) := by
  induction messages generalizing sent with
  | nil => exact .inl ⟨[], sent, rfl, rfl, rfl⟩
  | cons m ms ih =>
    rcases h : sendMessage mb eb ledger chain m sent with ⟨f | e, sent₁⟩
    · exact .inr ⟨[], m, ms, [], sent, f, sent₁, rfl, ⟨rfl, rfl⟩, h,
        by simp [sendMessagesAndWaitCommit, h]⟩
    · rcases ih sent₁ with ⟨events, sent', hc, hs⟩ | ⟨pre, m', post, events, s₁, f, s₂, rfl, hs, hm, hc⟩
      · exact .inl ⟨e :: events, sent', by simp [sendMessagesAndWaitCommit, h, hc],
          e, sent₁, events, h, rfl, hs⟩
      · exact .inr ⟨m :: pre, m', post, e :: events, s₁, f, s₂, rfl, ⟨e, sent₁, events, h, rfl, hs⟩,
          hm, by simp [sendMessagesAndWaitCommit, h, hc]⟩

/-- `send_messages_and_wait_commit` sends the messages in order through `send_message`. Either
every one succeeds, and it returns one event per message, the one `send_message` recovered for
it, and `send_messages_and_wait_check_tx` one `Ok` response per event, with its transaction hash;
or both return the error of the first message that fails, and the log ends with that message's
call: nothing after it is sent. -/
theorem sendMessagesAndWaitCommit_spec (display : IbcEventWithHeight → String)
    (messages : List Any) (sent : List ContractCall) :
    (∃ events sent', sendMessagesAndWaitCommit mb eb ledger chain messages sent = (.ok events, sent') ∧
        SentInOrder mb eb ledger chain messages sent events sent' ∧
        events.length = messages.length ∧
        ∃ responses, sendMessagesAndWaitCheckTx mb eb ledger chain display messages sent =
            (.ok responses, sent') ∧
          List.Forall₂ (fun r e => r.code = .ok ∧ r.hash = e.txHash) responses events) ∨
    ∃ pre message post events sent₁ f sent₂, messages = pre ++ message :: post ∧
        SentInOrder mb eb ledger chain pre sent events sent₁ ∧
        sendMessage mb eb ledger chain message sent₁ = (.error f, sent₂) ∧
        sendMessagesAndWaitCommit mb eb ledger chain messages sent = (.error f, sent₂) ∧
        sendMessagesAndWaitCheckTx mb eb ledger chain display messages sent = (.error f, sent₂) := by
  rcases sendMessagesAndWaitCommit_cases mb eb ledger chain messages sent with
    ⟨events, sent', hc, hs⟩ | ⟨pre, m, post, events, s₁, f, s₂, hsplit, hs, hm, hc⟩
  · refine .inl ⟨events, sent', hc, hs, hs.length_eq, events.map (responseOf display),
      by simp [sendMessagesAndWaitCheckTx, hc], ?_⟩
    exact List.forall₂_map_left_iff.2 (List.forall₂_same.2 fun _ _ => ⟨rfl, rfl⟩)
  · exact .inr ⟨pre, m, post, events, s₁, f, s₂, hsplit, hs, hm, hc,
      by simp [sendMessagesAndWaitCheckTx, hc]⟩

/-! ### What reaches the ledger -/

/-- `calls` are the converted calls of a sublist of `messages`: each call is the converted call
of its message, whose type `send_message` dispatches, to the handler method of that type, in the
messages' order, and each message gives at most one call. -/
def CallsOfMessages (messages : List Any) (calls : List ContractCall) : Prop :=
  ∃ sends : List (Any × ContractCall), (sends.map Prod.fst).Sublist messages ∧
    (∀ s ∈ sends, ∃ t ∈ dispatchArms, s.1.typeUrl = mb.typeUrl t ∧
      mb.convertedCall t s.1 = some s.2 ∧ t.handlerMethod = some s.2.method) ∧
    sends.map Prod.snd = calls

namespace CallsOfMessages
variable {mb}

theorem nil (messages : List Any) : CallsOfMessages mb messages [] :=
  ⟨[], List.nil_sublist _, nofun, rfl⟩

theorem append {ms ms' : List Any} {cs cs' : List ContractCall} (h : CallsOfMessages mb ms cs)
    (h' : CallsOfMessages mb ms' cs') : CallsOfMessages mb (ms ++ ms') (cs ++ cs') := by
  obtain ⟨s, hs, hc, rfl⟩ := h
  obtain ⟨s', hs', hc', rfl⟩ := h'
  refine ⟨s ++ s', by simpa using hs.append hs', fun x hx => ?_, by simp⟩
  exact (List.mem_append.1 hx).elim (hc x) (hc' x)

end CallsOfMessages

/-- A `send_message` hands at most one call to the ledger: the converted call of the message,
when its type is one `send_message` dispatches. -/
theorem sendMessage_log (message : Any) (sent : List ContractCall) :
    ∃ calls, (sendMessage mb eb ledger chain message sent).2 = sent ++ calls ∧
      CallsOfMessages mb [message] calls := by
  cases h : mb.msgTypeOf dispatchArms message.typeUrl with
  | none => exact ⟨[], by simp [sendMessage, submitMessage, h], .nil _⟩
  | some t =>
    obtain ⟨ht, hurl⟩ := msgTypeOf_eq_some mb h
    rcases submitMessage_cases mb ledger chain ht message hurl sent with
      ⟨-, e, hsub⟩ | ⟨call, revert, hc, hsub⟩
    · exact ⟨[], by simp [sendMessage, hsub], .nil _⟩
    · rcases submitCall_sent mb ledger chain call revert sent with hs | hs
      · exact ⟨[], by simp [sendMessage, hsub, hs], .nil _⟩
      · exact ⟨[call], by simp [sendMessage, hsub, hs],
          ⟨[(message, call)], List.Sublist.refl _,
            by simpa using ⟨t, ht, hurl, hc, handlerMethod_of_convertedCall mb hc⟩, rfl⟩⟩

/-- A batch hands the ledger the converted calls of a sublist of its messages, in order. -/
theorem sendMessagesAndWaitCommit_log : ∀ (messages : List Any) (sent : List ContractCall),
    ∃ calls, (sendMessagesAndWaitCommit mb eb ledger chain messages sent).2 = sent ++ calls ∧
      CallsOfMessages mb messages calls
  | [], sent => ⟨[], by simp [sendMessagesAndWaitCommit], .nil _⟩
  | m :: ms, sent => by
    obtain ⟨c, hc, hcm⟩ := sendMessage_log mb eb ledger chain m sent
    have hcons : CallsOfMessages mb (m :: ms) c := by simpa using hcm.append (.nil ms)
    rcases h : sendMessage mb eb ledger chain m sent with ⟨_ | e, sent₁⟩
    · rw [h] at hc
      exact ⟨c, by simpa [sendMessagesAndWaitCommit, h] using hc, hcons⟩
    · rw [h] at hc
      obtain ⟨cs, hcs, hcsm⟩ := sendMessagesAndWaitCommit_log ms sent₁
      refine ⟨c ++ cs, ?_, by simpa using hcm.append hcsm⟩
      simp only [sendMessagesAndWaitCommit, h, hcs, ← List.append_assoc, ← hc]

/-- A `send_message` that returns `Ok` handed the ledger exactly the converted call of its
message. -/
theorem sendMessage_log_of_ok {message : Any} {sent : List ContractCall} {e : IbcEventWithHeight}
    (h : (sendMessage mb eb ledger chain message sent).1 = .ok e) :
    ∃ t ∈ dispatchArms, ∃ call, message.typeUrl = mb.typeUrl t ∧
      mb.convertedCall t message = some call ∧ t.handlerMethod = some call.method ∧
      (sendMessage mb eb ledger chain message sent).2 = sent ++ [call] := by
  cases hty : mb.msgTypeOf dispatchArms message.typeUrl with
  | none => simp [sendMessage, submitMessage, hty, recoverEvent] at h
  | some t =>
    obtain ⟨ht, hurl⟩ := msgTypeOf_eq_some mb hty
    rcases submitMessage_cases mb ledger chain ht message hurl sent with
      ⟨-, f, hsub⟩ | ⟨call, revert, hc, hsub⟩
    · simp [sendMessage, hsub, recoverEvent] at h
    · rw [sendMessage, hsub, recoverEvent_eq_ok mb eb ht message hurl] at h
      obtain ⟨receipt, -, -, hr, -⟩ := h
      obtain ⟨⟨w, hw⟩, hs, -⟩ :=
        (submitCall_eq_ok_some mb ledger chain call revert sent receipt).1 (Except.ok.inj hr)
      exact ⟨t, ht, call, hurl, hc, handlerMethod_of_convertedCall mb hc,
        by simp [sendMessage, hsub, submitCall, hw, hs]⟩

/-- A run of `send_message` that succeeds on every message hands the ledger exactly one call per
message, in order: the converted call of each message, to the handler method of its type. -/
theorem SentInOrder.calls : ∀ {messages : List Any} {sent : List ContractCall}
    {events : List IbcEventWithHeight} {sent' : List ContractCall},
    SentInOrder mb eb ledger chain messages sent events sent' →
      ∃ calls, sent' = sent ++ calls ∧ List.Forall₂ (fun m call => ∃ t ∈ dispatchArms,
        m.typeUrl = mb.typeUrl t ∧ mb.convertedCall t m = some call ∧
          t.handlerMethod = some call.method) messages calls
  | [], _, _, _, ⟨_, h⟩ => ⟨[], by simp [h], .nil⟩
  | _ :: _, _, _, _, ⟨_, sent₁, _, hm, _, hs⟩ => by
    obtain ⟨t, ht, call, hurl, hc, hmeth, hlog⟩ :=
      sendMessage_log_of_ok mb eb ledger chain (congrArg Prod.fst hm)
    obtain rfl : sent₁ = _ := (congrArg Prod.snd hm).symm.trans hlog
    obtain ⟨calls, rfl, hall⟩ := hs.calls
    exact ⟨call :: calls, by simp, .cons ⟨t, ht, hurl, hc, hmeth⟩ hall⟩

/-- A batch that returns `Ok` handed the ledger exactly one call per message, in order: the
converted call of each message, to the handler method of its type. -/
theorem sendMessagesAndWaitCommit_calls_of_ok : ∀ {messages : List Any}
    {sent sent' : List ContractCall} {events : List IbcEventWithHeight},
    sendMessagesAndWaitCommit mb eb ledger chain messages sent = (.ok events, sent') →
      ∃ calls, sent' = sent ++ calls ∧ List.Forall₂ (fun m call => ∃ t ∈ dispatchArms,
        m.typeUrl = mb.typeUrl t ∧ mb.convertedCall t m = some call ∧
          t.handlerMethod = some call.method) messages calls := by
  intro messages sent sent' events h
  rcases sendMessagesAndWaitCommit_cases mb eb ledger chain messages sent with
    ⟨_, _, hc, hs⟩ | ⟨_, _, _, _, _, _, _, _, _, _, hc⟩
  · obtain ⟨-, rfl⟩ := Prod.mk.inj (h.symm.trans hc)
    exact hs.calls
  · cases h.symm.trans hc

end

/-! ### A run on sample bindings -/

/-- The `TYPE_URL`s of `ibc-relayer-types`. -/
def typeUrlOf : MsgType → String
  | .createClient => "/ibc.core.client.v1.MsgCreateClient"
  | .updateClient => "/ibc.core.client.v1.MsgUpdateClient"
  | .connOpenInit => "/ibc.core.connection.v1.MsgConnectionOpenInit"
  | .connOpenTry => "/ibc.core.connection.v1.MsgConnectionOpenTry"
  | .connOpenAck => "/ibc.core.connection.v1.MsgConnectionOpenAck"
  | .connOpenConfirm => "/ibc.core.connection.v1.MsgConnectionOpenConfirm"
  | .chanOpenInit => "/ibc.core.channel.v1.MsgChannelOpenInit"
  | .chanOpenTry => "/ibc.core.channel.v1.MsgChannelOpenTry"
  | .chanOpenAck => "/ibc.core.channel.v1.MsgChannelOpenAck"
  | .chanOpenConfirm => "/ibc.core.channel.v1.MsgChannelOpenConfirm"
  | .chanCloseInit => "/ibc.core.channel.v1.MsgChannelCloseInit"
  | .chanCloseConfirm => "/ibc.core.channel.v1.MsgChannelCloseConfirm"
  | .recvPacket => "/ibc.core.channel.v1.MsgRecvPacket"
  | .acknowledgement => "/ibc.core.channel.v1.MsgAcknowledgement"
  | .timeout => "/ibc.core.channel.v1.MsgTimeout"

theorem typeUrlOf_injective : Function.Injective typeUrlOf := by
  have hinv : ∀ t, eventArms.find? (typeUrlOf · = typeUrlOf t) = some t := by
    intro t; cases t <;> rfl
  intro a b h
  exact Option.some.inj ((hinv a).symm.trans (h ▸ hinv b))

/-- Bindings in which a message converts to its own bytes. -/
def sampleMsgBindings : MsgBindings where
  typeUrl := typeUrlOf
  typeUrl_injective := typeUrlOf_injective
  tryInto _ message := .ok message.value
  timeoutFromAny message := .ok ⟨message.value, 0, [], "relayer"⟩
  updateClientIdFromAny _ := .ok "07-axon-0"
  recvPacketInto m := m.packet
  parseBytes _ := .ok []
  decodeRevertError := id
  convertErr := .other
  reportOfError _ := "key not found"
  hexEncode h := toString h.val

/-- Bindings in which every log is a `CreateClient` event. -/
def sampleEventBindings : EventBindings :=
  ⟨fun _ => .ok (.createClientFilter []), fun _ _ _ => .ok none, fun _ => ⟨"create_client", []⟩⟩

/-- A ledger that mines every call in block 7, in transaction `9`, with one log. -/
def sampleLedger : Ledger :=
  ⟨fun _ _ => .ok (), fun _ _ => .ok (some ⟨⟨9⟩, some 7, [⟨⟨1⟩, [], [], some 7, some ⟨9⟩⟩]⟩)⟩

theorem sendMessage_spec_createClient :
    (sendMessage sampleMsgBindings sampleEventBindings sampleLedger sampleChain
        ⟨typeUrlOf .createClient, [1]⟩ []).1 = .ok ⟨⟨"create_client", []⟩, ⟨0, 7⟩, ⟨9⟩⟩ :=
  ((sendMessage_spec sampleMsgBindings sampleEventBindings sampleLedger sampleChain
      (show MsgType.createClient ∈ dispatchArms by decide) _ rfl []).2 _).2
    ⟨⟨.createClient, [1]⟩, _, 7, .createClientFilter [], rfl, ⟨_, rfl⟩, rfl, rfl, rfl, rfl, rfl⟩

theorem sendMessagesAndWaitCommit_calls_of_ok_twice :
    sendMessagesAndWaitCommit sampleMsgBindings sampleEventBindings sampleLedger sampleChain
        [⟨typeUrlOf .createClient, [1]⟩, ⟨typeUrlOf .createClient, [2]⟩] [] =
      (.ok [⟨⟨"create_client", []⟩, ⟨0, 7⟩, ⟨9⟩⟩, ⟨⟨"create_client", []⟩, ⟨0, 7⟩, ⟨9⟩⟩],
        [⟨.createClient, [1]⟩, ⟨.createClient, [2]⟩]) ∧
    ∃ calls, [⟨.createClient, [1]⟩, ⟨.createClient, [2]⟩] = [] ++ calls ∧
      List.Forall₂ (fun m call => ∃ t ∈ dispatchArms, m.typeUrl = sampleMsgBindings.typeUrl t ∧
          sampleMsgBindings.convertedCall t m = some call ∧ t.handlerMethod = some call.method)
        [⟨typeUrlOf .createClient, [1]⟩, ⟨typeUrlOf .createClient, [2]⟩] calls :=
  ⟨rfl, sendMessagesAndWaitCommit_calls_of_ok sampleMsgBindings sampleEventBindings sampleLedger
    sampleChain rfl⟩

end Forcerelay
