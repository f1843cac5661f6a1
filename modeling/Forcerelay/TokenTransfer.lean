import Forcerelay.Events
import Forcerelay.IbcGoDenom

/-!
# The test framework's token transfer

`ibc_token_transfer` (`tools/test-framework/src/relayer/axon/transfer.rs`) is how the
integration tests start a transfer on Axon. It reads the deployed contracts, approves the
transfer contract to move the tokens (`ERC20::approve`), calls `sendTransfer`, and reads the
sent packet back from the receipt's handler logs with `fetch_all_ibc_events_from_tx_logs`.

The node, the deployed-contracts file and the ledger are `TransferEnv`; as for `send_message`
the ledger answers each call given the calls sent before, and the model keeps the log of the
calls handed to `send()`. `transferPlan` is everything computed before the first transaction.

The result: `ibcTokenTransfer_packet_queryTxs` (the packet a successful transfer returns is the
first `SendPacket` among the events the relayer's `query_txs` reads for the same transaction).
-/

namespace Forcerelay

/-- `std::time::Duration`. -/
structure Duration where
  secs : UInt64
  nanos : UInt32
  deriving DecidableEq, Repr

/-- `DeployedContracts`, as `deployed_contracts.toml` gives them. -/
structure DeployedContracts where
  contractAddress : Address
  transferContractAddress : Address
  deriving DecidableEq, Repr

/-- `ibc_relayer_types::core::ics04_channel::packet::Packet`, kept encoded. -/
structure Packet where
  value : List UInt8
  deriving DecidableEq, Repr

/-- The calls the transfer sends: `ERC20::approve(spender, amount)` on the token, and
`TransferContract::sendTransfer(denom, amount, receiver, sourcePort, sourceChannel,
timeoutHeight)` on the transfer contract. -/
inductive TransferCall where
  | approve (token spender : Address) (amount : UInt64)
  | sendTransfer (contract : Address) (denom : String) (amount : UInt64) (receiver : Address)
      (sourcePort sourceChannel : String) (timeoutHeight : UInt64)
  deriving DecidableEq, Repr

/-- The arguments of `ibc_token_transfer`; the sender's key only signs, and the token is its
denom and its `U256` amount. -/
structure TransferRequest where
  websocketAddr : String
  homePath : String
  portId : String
  channelId : String
  recipient : String
  denom : String
  amount : Nat
  timeout : Option Duration
  deriving DecidableEq, Repr

/-- What `ibc_token_transfer` calls besides `fetch_all_ibc_events_from_tx_logs`:
`Provider::connect`, `read_deployed_contracts`, the node's `get_chainid` (the only call
`new_contract` and `new_erc20` can fail on; `getChainid k` answers the `k`-th request, from `0`,
with a `U256`), `hex::decode`, the message of the `assert_eq!` of `H160::from_slice` for a slice
of the given length, and `IbcEvent::SendPacket(ev) => ev.packet`. The ledger answers `send()` and
the awaited receipt given the calls sent before. Failures are the text of the error. -/
structure TransferEnv where
  connect : String → Except String Unit
  readDeployedContracts : String → Except String DeployedContracts
  getChainid : Nat → Except String Nat
  hexDecode : String → Except String (List UInt8)
  fromSliceFailed : Nat → String
  sendPacketOf : IbcEvent → Option Packet
  send : List TransferCall → TransferCall → Except String Unit
  receipt : List TransferCall → TransferCall → Except String (Option TransactionReceipt)

/-- What `ibc_token_transfer` has computed when it sends its first transaction. -/
structure TransferPlan where
  deployed : DeployedContracts
  receiver : Address
  amount : UInt64
  timeoutHeight : UInt64
  tokenAddress : Address
  deriving DecidableEq, Repr

/-- The approval of the plan: the transfer contract may move the amount of the token. -/
def TransferPlan.approveCall (plan : TransferPlan) : TransferCall :=
  .approve plan.tokenAddress plan.deployed.transferContractAddress plan.amount

/-- The `sendTransfer` call of the plan. -/
def TransferPlan.transferCall (plan : TransferPlan) (req : TransferRequest) : TransferCall :=
  .sendTransfer plan.deployed.transferContractAddress req.denom plan.amount plan.receiver
    req.portId req.channelId plan.timeoutHeight

section
variable (te : TransferEnv) (b : EventBindings)

/-- `H160::from_slice`, whose `assert_eq!` panics unless the slice has 20 bytes. -/
def h160FromSlice (bytes : List UInt8) : Except Fault Address :=
  if bytes.length = 20 then .ok ⟨bytes.foldl (fun a x => a * 256 + x.toNat) 0⟩
  else .error (.panic (te.fromSliceFailed bytes.length))

/-- `U256::as_u64`. -/
def asU64 (n : Nat) : Except Fault UInt64 :=
  if n < UInt64.size then .ok n.toUInt64 else .error (.panic "Integer overflow when casting to u64")

/-- `client.get_chainid().await?.as_u64()`, the `k`-th request for the chain id; the wallet
built with it only signs. -/
def chainIdOf (k : Nat) : Except Fault UInt64 := do
  let chainId ← mapErr (te.getChainid k) .other
  asU64 chainId

/-- `ibc_token_transfer` up to its first transaction: the node, the deployed contracts, the
transfer contract's signer (`new_contract`), the receiver, the amount, the timeout height, and
the token and its signer (`new_erc20`). -/
def transferPlan (req : TransferRequest) : Except Fault TransferPlan := do
  let _ ← mapErr (te.connect req.websocketAddr) .other
  let deployed ←
    expectOk (te.readDeployedContracts req.homePath) "failed to fetch deployed contracts"
  let _ ← chainIdOf te 0
  let slice ← mapErr (te.hexDecode (trimStartMatches req.recipient "0x")) .other
  let receiver ← h160FromSlice te slice
  let amount ← asU64 req.amount
  let timeoutHeight := (req.timeout.map fun d => d.secs / 8).getD 0
  let tokenBytes ← unwrap (te.hexDecode (trimStartMatches req.denom "0x"))
  let tokenAddress ← h160FromSlice te tokenBytes
  let _ ← chainIdOf te 1
  pure ⟨deployed, receiver, amount, timeoutHeight, tokenAddress⟩

/-- `tx.send().await`, then the pending transaction awaited. A call handed to `send()` is
logged. -/
def submitTransfer (call : TransferCall) (sent : List TransferCall) :
    Except String (Option TransactionReceipt) × List TransferCall :=
  match te.send sent call with
  | .error e => (.error e, sent)
  | .ok () => (te.receipt sent call, sent ++ [call])

/-- The approval's `send().await.unwrap()` and `pending_tx.await.unwrap().unwrap()`. -/
def approvalOutcome (approval : Except String (Option TransactionReceipt)) : Except Fault Unit := do
  let receipt ← unwrap approval
  let _ ← expect receipt "called `Option::unwrap()` on a `None` value"
  pure ()

/-- `ibc_token_transfer` from the awaited `sendTransfer`: the receipt, its block number, the
events of the handler's logs, and the packet of the first `SendPacket`. -/
def sentPacket (handler : Address) (submitted : Except String (Option TransactionReceipt)) :
    Except Fault Packet := do
  let receiptOpt ← mapErr submitted .other
  let receipt ← liftM (okOr receiptOpt (.other "axon send ibc transfer no receipt"))
  let blockNumber ← expect receipt.blockNumber "called `Option::unwrap()` on a `None` value"
  let ibcLogs := receipt.logs.filter fun log => log.address = handler
  let events ← fetchAllIbcEventsFromTxLogs b blockNumber receipt.transactionHash ibcLogs
  liftM (okOr (events.findSome? fun event => te.sendPacketOf event.event)
    (.other "failed to find send packet event"))

/-- `ibc_token_transfer`, with the log of the calls sent. -/
def ibcTokenTransfer (req : TransferRequest) (sent : List TransferCall) :
    Except Fault Packet × List TransferCall :=
  match transferPlan te req with
  | .error f => (.error f, sent)
  | .ok plan =>
    let approved := submitTransfer te plan.approveCall sent
    match approvalOutcome approved.1 with
    | .error f => (.error f, approved.2)
    | .ok () =>
      let transferred := submitTransfer te (plan.transferCall req) approved.2
      (sentPacket te b plan.deployed.contractAddress transferred.1, transferred.2)

/-! ### One lemma per step -/

theorem submitTransfer_of_send_ok {call : TransferCall} {sent : List TransferCall}
    (h : te.send sent call = .ok ()) :
    submitTransfer te call sent = (te.receipt sent call, sent ++ [call]) := by
  simp [submitTransfer, h]

theorem submitTransfer_of_send_error {call : TransferCall} {sent : List TransferCall} {e : String}
    (h : te.send sent call = .error e) : submitTransfer te call sent = (.error e, sent) := by
  simp [submitTransfer, h]

theorem approvalOutcome_eq_ok (approval : Except String (Option TransactionReceipt)) :
    approvalOutcome approval = .ok () ↔ ∃ receipt, approval = .ok (some receipt) := by
  rcases approval with _ | _ | receipt <;> simp [approvalOutcome, unwrap, pure, Except.pure]

theorem sentPacket_eq_ok (handler : Address) (submitted : Except String (Option TransactionReceipt))
    (packet : Packet) :
    sentPacket te b handler submitted = .ok packet ↔
      ∃ receipt n events, submitted = .ok (some receipt) ∧ receipt.blockNumber = some n ∧
        fetchAllIbcEventsFromTxLogs b n receipt.transactionHash
          (receipt.logs.filter fun log => log.address = handler) = .ok events ∧
        events.findSome? (fun event => te.sendPacketOf event.event) = some packet := by
  rcases submitted with _ | _ | receipt
  · simp [sentPacket]
  · simp [sentPacket]
  · cases hn : receipt.blockNumber <;> simp [sentPacket, hn, bind_eq_ok]

/-- `ibc_token_transfer` returns `Ok` exactly when the plan is computed, the approval is sent
and mined, the transfer is sent after it, and its receipt yields the packet. -/
theorem ibcTokenTransfer_eq_ok (req : TransferRequest) (sent : List TransferCall) (packet : Packet) :
    (ibcTokenTransfer te b req sent).1 = .ok packet ↔
      ∃ plan approval, transferPlan te req = .ok plan ∧
        te.send sent plan.approveCall = .ok () ∧
        te.receipt sent plan.approveCall = .ok (some approval) ∧
        te.send (sent ++ [plan.approveCall]) (plan.transferCall req) = .ok () ∧
        sentPacket te b plan.deployed.contractAddress
          (te.receipt (sent ++ [plan.approveCall]) (plan.transferCall req)) = .ok packet := by
  unfold ibcTokenTransfer
  cases hp : transferPlan te req with
  | error f => simp
  | ok plan =>
    simp only [Except.ok.injEq, exists_and_left, exists_eq_left']
    cases hs : te.send sent plan.approveCall with
    | error e => simp [submitTransfer_of_send_error te hs, approvalOutcome, unwrap]
    | ok u =>
      rw [submitTransfer_of_send_ok te hs]
      cases ha : approvalOutcome (te.receipt sent plan.approveCall) with
      | error f =>
        have hno : ∀ r, te.receipt sent plan.approveCall ≠ .ok (some r) :=
          fun r h => by rw [(approvalOutcome_eq_ok _).2 ⟨r, h⟩] at ha; cases ha
        simp [hno]
      | ok u' =>
        obtain ⟨approval, happ⟩ := (approvalOutcome_eq_ok _).1 ha
        cases ht : te.send (sent ++ [plan.approveCall]) (plan.transferCall req) with
        | error e => simp [submitTransfer_of_send_error te ht, sentPacket, happ]
        | ok u'' => simp [submitTransfer_of_send_ok te ht, happ]

/-- The packet a successful `ibc_token_transfer` returns is the one the relayer reads: when the
node serves the receipt of the `sendTransfer` call, whose logs carry its block number, and the
relayer's handler is the deployed one, the transaction form of `query_txs` returns events whose
first `SendPacket` carries that packet. -/
theorem ibcTokenTransfer_packet_queryTxs (node : Provider) (config : AxonChainConfig)
    (req : TransferRequest) (sent : List TransferCall) (packet : Packet) (plan : TransferPlan)
    (receipt : TransactionReceipt)
    (h : (ibcTokenTransfer te b req sent).1 = .ok packet)
    (hp : transferPlan te req = .ok plan)
    (hr : te.receipt (sent ++ [plan.approveCall]) (plan.transferCall req) = .ok (some receipt))
    (hnode : node.getTransactionReceipt receipt.transactionHash = .ok (some receipt))
    (hblock : ∀ log ∈ receipt.logs, log.blockNumber = receipt.blockNumber)
    (haddr : config.contractAddress = plan.deployed.contractAddress) :
    ∃ events, queryTxs b node config (.transaction receipt.transactionHash) = .ok events ∧
      events.findSome? (fun event => te.sendPacketOf event.event) = some packet := by
  obtain ⟨plan', -, hp', -, -, -, hsent⟩ := (ibcTokenTransfer_eq_ok te b req sent packet).1 h
  obtain rfl : plan' = plan := Except.ok.inj (hp'.symm.trans hp)
  rw [hr, sentPacket_eq_ok] at hsent
  obtain ⟨_, n, events, hreceipt, hn, hfetch, hfind⟩ := hsent
  cases Except.ok.inj hreceipt
  rw [← haddr] at hfetch
  have hdec := decodeLog_of_fetch_ok b hfetch
  refine ⟨events, ?_, hfind⟩
  rw [queryTxs_transaction_eq_fetch_handler b node config _ receipt n hnode
    fun log hlog hl => ⟨(hblock log hlog).trans hn, hdec log (List.mem_filter.2 ⟨hlog, by simpa⟩)⟩]
  exact hfetch

end

/-- The receipt of the sample transfer: block 7, transaction `9`, one log of the handler at
address `1`. -/
def sampleTransferReceipt : TransactionReceipt := ⟨⟨9⟩, some 7, [⟨⟨1⟩, [], [], some 7, some ⟨9⟩⟩]⟩

/-- A node and ledger on which the transfer goes through: every hex string decodes to 20 zero
bytes, and every call is mined with `sampleTransferReceipt`. -/
def sampleTransferEnv : TransferEnv where
  connect _ := .ok ()
  readDeployedContracts _ := .ok ⟨⟨1⟩, ⟨2⟩⟩
  getChainid _ := .ok 2022
  hexDecode _ := .ok (List.replicate 20 0)
  fromSliceFailed _ := "assertion failed: left == right"
  sendPacketOf event := if event.eventType = "send_packet" then some ⟨event.attributes⟩ else none
  send _ _ := .ok ()
  receipt _ _ := .ok (some sampleTransferReceipt)

/-- Bindings in which every log is a `SendPacket` event. -/
def sampleSendPacketBindings : EventBindings :=
  ⟨fun _ => .ok (.sendPacketFilter ⟨1, "transfer", "channel-0", "transfer", "channel-1", []⟩),
    fun h t _ => .ok (some ⟨⟨"send_packet", [1]⟩, h, t⟩), fun _ => ⟨"send_packet", [1]⟩⟩

/-- Five tokens over `transfer/channel-0` with a 16 s timeout. -/
def sampleTransferRequest : TransferRequest :=
  ⟨"ws://127.0.0.1:8010", "/tmp/axon", "transfer", "channel-0",
    "0x0000000000000000000000000000000000000000", "0x0000000000000000000000000000000000000000",
    5, some ⟨16, 0⟩⟩

/-- The plan of the sample transfer: timeout height `16 / 8`. -/
def sampleTransferPlan : TransferPlan := ⟨⟨⟨1⟩, ⟨2⟩⟩, ⟨0⟩, 5, 2, ⟨0⟩⟩

/-- The node serving the sample transfer's receipt. -/
def sampleTransferNode : Provider :=
  ⟨fun _ => .ok none, fun _ => .ok [], fun _ => .ok (some sampleTransferReceipt)⟩

theorem ibcTokenTransfer_packet_queryTxs_sample :
    (ibcTokenTransfer sampleTransferEnv sampleSendPacketBindings sampleTransferRequest []).1 =
      .ok ⟨[1]⟩ ∧
    transferPlan sampleTransferEnv sampleTransferRequest = .ok sampleTransferPlan ∧
    sampleTransferEnv.receipt [sampleTransferPlan.approveCall]
      (sampleTransferPlan.transferCall sampleTransferRequest) = .ok (some sampleTransferReceipt) ∧
    sampleTransferNode.getTransactionReceipt sampleTransferReceipt.transactionHash =
      .ok (some sampleTransferReceipt) ∧
    (∀ log ∈ sampleTransferReceipt.logs, log.blockNumber = sampleTransferReceipt.blockNumber) ∧
    sampleChain.config.contractAddress = sampleTransferPlan.deployed.contractAddress ∧
    ∃ events, queryTxs sampleSendPacketBindings sampleTransferNode sampleChain.config
        (.transaction sampleTransferReceipt.transactionHash) = .ok events ∧
      events.findSome? (fun event => sampleTransferEnv.sendPacketOf event.event) = some ⟨[1]⟩ :=
  ⟨rfl, rfl, rfl, rfl, by decide, rfl,
    ibcTokenTransfer_packet_queryTxs sampleTransferEnv sampleSendPacketBindings sampleTransferNode
      sampleChain.config sampleTransferRequest [] ⟨[1]⟩ sampleTransferPlan sampleTransferReceipt
      rfl rfl rfl rfl (by decide) rfl⟩

end Forcerelay
