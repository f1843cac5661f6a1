import Forcerelay.Basic

/-!
# The Axon chain endpoint: data model

The records the endpoint reads from the Axon node and from the IBC handler contract
(`OwnableIBCHandler`), and the endpoint's own state `AxonChain`. Only the fields the modelled
functions read are kept; hashes and addresses are identifiers compared for equality.

The node is an oracle: `Provider` answers each JSON-RPC request of `ethers`' `Provider<Http>`,
and `EventBindings` gathers the functions of the generated contract bindings and of
`chain::axon::utils` that the endpoint calls but that are not part of this development
(`decode_log`, `ibc_event_from_ibc_handler_event`, the `From` conversion into `IbcEvent`).
Every theorem about the endpoint holds for every such oracle.
-/

namespace Forcerelay

/-- `H160`: a contract or account address. -/
structure Address where
  val : Nat
  deriving DecidableEq, Repr

/-- `H256`: a block hash, a transaction hash (`TxHash`, `[u8; 32]`) or a state root. -/
structure H256 where
  val : Nat
  deriving DecidableEq, Repr

/-- `ethers::types::Log`, with the fields the endpoint reads; the number and hash are `None`
for a log of a pending block. -/
structure Log where
  address : Address
  topics : List H256
  data : List UInt8
  blockNumber : Option UInt64
  transactionHash : Option H256
  deriving DecidableEq, Repr

/-- `ethers::abi::RawLog`, what `decode_log` reads. -/
structure RawLog where
  topics : List H256
  data : List UInt8
  deriving DecidableEq, Repr

/-- `log.into()`. -/
def Log.toRawLog (log : Log) : RawLog := ⟨log.topics, log.data⟩

/-- `contract::PacketData`: the fields `query_packet_events` filters on, and the rest of the
ABI tuple. -/
structure PacketData where
  sequence : UInt64
  sourcePort : String
  sourceChannel : String
  destinationPort : String
  destinationChannel : String
  rest : List UInt8
  deriving DecidableEq, Repr

/-- `OwnableIBCHandlerEvents`, generated from the handler's ABI. The events the endpoint matches
by name keep the fields it reads; the other fields are the ABI-encoded `body`, and `other`
stands for the rest of the ABI's events. -/
inductive OwnableIBCHandlerEvents where
  | acknowledgePacketFilter (body : List UInt8)
  | closeConfirmChannelFilter (body : List UInt8)
  | closeInitChannelFilter (body : List UInt8)
  | createClientFilter (body : List UInt8)
  | openAckChannelFilter (body : List UInt8)
  | openAckConnectionFilter (body : List UInt8)
  | openConfirmChannelFilter (body : List UInt8)
  | openConfirmConnectionFilter (body : List UInt8)
  | openInitChannelFilter (body : List UInt8)
  | openInitConnectionFilter (body : List UInt8)
  | openTryChannelFilter (body : List UInt8)
  | openTryConnectionFilter (body : List UInt8)
  | receivePacketFilter (body : List UInt8)
  | sendPacketFilter (packet : PacketData)
  | updateClientFilter (clientId : String) (clientMessage : List UInt8)
  | writeAcknowledgementFilter (packet : PacketData) (acknowledgement : List UInt8)
  | other (name : String) (body : List UInt8)
  deriving DecidableEq, Repr

/-- The variants of `OwnableIBCHandlerEvents`, as `matches!` tells them apart. -/
inductive HandlerEventKind where
  | acknowledgePacket | closeConfirmChannel | closeInitChannel | createClient
  | openAckChannel | openAckConnection | openConfirmChannel | openConfirmConnection
  | openInitChannel | openInitConnection | openTryChannel | openTryConnection
  | receivePacket | sendPacket | updateClient | writeAcknowledgement | other
  deriving DecidableEq, Repr

/-- The variant of an event. -/
def OwnableIBCHandlerEvents.kind : OwnableIBCHandlerEvents → HandlerEventKind
  | .acknowledgePacketFilter _ => .acknowledgePacket
  | .closeConfirmChannelFilter _ => .closeConfirmChannel
  | .closeInitChannelFilter _ => .closeInitChannel
  | .createClientFilter _ => .createClient
  | .openAckChannelFilter _ => .openAckChannel
  | .openAckConnectionFilter _ => .openAckConnection
  | .openConfirmChannelFilter _ => .openConfirmChannel
  | .openConfirmConnectionFilter _ => .openConfirmConnection
  | .openInitChannelFilter _ => .openInitChannel
  | .openInitConnectionFilter _ => .openInitConnection
  | .openTryChannelFilter _ => .openTryChannel
  | .openTryConnectionFilter _ => .openTryConnection
  | .receivePacketFilter _ => .receivePacket
  | .sendPacketFilter _ => .sendPacket
  | .updateClientFilter _ _ => .updateClient
  | .writeAcknowledgementFilter _ _ => .writeAcknowledgement
  | .other _ _ => .other

/-- `ibc_relayer_types::events::IbcEvent`, which the endpoint only passes on: its type and its
attributes. -/
structure IbcEvent where
  eventType : String
  attributes : List UInt8
  deriving DecidableEq, Repr

/-- `IbcEventWithHeight`. -/
structure IbcEventWithHeight where
  event : IbcEvent
  height : Height
  txHash : H256
  deriving DecidableEq, Repr

/-- `TransactionReceipt`, with the fields the endpoint reads; `blockNumber` is `None` while the
transaction is pending. -/
structure TransactionReceipt where
  transactionHash : H256
  blockNumber : Option UInt64
  logs : List Log
  deriving DecidableEq, Repr

/-- `ethers::types::Block`, with the one field the endpoint reads: its hash (`None` for a
pending block). -/
structure Block where
  hash : Option H256
  deriving DecidableEq, Repr

/-- `ethers::types::Filter` as the endpoint builds it: an address and either a block range
(`from_block`, `to_block`) or one block hash (`at_block_hash`). -/
structure Filter where
  address : Address
  fromBlock : Option UInt64 := none
  toBlock : Option UInt64 := none
  blockHash : Option H256 := none
  deriving DecidableEq, Repr

/-- The node's Ethereum JSON-RPC, as `Provider<Http>` answers it: a failed request is the text
of the provider error. -/
structure Provider where
  getBlock : UInt64 → Except String (Option Block)
  getLogs : Filter → Except String (List Log)
  getTransactionReceipt : H256 → Except String (Option TransactionReceipt)

/-- The functions of the generated bindings and of `chain::axon::utils` that the endpoint calls
on logs and events. An `eyre::Report` is kept as its text. -/
structure EventBindings where
  /-- `OwnableIBCHandlerEvents::decode_log`. -/
  decodeLog : RawLog → Except String OwnableIBCHandlerEvents
  /-- `ibc_event_from_ibc_handler_event(height, tx_hash, event)`. -/
  ibcEventFromIbcHandlerEvent :
    Height → H256 → OwnableIBCHandlerEvents → Except String (Option IbcEventWithHeight)
  /-- `IbcEvent::from`, the `.into()` of `send_message`. -/
  toIbcEvent : OwnableIBCHandlerEvents → IbcEvent

/-- `QueryHeight`. -/
inductive QueryHeight where
  | latest
  | specific (h : Height)
  deriving DecidableEq, Repr

/-- The block a contract call is made at: `call_builder.block(height.revision_height())` for a
specific height, the latest block otherwise. -/
def QueryHeight.block : QueryHeight → Option UInt64
  | .latest => none
  | .specific h => some h.revisionHeight

/-! ### The endpoint's state -/

/-- `AxonChainConfig`, with the fields the modelled functions read. -/
structure AxonChainConfig where
  id : String
  keyName : String
  contractAddress : Address
  transferContractAddress : Address
  websocketAddr : String
  restoreBlockCount : UInt64

/-- A key entry of the key ring, as `into_ether_wallet` reads it. -/
structure KeyEntry where
  secret : Nat
  deriving DecidableEq, Repr

/-- `KeyRing<Secp256k1KeyPair>`: `get_key` looks a key up by name, failing with the text of
the key-ring error. -/
structure KeyRing where
  getKey : String → Except String KeyEntry

/-- The sending half of a monitor's command channel, `TxMonitorCmd`, known by the number of the
monitor it drives. -/
structure TxMonitorCmd where
  monitor : Nat
  deriving DecidableEq, Repr

/-- `AxonChain`: the fields the modelled operations read or write. The runtime, the RPC clients
and the light client are the environment's and are not part of the state. -/
structure AxonChain where
  config : AxonChainConfig
  keybase : KeyRing
  txMonitorCmd : Option TxMonitorCmd
  chainId : UInt64

/-- `Wallet<SigningKey>`: the signing key and the chain id of its transactions. -/
structure Wallet where
  key : KeyEntry
  chainId : UInt64
  deriving DecidableEq, Repr

/-- `AxonChain::get_wallet`. -/
def AxonChain.getWallet (chain : AxonChain) (keyName : String) : Except Error Wallet :=
  match chain.keybase.getKey keyName with
  | .ok key => .ok ⟨key, chain.chainId⟩
  | .error e => .error (.keyBase e)

/-- `AxonChain::contract`: the IBC handler at the configured address, signing with the
configured key. Only the wallet lookup can fail. -/
def AxonChain.contract (chain : AxonChain) : Except Error Wallet :=
  chain.getWallet chain.config.keyName

/-- `AxonChain::transfer_contract`: the ICS-20 transfer contract at the configured transfer
address, through the same provider as `contract`. Only the wallet lookup can fail. -/
def AxonChain.transferContract (chain : AxonChain) : Except Error Wallet :=
  chain.getWallet chain.config.keyName

/-- An endpoint whose key ring holds every key, with no event monitor yet. -/
def sampleChain : AxonChain :=
  ⟨⟨"axon-0", "relayer", ⟨1⟩, ⟨2⟩, "ws://127.0.0.1:8010", 0⟩, ⟨fun _ => .ok ⟨1⟩⟩, none, 2022⟩

end Forcerelay
