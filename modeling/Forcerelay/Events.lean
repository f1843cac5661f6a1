import Forcerelay.Chain

/-!
# Recovering IBC events from logs

`query_txs` and `query_packet_events` fetch logs of the IBC handler from the node and turn them
into `IbcEventWithHeight`s. Both run a lazy iterator pipeline: every log is first read with
`expect("no block number")`, `expect("no tx hash")` and `decode_log(..).expect("parse log")`,
then passed to a `filter_map` closure. `collect` drives the pipeline to its end, or to the first
`Err` when it collects into a `Result`; `take(1)` stops it at the first event.

`filterMapE` is that pipeline for a closure that may fail, and `List.findSomeM?` is its
`take(1)`. The results: on logs of mined blocks that all decode, `query_packet_events` returns
exactly the selected events (`selectedPacketEvents`) and the client form of `query_txs` the
first `UpdateClient` of the client (`query_events_spec`); a single pending or undecodable log
makes `query_packet_events` panic (`queryPacketEvents_panics`). The transaction form of
`query_txs` reads from a receipt what the test framework's `fetch_all_ibc_events_from_tx_logs`
reads from its handler logs (`queryTxs_transaction_eq_fetch_handler`).
-/

namespace Forcerelay

/-- A `filter_map` closure that may fail, run over a list as `collect` runs a lazy iterator:
left to right, and the first failure ends the run. -/
def filterMapE {α β : Type} (f : α → Except Fault (Option β)) : List α → Except Fault (List β)
  | [] => .ok []
  | a :: as => do
    let b? ← f a
    let bs ← filterMapE f as
    pure (match b? with
      | some b => b :: bs
      | none => bs)

/-- `Result::transpose` on `Result<Option<T>, E>`. -/
def transpose {ε α : Type} : Except ε (Option α) → Option (Except ε α)
  | .ok none => none
  | .ok (some a) => some (.ok a)
  | .error e => some (.error e)

theorem filterMapE_eq_ok {α β : Type} {f : α → Except Fault (Option β)} {g : α → Option β} :
    ∀ {l : List α}, (∀ a ∈ l, f a = .ok (g a)) → filterMapE f l = .ok (l.filterMap g)
  | [], _ => rfl
  | a :: as, h => by
    rw [filterMapE, h a (List.mem_cons_self a as), ok_bind,
      filterMapE_eq_ok fun x hx => h x (List.mem_cons_of_mem a hx), ok_bind, List.filterMap_cons]
    cases g a <;> rfl

/-- A closure that fails only by panicking makes the run panic when one element panics. -/
theorem filterMapE_panic {α β : Type} {f : α → Except Fault (Option β)}
    (hf : ∀ a e, f a = .error e → ∃ m, e = .panic m) :
    ∀ {l : List α}, (∃ a ∈ l, ∃ m, f a = .error (.panic m)) → ∃ m, filterMapE f l = .error (.panic m)
  | [], ⟨_, ha, _⟩ => absurd ha (List.not_mem_nil _)
  | a :: as, ⟨x, hx, m, hm⟩ => by
    rw [filterMapE]
    cases hfa : f a with
    | error e => obtain ⟨m', rfl⟩ := hf a e hfa; exact ⟨m', rfl⟩
    | ok r =>
      rcases List.mem_cons.1 hx with rfl | hx
      · rw [hfa] at hm; cases hm
      · obtain ⟨m', hm'⟩ := filterMapE_panic hf ⟨x, hx, m, hm⟩
        exact ⟨m', by rw [ok_bind, hm', error_bind]⟩

theorem filterMapE_congr {α β : Type} {f g : α → Except Fault (Option β)} :
    ∀ {l : List α}, (∀ a ∈ l, f a = g a) → filterMapE f l = filterMapE g l
  | [], _ => rfl
  | a :: as, h => by
    rw [filterMapE, filterMapE, h a (List.mem_cons_self a as),
      filterMapE_congr fun x hx => h x (List.mem_cons_of_mem a hx)]

/-- Elements the closure drops without failing can be filtered out first. -/
theorem filterMapE_filter {α β : Type} {f : α → Except Fault (Option β)} {p : α → Bool}
    (hf : ∀ a, p a = false → f a = .ok none) :
    ∀ l : List α, filterMapE f l = filterMapE f (l.filter p)
  | [] => rfl
  | a :: as => by
    cases hp : p a
    · rw [List.filter_cons_of_neg (by simp [hp]), filterMapE, hf a hp, ok_bind,
        ← filterMapE_filter hf as]
      cases filterMapE f as <;> rfl
    · rw [List.filter_cons_of_pos hp, filterMapE, filterMapE, filterMapE_filter hf as]

/-- A run that returns `Ok` ran the closure without failure on every element. -/
theorem filterMapE_ok_of_mem {α β : Type} {f : α → Except Fault (Option β)} :
    ∀ {l : List α} {r : List β}, filterMapE f l = .ok r → ∀ a ∈ l, ∃ b?, f a = .ok b?
  | [], _, _, _, ha => absurd ha (List.not_mem_nil _)
  | a :: as, r, h, x, hx => by
    rw [filterMapE, bind_eq_ok] at h
    obtain ⟨b?, hb, h⟩ := h
    rw [bind_eq_ok] at h
    obtain ⟨bs, hbs, -⟩ := h
    rcases List.mem_cons.1 hx with rfl | hx
    · exact ⟨b?, hb⟩
    · exact filterMapE_ok_of_mem hbs x hx

theorem findSomeM?_eq_ok {α β : Type} {f : α → Except Fault (Option β)} {g : α → Option β} :
    ∀ {l : List α}, (∀ a ∈ l, f a = .ok (g a)) → l.findSomeM? f = .ok (l.findSome? g)
  | [], _ => rfl
  | a :: as, h => by
    simp only [List.findSomeM?, h a (List.mem_cons_self a as), ok_bind, List.findSome?_cons]
    cases g a with
    | some b => rfl
    | none => exact findSomeM?_eq_ok fun x hx => h x (List.mem_cons_of_mem a hx)

/-! ### Requests -/

/-- `Qualified<QueryHeight>`. -/
inductive Qualified where
  | smallerEqual (q : QueryHeight)
  | equal (q : QueryHeight)
  deriving DecidableEq, Repr

/-- `WithBlockDataType`, the kind of event a packet-event query asks for. -/
inductive WithBlockDataType where
  | createClient
  | updateClient
  | sendPacket
  | writeAck
  deriving DecidableEq, Repr

/-- `QueryPacketEventDataRequest`. -/
structure QueryPacketEventDataRequest where
  eventId : WithBlockDataType
  sourceChannelId : String
  sourcePortId : String
  destinationChannelId : String
  destinationPortId : String
  sequences : List UInt64
  height : Qualified
  deriving DecidableEq, Repr

/-- `QueryClientEventRequest`, with the fields `query_txs` reads. -/
structure QueryClientEventRequest where
  clientId : String
  consensusHeight : Height
  deriving DecidableEq, Repr

/-- `QueryTxRequest`. -/
inductive QueryTxRequest where
  | client (request : QueryClientEventRequest)
  | transaction (txHash : H256)
  deriving DecidableEq, Repr

/-! ### `query_txs` -/

section
variable (b : EventBindings) (node : Provider) (config : AxonChainConfig)

/-- The `filter_map` closure of the client form of `query_txs`, on one log. -/
def clientEventOfLog (clientId : String) (log : Log) :
    Except Fault (Option (Except String IbcEventWithHeight)) := do
  let number ← expect log.blockNumber "no block number"
  let txHash ← expect log.transactionHash "no tx hash"
  let event ← expectOk (b.decodeLog log.toRawLog) "parse log"
  match event with
  | .updateClientFilter id _ =>
    if id = clientId then
      pure (transpose (b.ibcEventFromIbcHandlerEvent (.fromNoncosmosHeight number) txHash event))
    else pure none
  | _ => pure none

/-- The `filter_map` closure of the transaction form of `query_txs`, on one log. -/
def txEventOfLog (txHash : H256) (log : Log) : Except Fault (Option IbcEventWithHeight) :=
  if log.address ≠ config.contractAddress then pure none
  else do
    let number ← expect log.blockNumber "no block number"
    let event ← expectOk (b.decodeLog log.toRawLog) "parse log"
    match b.ibcEventFromIbcHandlerEvent (.fromNoncosmosHeight number) txHash event with
    | .ok r => pure r
    | .error r => throw (.err (.other r))

/-- `query_txs`. The client form returns at most one `UpdateClient` event of the block at the
consensus height; the transaction form every event of the transaction's receipt. -/
def queryTxs : QueryTxRequest → Except Fault (List IbcEventWithHeight)
  | .client request => do
    let block ← mapErr (node.getBlock request.consensusHeight.revisionHeight) Error.otherError
    match block with
    | none => pure []
    | some block =>
      let hash ← expect block.hash "called `Option::unwrap()` on a `None` value"
      let logs ← mapErr (node.getLogs { address := config.contractAddress, blockHash := some hash })
        Error.otherError
      match ← logs.findSomeM? (clientEventOfLog b request.clientId) with
      | none => pure []
      | some (.ok e) => pure [e]
      | some (.error r) => throw (.err (.other r))
  | .transaction txHash => do
    let receipt ← mapErr (node.getTransactionReceipt txHash) Error.otherError
    filterMapE (txEventOfLog b config txHash) ((receipt.map (·.logs)).getD [])

/-! ### `query_packet_events` -/

/-- The block range of `query_packet_events`. -/
def packetEventsFilter : Qualified → Filter
  | .smallerEqual .latest | .equal .latest => { address := config.contractAddress }
  | .smallerEqual (.specific h) => { address := config.contractAddress, toBlock := some h.revisionHeight }
  | .equal (.specific h) =>
    { address := config.contractAddress, fromBlock := some h.revisionHeight,
      toBlock := some h.revisionHeight }

/-- The `map` closure of `logs_iter`: height, transaction hash and decoded event of a log. -/
def logEntry (log : Log) : Except Fault (Height × H256 × OwnableIBCHandlerEvents) := do
  let number ← expect log.blockNumber "no block number"
  let txHash ← expect log.transactionHash "no tx hash"
  let event ← expectOk (b.decodeLog log.toRawLog) "parse log"
  pure (.fromNoncosmosHeight number, txHash, event)

/-- `packet_filter`. -/
def packetFilter (request : QueryPacketEventDataRequest) (packet : PacketData) : Bool :=
  if !request.sequences.isEmpty && !request.sequences.contains packet.sequence then false
  else if packet.destinationChannel ≠ request.destinationChannelId then false
  else if packet.sourceChannel ≠ request.sourceChannelId then false
  else if packet.destinationPort ≠ request.destinationPortId then false
  else if packet.sourcePort ≠ request.sourcePortId then false
  else true

/-- `ibc_event_from_ibc_handler_event(..).ok().unwrap_or(None)`. -/
def translateOrNone (height : Height) (txHash : H256) (event : OwnableIBCHandlerEvents) :
    Option IbcEventWithHeight :=
  match b.ibcEventFromIbcHandlerEvent height txHash event with
  | .ok r => r
  | .error _ => none

/-- The `filter_map` closure `query_packet_events` picks by `event_id`. -/
def packetEventOf (request : QueryPacketEventDataRequest) :
    Height × H256 × OwnableIBCHandlerEvents → Option IbcEventWithHeight
  | (height, txHash, event) =>
    match request.eventId with
    | .createClient =>
      if event.kind = .createClient then translateOrNone b height txHash event else none
    | .updateClient =>
      if event.kind = .updateClient then translateOrNone b height txHash event else none
    | .sendPacket =>
      match event with
      | .sendPacketFilter packet =>
        if !packetFilter request packet then none else translateOrNone b height txHash event
      | _ => none
    | .writeAck =>
      match event with
      | .writeAcknowledgementFilter packet _ =>
        if !packetFilter request packet then none else translateOrNone b height txHash event
      | _ => none

/-- `query_packet_events`. -/
def queryPacketEvents (request : QueryPacketEventDataRequest) :
    Except Fault (List IbcEventWithHeight) := do
  let logs ← mapErr (node.getLogs (packetEventsFilter config request.height)) Error.otherError
  filterMapE (fun log => do pure (packetEventOf b request (← logEntry b log))) logs

/-- `fetch_all_ibc_events_from_tx_logs` of the test framework: the events of a transaction's
logs at its block, every log decoded with `expect("decode log")`; `transpose` and `collect` keep
the translated events and stop at the first `Err`. -/
def fetchAllIbcEventsFromTxLogs (blockNumber : UInt64) (txHash : H256) (logs : List Log) :
    Except Fault (List IbcEventWithHeight) :=
  filterMapE (fun log => do
    let event ← expectOk (b.decodeLog log.toRawLog) "decode log"
    mapErr (b.ibcEventFromIbcHandlerEvent (.fromNoncosmosHeight blockNumber) txHash event) .other)
    logs

/-! ### What the queries return -/

/-- The height, transaction hash and event of a log of a mined block that decodes; `none` for a
log the pipeline panics on. -/
def decodedLog (log : Log) : Option (Height × H256 × OwnableIBCHandlerEvents) :=
  match log.blockNumber, log.transactionHash, b.decodeLog log.toRawLog with
  | some n, some h, .ok event => some (.fromNoncosmosHeight n, h, event)
  | _, _, _ => none

/-- The variant `event_id` names. -/
def WithBlockDataType.eventKind : WithBlockDataType → HandlerEventKind
  | .createClient => .createClient
  | .updateClient => .updateClient
  | .sendPacket => .sendPacket
  | .writeAck => .writeAcknowledgement

/-- The packet of a `SendPacket` or `WriteAcknowledgement` event. -/
def OwnableIBCHandlerEvents.packet? : OwnableIBCHandlerEvents → Option PacketData
  | .sendPacketFilter p => some p
  | .writeAcknowledgementFilter p _ => some p
  | _ => none

/-- The request selects a packet: its sequence is listed, or no sequence is, and its ports and
channels are the request's. -/
def packetSelected (request : QueryPacketEventDataRequest) (p : PacketData) : Bool :=
  (request.sequences.isEmpty || request.sequences.contains p.sequence) &&
    p.sourcePort == request.sourcePortId && p.sourceChannel == request.sourceChannelId &&
    p.destinationPort == request.destinationPortId &&
    p.destinationChannel == request.destinationChannelId

/-- The event of a decoded log, when the log is of the variant `event_id` names and, for a packet
event, its packet is selected: the translation when it is `Ok(Some(e))`. -/
def selectedPacketEvent (request : QueryPacketEventDataRequest) :
    Height × H256 × OwnableIBCHandlerEvents → Option IbcEventWithHeight
  | (height, h, event) =>
    if event.kind = request.eventId.eventKind ∧ event.packet?.all (packetSelected request) then
      match b.ibcEventFromIbcHandlerEvent height h event with
      | .ok (some e) => some e
      | _ => none
    else none

/-- The events of the logs whose event is of the variant `event_id` names and, for a packet
event, whose packet the request selects: those the translation makes `Ok(Some(e))`, in log
order. -/
def selectedPacketEvents (request : QueryPacketEventDataRequest) (logs : List Log) :
    List IbcEventWithHeight :=
  (logs.filterMap (decodedLog b)).filterMap (selectedPacketEvent b request)

/-- For an `UpdateClient` event of the client whose translation is not `Ok(None)`, that
translation. -/
def clientUpdateOf (clientId : String) :
    Height × H256 × OwnableIBCHandlerEvents → Option (Except String IbcEventWithHeight)
  | (height, h, event) =>
    match event with
    | .updateClientFilter id _ =>
      if id = clientId then transpose (b.ibcEventFromIbcHandlerEvent height h event) else none
    | _ => none

theorem logEntry_of_decodedLog {log : Log} {d : Height × H256 × OwnableIBCHandlerEvents}
    (h : decodedLog b log = some d) : logEntry b log = .ok d := by
  unfold decodedLog at h
  split at h
  · cases h; simp [logEntry, *]
  · cases h

/-- The pipeline panics on a log exactly when the log is not a decoded log of a mined block. -/
theorem logEntry_of_decodedLog_none {log : Log} (h : decodedLog b log = none) :
    ∃ m, logEntry b log = .error (.panic m) := by
  unfold decodedLog at h
  unfold logEntry
  cases hn : log.blockNumber with
  | none => exact ⟨_, rfl⟩
  | some n =>
    cases hh : log.transactionHash with
    | none => exact ⟨_, rfl⟩
    | some t =>
      cases hd : b.decodeLog log.toRawLog with
      | error => exact ⟨_, rfl⟩
      | ok ev => simp [hn, hh, hd] at h

theorem logEntry_error {log : Log} {e : Fault} (h : logEntry b log = .error e) : ∃ m, e = .panic m := by
  cases hd : decodedLog b log with
  | some d => rw [logEntry_of_decodedLog b hd] at h; cases h
  | none =>
    obtain ⟨m, hm⟩ := logEntry_of_decodedLog_none b hd
    rw [hm] at h; cases h; exact ⟨m, rfl⟩

theorem clientEventOfLog_of_decodedLog {log : Log} {d : Height × H256 × OwnableIBCHandlerEvents}
    (clientId : String) (h : decodedLog b log = some d) :
    clientEventOfLog b clientId log = .ok (clientUpdateOf b clientId d) := by
  unfold decodedLog at h
  split at h
  · cases h
    simp only [clientEventOfLog, clientUpdateOf, *, expect_some, expectOk_ok, ok_bind]
    split
    · split_ifs <;> rfl
    · rfl
  · cases h

theorem packetFilter_eq_packetSelected (request : QueryPacketEventDataRequest) (p : PacketData) :
    packetFilter request p = packetSelected request p := by
  simp only [packetFilter, packetSelected]
  split_ifs <;> simp_all [or_iff_not_imp_left]

theorem translateOrNone_eq (height : Height) (h : H256) (event : OwnableIBCHandlerEvents) :
    translateOrNone b height h event =
      match b.ibcEventFromIbcHandlerEvent height h event with
      | .ok (some e) => some e
      | _ => none := by
  unfold translateOrNone
  cases b.ibcEventFromIbcHandlerEvent height h event with
  | error => rfl
  | ok r => cases r <;> rfl

/-- The closure `event_id` picks keeps and translates exactly the events `selectedPacketEvent`
keeps. -/
theorem packetEventOf_eq (request : QueryPacketEventDataRequest) :
    packetEventOf b request = selectedPacketEvent b request := by
  funext ⟨height, h, event⟩
  cases hid : request.eventId <;> cases event <;>
    simp [packetEventOf, selectedPacketEvent, hid, WithBlockDataType.eventKind,
      OwnableIBCHandlerEvents.kind, OwnableIBCHandlerEvents.packet?, packetFilter_eq_packetSelected,
      translateOrNone_eq] <;>
    split <;> simp_all

theorem findSome?_filterMap {α β γ : Type} (f : α → Option β) (g : β → Option γ) :
    ∀ l : List α, (l.filterMap f).findSome? g = l.findSome? fun x => (f x).bind g
  | [] => rfl
  | a :: l => by
    cases h : f a <;> simp [List.filterMap_cons, h, List.findSome?_cons, findSome?_filterMap f g l]

/-- On logs of mined blocks that all decode, `query_packet_events` returns, in log order,
exactly the events of the variant `event_id` names whose packet (for packet events) the request
selects and whose translation is `Ok(Some(e))`. The client form of `query_txs` returns nothing
for a missing block, panics at `block.hash.unwrap()` on a block without a hash, and otherwise
returns the translation of the first `UpdateClient` event of the client whose translation is not
`Ok(None)`: `Ok([e])` or `Err`, and `Ok([])` when there is none. -/
theorem query_events_spec :
    (∀ request logs, node.getLogs (packetEventsFilter config request.height) = .ok logs →
      (∀ log ∈ logs, (decodedLog b log).isSome) →
      queryPacketEvents b node config request = .ok (selectedPacketEvents b request logs)) ∧
    (∀ request, node.getBlock request.consensusHeight.revisionHeight = .ok none →
      queryTxs b node config (.client request) = .ok []) ∧
    (∀ request block, node.getBlock request.consensusHeight.revisionHeight = .ok (some block) →
      block.hash = none →
      queryTxs b node config (.client request) =
        .error (.panic "called `Option::unwrap()` on a `None` value")) ∧
    (∀ request block hash logs,
      node.getBlock request.consensusHeight.revisionHeight = .ok (some block) →
      block.hash = some hash →
      node.getLogs { address := config.contractAddress, blockHash := some hash } = .ok logs →
      (∀ log ∈ logs, (decodedLog b log).isSome) →
      queryTxs b node config (.client request) =
        match (logs.filterMap (decodedLog b)).findSome? (clientUpdateOf b request.clientId) with
        | none => .ok []
        | some (.ok e) => .ok [e]
        | some (.error r) => .error (.err (.other r))) := by
  refine ⟨fun request logs hlogs hwf => ?_, fun request hblock => ?_,
    fun request block hblock hhash => ?_, fun request block hash logs hblock hhash hlogs hwf => ?_⟩
  · have hlog : ∀ log ∈ logs, (do pure (packetEventOf b request (← logEntry b log))) =
        Except.ok (((decodedLog b log).bind (packetEventOf b request)) : Option IbcEventWithHeight) := by
      intro log hl
      obtain ⟨d, hd⟩ := Option.isSome_iff_exists.1 (hwf log hl)
      rw [logEntry_of_decodedLog b hd, hd]; rfl
    rw [queryPacketEvents, hlogs, mapErr_ok, ok_bind, filterMapE_eq_ok hlog, selectedPacketEvents,
      List.filterMap_filterMap, packetEventOf_eq]
  · rw [queryTxs, hblock]; rfl
  · simp only [queryTxs, hblock, hhash, mapErr_ok, ok_bind, expect_none, error_bind]
  · have hlog : ∀ log ∈ logs, clientEventOfLog b request.clientId log =
        .ok ((decodedLog b log).bind (clientUpdateOf b request.clientId)) := by
      intro log hl
      obtain ⟨d, hd⟩ := Option.isSome_iff_exists.1 (hwf log hl)
      rw [clientEventOfLog_of_decodedLog b request.clientId hd, hd]; rfl
    simp only [queryTxs, hblock, hhash, hlogs, mapErr_ok, ok_bind, expect_some,
      findSomeM?_eq_ok hlog, findSome?_filterMap]
    split <;> rfl

/-- The events of `sampleHandlerBindings`: a packet's own bytes, or the client message. -/
def sampleIbcEvent : OwnableIBCHandlerEvents → IbcEvent
  | .sendPacketFilter p => ⟨"send_packet", p.rest⟩
  | .updateClientFilter _ m => ⟨"update_client", m⟩
  | _ => ⟨"create_client", []⟩

/-- Bindings in which the length of a log's data names its event: two `SendPacket`s on
`transfer/channel-0` (the second to `channel-2`), a `CreateClient`, and otherwise an
`UpdateClient` of `axon-client`. -/
def sampleHandlerBindings : EventBindings where
  decodeLog r := match r.data.length with
    | 0 => .ok (.sendPacketFilter ⟨1, "transfer", "channel-0", "transfer", "channel-1", [1]⟩)
    | 1 => .ok (.sendPacketFilter ⟨2, "transfer", "channel-0", "transfer", "channel-2", [2]⟩)
    | 2 => .ok (.createClientFilter [])
    | _ => .ok (.updateClientFilter "axon-client" [3])
  ibcEventFromIbcHandlerEvent h t event := .ok (some ⟨sampleIbcEvent event, h, t⟩)
  toIbcEvent := sampleIbcEvent

/-- A log of the handler in block 7, transaction `9`, with `k` bytes of data. -/
def sampleLog (k : Nat) : Log := ⟨⟨1⟩, [], List.replicate k 0, some 7, some ⟨9⟩⟩

/-- A node without block 0, whose block 1 has no hash and whose other blocks have hash `5`,
holding a `CreateClient` and an `UpdateClient` log; a range query returns both `SendPacket`s. -/
def sampleEventNode : Provider where
  getBlock n := .ok (match n.toNat with
    | 0 => none
    | 1 => some ⟨none⟩
    | _ => some ⟨some ⟨5⟩⟩)
  getLogs f := .ok (match f.blockHash with
    | some _ => [sampleLog 2, sampleLog 3]
    | none => [sampleLog 0, sampleLog 1])
  getTransactionReceipt _ := .ok none

/-- `SendPacket` events from `transfer/channel-0` to `transfer/channel-1`. -/
def samplePacketRequest : QueryPacketEventDataRequest :=
  ⟨.sendPacket, "channel-0", "transfer", "channel-1", "transfer", [], .equal .latest⟩

theorem query_events_spec_samples :
    queryPacketEvents sampleHandlerBindings sampleEventNode sampleChain.config samplePacketRequest =
      .ok [⟨⟨"send_packet", [1]⟩, ⟨0, 7⟩, ⟨9⟩⟩] ∧
    queryTxs sampleHandlerBindings sampleEventNode sampleChain.config
        (.client ⟨"axon-client", ⟨0, 0⟩⟩) = .ok [] ∧
    queryTxs sampleHandlerBindings sampleEventNode sampleChain.config
        (.client ⟨"axon-client", ⟨0, 1⟩⟩) =
      .error (.panic "called `Option::unwrap()` on a `None` value") ∧
    queryTxs sampleHandlerBindings sampleEventNode sampleChain.config
        (.client ⟨"axon-client", ⟨0, 2⟩⟩) = .ok [⟨⟨"update_client", [3]⟩, ⟨0, 7⟩, ⟨9⟩⟩] :=
  let h := query_events_spec sampleHandlerBindings sampleEventNode sampleChain.config
  ⟨(h.1 samplePacketRequest [sampleLog 0, sampleLog 1] rfl (by decide)).trans (by decide),
    h.2.1 ⟨"axon-client", ⟨0, 0⟩⟩ rfl, h.2.2.1 ⟨"axon-client", ⟨0, 1⟩⟩ ⟨none⟩ rfl rfl,
    (h.2.2.2 ⟨"axon-client", ⟨0, 2⟩⟩ ⟨some ⟨5⟩⟩ ⟨5⟩ [sampleLog 2, sampleLog 3] rfl rfl rfl
      (by decide)).trans (by decide)⟩

/-- One log of a pending block, or one that does not decode, makes `query_packet_events` panic,
whatever the other logs are. -/
theorem queryPacketEvents_panics (request : QueryPacketEventDataRequest) (logs : List Log)
    (hlogs : node.getLogs (packetEventsFilter config request.height) = .ok logs)
    (hbad : ∃ log ∈ logs, decodedLog b log = none) :
    ∃ msg, queryPacketEvents b node config request = .error (.panic msg) := by
  obtain ⟨log, hl, hd⟩ := hbad
  rw [queryPacketEvents, hlogs, mapErr_ok, ok_bind]
  refine filterMapE_panic (fun log e he => ?_) ⟨log, hl, ?_⟩
  · cases hle : logEntry b log with
    | error e' => rw [hle] at he; cases he; exact logEntry_error b hle
    | ok d => rw [hle] at he; cases he
  · obtain ⟨m, hm⟩ := logEntry_of_decodedLog_none b hd
    exact ⟨m, by rw [hm]; rfl⟩

theorem queryPacketEvents_panics_pending :
    ∃ msg, queryPacketEvents
        ⟨fun _ => .ok (.createClientFilter []), fun _ _ _ => .ok none, fun _ => ⟨"create_client", []⟩⟩
        ⟨fun _ => .ok none, fun _ => .ok [⟨⟨1⟩, [], [], none, none⟩], fun _ => .ok none⟩
        ⟨"axon-0", "relayer", ⟨1⟩, ⟨2⟩, "ws://127.0.0.1:8010", 0⟩
        ⟨.sendPacket, "channel-0", "transfer", "channel-1", "transfer", [], .equal .latest⟩ =
      .error (.panic msg) :=
  queryPacketEvents_panics _ _ _ _ _ rfl ⟨_, List.mem_singleton_self _, rfl⟩

/-- `fetch_all_ibc_events_from_tx_logs` returns `Ok` only when every log decodes. -/
theorem decodeLog_of_fetch_ok {n : UInt64} {txHash : H256} {logs : List Log}
    {events : List IbcEventWithHeight}
    (h : fetchAllIbcEventsFromTxLogs b n txHash logs = .ok events) :
    ∀ log ∈ logs, (b.decodeLog log.toRawLog).toBool := by
  intro log hlog
  obtain ⟨_, hlog⟩ := filterMapE_ok_of_mem h log hlog
  cases hd : b.decodeLog log.toRawLog with
  | ok => rfl
  | error => simp [hd] at hlog

/-- On a receipt whose handler logs carry the block number `n` and decode, the transaction form
of `query_txs` reads what `fetch_all_ibc_events_from_tx_logs` reads from the handler's logs. -/
theorem queryTxs_transaction_eq_fetch_handler (txHash : H256) (receipt : TransactionReceipt)
    (n : UInt64) (hreceipt : node.getTransactionReceipt txHash = .ok (some receipt))
    (hlogs : ∀ log ∈ receipt.logs, log.address = config.contractAddress →
      log.blockNumber = some n ∧ (b.decodeLog log.toRawLog).toBool) :
    queryTxs b node config (.transaction txHash) =
      fetchAllIbcEventsFromTxLogs b n txHash
        (receipt.logs.filter fun log => log.address = config.contractAddress) := by
  have hother : ∀ log : Log, decide (log.address = config.contractAddress) = false →
      txEventOfLog b config txHash log = .ok none := by
    intro log h
    simp only [txEventOfLog, if_pos (of_decide_eq_false h)]; rfl
  rw [queryTxs, hreceipt, mapErr_ok, ok_bind, Option.map_some', Option.getD_some,
    filterMapE_filter hother]
  refine filterMapE_congr fun log hlog => ?_
  obtain ⟨hl, haddr⟩ := List.mem_filter.1 hlog
  have haddr := of_decide_eq_true haddr
  obtain ⟨hn, hdec⟩ := hlogs log hl haddr
  cases hd : b.decodeLog log.toRawLog with
  | error => rw [hd] at hdec; cases hdec
  | ok event =>
    simp only [txEventOfLog, haddr, ne_eq, not_true_eq_false, if_false, hn, expect_some, hd,
      expectOk_ok, ok_bind]
    cases b.ibcEventFromIbcHandlerEvent (.fromNoncosmosHeight n) txHash event <;> rfl

/-- On a receipt whose logs all come from the handler, carry the block number `n` and decode,
the test framework's `fetch_all_ibc_events_from_tx_logs` reads the same events, or the same
error, as the transaction form of `query_txs`. -/
theorem queryTxs_transaction_eq_fetch (txHash : H256) (receipt : TransactionReceipt) (n : UInt64)
    (hreceipt : node.getTransactionReceipt txHash = .ok (some receipt))
    (hlogs : ∀ log ∈ receipt.logs, log.address = config.contractAddress ∧
      log.blockNumber = some n ∧ (b.decodeLog log.toRawLog).toBool) :
    queryTxs b node config (.transaction txHash) =
      fetchAllIbcEventsFromTxLogs b n txHash receipt.logs := by
  rw [queryTxs_transaction_eq_fetch_handler b node config txHash receipt n hreceipt
    fun log hlog _ => (hlogs log hlog).2, List.filter_eq_self.2
    fun log hlog => decide_eq_true (hlogs log hlog).1]

theorem queryTxs_transaction_eq_fetch_createClient :
    queryTxs
        ⟨fun _ => .ok (.createClientFilter []), fun h t _ => .ok (some ⟨⟨"create_client", []⟩, h, t⟩),
          fun _ => ⟨"create_client", []⟩⟩
        ⟨fun _ => .ok none, fun _ => .ok [],
          fun _ => .ok (some ⟨⟨9⟩, some 7, [⟨⟨1⟩, [], [], some 7, some ⟨9⟩⟩]⟩)⟩
        ⟨"axon-0", "relayer", ⟨1⟩, ⟨2⟩, "ws://127.0.0.1:8010", 0⟩ (.transaction ⟨9⟩) =
      .ok [⟨⟨"create_client", []⟩, ⟨0, 7⟩, ⟨9⟩⟩] :=
  (queryTxs_transaction_eq_fetch _ _ _ ⟨9⟩ ⟨⟨9⟩, some 7, [⟨⟨1⟩, [], [], some 7, some ⟨9⟩⟩]⟩ 7
    rfl (by decide)).trans rfl

end

end Forcerelay
