import Forcerelay.Chain

/-!
# Commitment proofs of the Axon endpoint

`get_proofs(height, path)` builds the proof bundle a counterparty's light client checks: the
block `n = height.revision_height`, the state root of block `n - 1`, the finality proof of `n`
(which the node publishes with block `n + 1`, so the code polls for it), and the validators of
the current metadata, checked with `axon_tools::verify_proof`; then `eth_getProof` of the
handler's storage slot for `path` at block `n`, RLP-encoded with the block and its proof.

The node is an oracle (`AxonRpc`); the request for the proof of block `n + 1` is answered per
attempt, so a node may answer `None` any number of times before it has the proof. The loop is
run with a `fuel` bound, and `.polling` is what remains when it runs out. The crates the code
calls (`axon_tools`, `rlp`, the slot hash, the file system) are `ProofBindings`.

Results: `getProofs_eq_ok` (an `Ok` bundle embeds exactly the block, state root and finality
proof that were verified, and the storage proof `eth_getProof` returned for the path's slot),
`getProofs_verify_error` (what a failed verification does: `Err` when the debug dump is written,
a panic when it is not), `getProofs_panics_instead_of_err` (height `0`, and a failing
`eth_getProof`, panic) and `getProofs_panic_iff` (every way the call panics, in terms of the
node's answers). `getProofs_add_fuel` says the `fuel` bound only cuts runs short while polling.
-/

namespace Forcerelay

/-- The header of an Axon block: its state root, and the other fields kept whole. -/
structure AxonHeader where
  stateRoot : H256
  rest : List UInt8
  deriving DecidableEq, Repr

/-- `axon_tools::types::AxonBlock`, which only `verify_proof` and the RLP encoder read. -/
structure AxonBlock where
  header : AxonHeader
  body : List UInt8
  deriving DecidableEq, Repr

/-- `axon_tools::types::Proof`: the finality proof of a block, kept whole. -/
structure AxonProof where
  bytes : List UInt8
  deriving DecidableEq, Repr

/-- `ValidatorExtend`: a validator of the metadata, as `verify_proof` reads it. -/
structure ValidatorExtend where
  blsPubKey : List UInt8
  pubKey : List UInt8
  address : Address
  proposeWeight : UInt32
  voteWeight : UInt32
  deriving DecidableEq, Repr

/-- `Metadata`, with the validator list `get_proofs_ingredients` reads. -/
structure Metadata where
  verifierList : List ValidatorExtend
  deriving DecidableEq, Repr

/-- An entry of the `storage_proof` list of `eth_getProof`: its Merkle proof. -/
structure StorageProof where
  proof : List (List UInt8)
  deriving DecidableEq, Repr

/-- `EIP1186ProofResponse`, with the two proofs `get_proofs` reads. -/
structure EIP1186ProofResponse where
  accountProof : List (List UInt8)
  storageProof : List StorageProof
  deriving DecidableEq, Repr

/-- `AxonCommitmentProof`, the object proof before its RLP encoding. -/
structure AxonCommitmentProof where
  block : AxonBlock
  blockProof : AxonProof
  previousStateRoot : H256
  accountProof : List (List UInt8)
  storageProof : List (List UInt8)
  deriving DecidableEq, Repr

/-- `CommitmentProofBytes`: proof bytes, which are never empty. -/
structure CommitmentProofBytes where
  bytes : List UInt8
  ne_nil : bytes ≠ []

/-- `Vec<u8>::try_into::<CommitmentProofBytes>()`: fails on an empty vector. -/
def CommitmentProofBytes.tryFrom (bytes : List UInt8) : Except String CommitmentProofBytes :=
  if h : bytes = [] then .error "empty proof" else .ok ⟨bytes, h⟩

/-- `ConsensusProof`. -/
structure ConsensusProof where
  proof : CommitmentProofBytes
  height : Height

/-- `Proofs`. `Proofs::new` and `ConsensusProof::new` return `Ok` for every argument, so they
are the constructors. -/
structure Proofs where
  objectProof : CommitmentProofBytes
  clientProof : Option CommitmentProofBytes
  consensusProof : Option ConsensusProof
  otherProof : Option CommitmentProofBytes
  height : Height

/-- The node's Axon RPC (`AxonRpcClient`) and `eth_getProof` of the Ethereum provider.
`getProofById n k` answers the `k`-th request (from `0`) for the proof of block `n`. -/
structure AxonRpc where
  getBlockById : UInt64 → Except Error (Option AxonBlock)
  getProofById : UInt64 → Nat → Except Error (Option AxonProof)
  getCurrentMetadata : Except Error Metadata
  ethGetProof : Address → List H256 → UInt64 → Except String EIP1186ProofResponse

/-- The functions of other crates `get_proofs` calls: `axon_tools::verify_proof` (failing with
the `Debug` text of its error), `generate_debug_content`, `commitment_slot`, `rlp::encode`
(whose output, the encoding of a list, is never empty) and `std::fs::write`. -/
structure ProofBindings where
  verifyProof : AxonBlock → H256 → List ValidatorExtend → AxonProof → Except String Unit
  generateDebugContent : AxonBlock → H256 → AxonProof → List ValidatorExtend → String
  commitmentSlot : List UInt8 → H256
  rlpEncode : AxonCommitmentProof → List UInt8
  rlpEncode_ne_nil : ∀ proof, rlpEncode proof ≠ []
  write : String → String → Except String Unit

section
variable (rpc : AxonRpc) (pb : ProofBindings) (chain : AxonChain)

/-- The `loop` of `get_proofs_ingredients`: request the proof of block `n` until the node has
it, sleeping after each `None`. `attempt` numbers the requests; `fuel` bounds them. -/
def pollProof (n : UInt64) : Nat → Nat → Except Fault AxonProof
  | 0, _ => .error .polling
  | fuel + 1, attempt =>
    match rpc.getProofById n attempt with
    | .error e => .error (.err e)
    | .ok none => pollProof n fuel (attempt + 1)
    | .ok (some p) => .ok p

/-- `get_proofs_ingredients`: the block, the state root of the block before it, the finality
proof, and the validators. -/
def getProofsIngredients (fuel : Nat) (blockNumber : UInt64) :
    Except Fault (AxonBlock × H256 × AxonProof × List ValidatorExtend) := do
  let previousNumber ← expect (checkedSub blockNumber 1) "bad block_number"
  let nextNumber ← expect (checkedAdd blockNumber 1) "bad block_number"
  let block ← liftM (rpc.getBlockById blockNumber)
  let block ← okOr block (.otherError s!"failed to get block {blockNumber}")
  let previous ← liftM (rpc.getBlockById previousNumber)
  let previous ← okOr previous (.otherError s!"failed to get block {previousNumber}")
  let proof ← pollProof rpc nextNumber fuel 0
  let metadata ← liftM rpc.getCurrentMetadata
  pure (block, previous.header.stateRoot, proof, metadata.verifierList)

/-- Where `get_proofs` dumps a block that fails verification. -/
def debugLogPath (blockNumber : UInt64) : String := s!"./debug/axon_block_{blockNumber}.log"

/-- The check of `get_proofs`: `verify_proof`, and on failure the debug dump (whose write is
unwrapped) and the `Err`. -/
def verifyBlock (blockNumber : UInt64) (block : AxonBlock) (previousStateRoot : H256)
    (blockProof : AxonProof) (validators : List ValidatorExtend) : Except Fault Unit :=
  let debugContent := pb.generateDebugContent block previousStateRoot blockProof validators
  match pb.verifyProof block previousStateRoot validators blockProof with
  | .ok () => pure ()
  | .error err => do
    unwrap (pb.write (debugLogPath blockNumber) debugContent)
    throw (.err (.rpcResponse s!"unverified axon block #{blockNumber}, err: {err}"))

/-- The one-byte proofs `get_proofs` puts where a client and a consensus proof go. -/
def uselessProof : CommitmentProofBytes := ⟨[0], List.cons_ne_nil 0 []⟩

/-- The second half of `get_proofs`: the storage proof of the path's slot at block `n`, encoded
with the verified block, and the bundle. -/
def commitmentProofs (height : Height) (commitmentPath : String) (block : AxonBlock)
    (previousStateRoot : H256) (blockProof : AxonProof) : Except Fault Proofs := do
  let blockNumber := height.revisionHeight
  let commitmentSlot := pb.commitmentSlot commitmentPath.toUTF8.toList
  let commitmentProof ← unwrap
    (rpc.ethGetProof chain.config.contractAddress [commitmentSlot] blockNumber)
  assert (!commitmentProof.storageProof.isEmpty)
    "assertion failed: !commitment_proof.storage_proof.is_empty()"
  let storageProof ← match commitmentProof.storageProof with
    | [] => throw (.panic "removal index (is 0) should be < len (is 0)")
    | first :: _ => pure first.proof
  let objectProof ← unwrap (CommitmentProofBytes.tryFrom (pb.rlpEncode
    ⟨block, blockProof, previousStateRoot, commitmentProof.accountProof, storageProof⟩))
  let uselessClientProof ← unwrap (CommitmentProofBytes.tryFrom [0])
  let uselessConsensusProof : ConsensusProof :=
    ⟨← unwrap (CommitmentProofBytes.tryFrom [0]), .default⟩
  pure ⟨objectProof, some uselessClientProof, some uselessConsensusProof, none, height⟩

/-- `AxonChain::get_proofs`. -/
def getProofs (fuel : Nat) (height : Height) (commitmentPath : String) : Except Fault Proofs := do
  let blockNumber := height.revisionHeight
  let (block, previousStateRoot, blockProof, validators) ←
    getProofsIngredients rpc fuel blockNumber
  verifyBlock pb blockNumber block previousStateRoot blockProof validators
  commitmentProofs rpc pb chain height commitmentPath block previousStateRoot blockProof

/-! ### A sample node -/

/-- A node that has every block, answers the first request for a proof with `None` and the
next ones with the proof, and proves every slot. -/
def sampleRpc : AxonRpc where
  getBlockById n := .ok (some ⟨⟨⟨n.toNat⟩, []⟩, []⟩)
  getProofById _ k := .ok (if k = 0 then none else some ⟨[1]⟩)
  getCurrentMetadata := .ok ⟨[]⟩
  ethGetProof _ _ _ := .ok ⟨[[2]], [⟨[[3]]⟩]⟩

/-- Bindings whose `verify_proof` accepts every block when `accept`, and whose file system can
be written when `writable`. -/
def sampleProofBindings (accept writable : Bool) : ProofBindings where
  verifyProof _ _ _ _ := if accept then .ok () else .error "InvalidSignature"
  generateDebugContent _ _ _ _ := "block"
  commitmentSlot _ := ⟨0⟩
  rlpEncode _ := [0xc0]
  rlpEncode_ne_nil _ := List.cons_ne_nil _ _
  write _ _ := if writable then .ok () else .error "No such file or directory (os error 2)"

/-! ### The ingredients -/

@[simp] theorem pollProof_zero (n : UInt64) (attempt : Nat) :
    pollProof rpc n 0 attempt = .error .polling := rfl

/-- The loop returns the proof of the first request the node answers with one, if that request
is within the fuel and every request before it was answered `None`. -/
theorem pollProof_eq_ok (n : UInt64) (p : AxonProof) : ∀ fuel attempt,
    pollProof rpc n fuel attempt = .ok p ↔
      ∃ k < fuel, (∀ j < k, rpc.getProofById n (attempt + j) = .ok none) ∧
        rpc.getProofById n (attempt + k) = .ok (some p)
  | 0, _ => by simp
  | fuel + 1, attempt => by
    have ih := pollProof_eq_ok n p fuel (attempt + 1)
    simp only [Nat.add_right_comm attempt 1] at ih
    rw [pollProof, Nat.exists_lt_succ_left]
    simp only [Nat.forall_lt_succ_left, Nat.add_zero, ← Nat.add_assoc]
    cases h : rpc.getProofById n attempt with
    | error e => simp
    | ok o => cases o with
      | none => simpa using ih
      | some q => simp

/-- The loop never panics. -/
@[simp] theorem pollProof_ne_panic (n : UInt64) (msg : String) :
    ∀ fuel attempt, pollProof rpc n fuel attempt ≠ .error (.panic msg)
  | 0, _ => by simp
  | fuel + 1, attempt => by
    rw [pollProof]
    split
    · simp
    · exact pollProof_ne_panic n msg fuel (attempt + 1)
    · simp

theorem checkedAdd_one_of_ne (a : UInt64) (h : a.toNat ≠ UInt64.size - 1) :
    checkedAdd a 1 = some (a + 1) := by
  have := a.toNat_lt_size
  have h1 : (1 : UInt64).toNat = 1 := rfl
  simp only [checkedAdd, h1]
  rw [if_pos (by omega)]

theorem getProofsIngredients_zero (fuel : Nat) :
    getProofsIngredients rpc fuel 0 = .error (.panic "bad block_number") := rfl

theorem getProofsIngredients_max (fuel : Nat) (n : UInt64) (h : n.toNat = UInt64.size - 1) :
    getProofsIngredients rpc fuel n = .error (.panic "bad block_number") := by
  have hn : n ≠ 0 := by rintro rfl; simp at h
  simp [getProofsIngredients, checkedSub_one_of_ne n hn, (checkedAdd_one_eq_none n).2 h]

theorem getProofsIngredients_eq_ok (fuel : Nat) (n : UInt64)
    (r : AxonBlock × H256 × AxonProof × List ValidatorExtend) :
    getProofsIngredients rpc fuel n = .ok r ↔
      n ≠ 0 ∧ n.toNat ≠ UInt64.size - 1 ∧
      ∃ block previous proof metadata, rpc.getBlockById n = .ok (some block) ∧
        rpc.getBlockById (n - 1) = .ok (some previous) ∧
        pollProof rpc (n + 1) fuel 0 = .ok proof ∧ rpc.getCurrentMetadata = .ok metadata ∧
        (block, previous.header.stateRoot, proof, metadata.verifierList) = r := by
  by_cases hn : n = 0
  · subst hn; rw [getProofsIngredients_zero]; exact ⟨nofun, fun h => absurd rfl h.1⟩
  by_cases hmax : n.toNat = UInt64.size - 1
  · rw [getProofsIngredients_max rpc fuel n hmax]; exact ⟨nofun, fun h => absurd hmax h.2.1⟩
  rw [getProofsIngredients, checkedSub_one_of_ne n hn, checkedAdd_one_of_ne n hmax]
  simp only [hn, hmax, ne_eq, not_false_eq_true, true_and, expect_some, ok_bind, bind_eq_ok,
    liftM_eq_ok, okOr_eq_ok, exists_ok_some_iff]
  simp [pure, Except.pure]

/-- What `get_proofs` goes on with after `get_proofs_ingredients`, in terms of the node's
answers: the block, the state root of the block before it, the first proof the polling loop
gets, and the validators of the current metadata. -/
theorem exists_getProofsIngredients_eq_ok (fuel : Nat) (n : UInt64)
    (P : AxonBlock → H256 → AxonProof → List ValidatorExtend → Prop) :
    (∃ block root blockProof validators,
        getProofsIngredients rpc fuel n = .ok (block, root, blockProof, validators) ∧
          P block root blockProof validators) ↔
      n ≠ 0 ∧ n.toNat ≠ UInt64.size - 1 ∧
      ∃ block previous blockProof metadata, rpc.getBlockById n = .ok (some block) ∧
        rpc.getBlockById (n - 1) = .ok (some previous) ∧
        (∃ k < fuel, (∀ j < k, rpc.getProofById (n + 1) j = .ok none) ∧
          rpc.getProofById (n + 1) k = .ok (some blockProof)) ∧
        rpc.getCurrentMetadata = .ok metadata ∧
        P block previous.header.stateRoot blockProof metadata.verifierList := by
  simp only [getProofsIngredients_eq_ok, pollProof_eq_ok, Nat.zero_add]
  constructor
  · rintro ⟨_, _, _, _, ⟨hn, hmax, _, _, _, _, hb, hp, hpoll, hm, ⟨⟩⟩, hP⟩
    exact ⟨hn, hmax, _, _, _, _, hb, hp, hpoll, hm, hP⟩
  · rintro ⟨hn, hmax, block, previous, proof, metadata, hb, hp, hpoll, hm, hP⟩
    exact ⟨_, _, _, _, ⟨hn, hmax, block, previous, proof, metadata, hb, hp, hpoll, hm, rfl⟩, hP⟩

theorem verifyBlock_of_error (n : UInt64) (block : AxonBlock) (root : H256) (blockProof : AxonProof)
    (validators : List ValidatorExtend) (err : String)
    (h : pb.verifyProof block root validators blockProof = .error err) :
    verifyBlock pb n block root blockProof validators =
      match pb.write (debugLogPath n) (pb.generateDebugContent block root blockProof validators) with
      | .ok () => .error (.err (.rpcResponse s!"unverified axon block #{n}, err: {err}"))
      | .error _ => .error (.panic "called `Result::unwrap()` on an `Err` value") := by
  simp only [verifyBlock, h]
  cases pb.write (debugLogPath n) _ <;> rfl

theorem verifyBlock_eq_ok (n : UInt64) (block : AxonBlock) (root : H256) (blockProof : AxonProof)
    (validators : List ValidatorExtend) (u : Unit) :
    verifyBlock pb n block root blockProof validators = .ok u ↔
      pb.verifyProof block root validators blockProof = .ok () := by
  cases u
  cases h : pb.verifyProof block root validators blockProof with
  | ok => simp [verifyBlock, h, pure, Except.pure]
  | error err =>
    rw [verifyBlock_of_error pb n block root blockProof validators err h]
    split <;> simp

theorem CommitmentProofBytes.tryFrom_of_ne_nil (bytes : List UInt8) (h : bytes ≠ []) :
    CommitmentProofBytes.tryFrom bytes = .ok ⟨bytes, h⟩ := by
  simp [CommitmentProofBytes.tryFrom, h]

theorem commitmentProofs_eq_ok (height : Height) (path : String) (block : AxonBlock) (root : H256)
    (blockProof : AxonProof) (proofs : Proofs) :
    commitmentProofs rpc pb chain height path block root blockProof = .ok proofs ↔
      ∃ response storage rest,
        rpc.ethGetProof chain.config.contractAddress [pb.commitmentSlot path.toUTF8.toList]
          height.revisionHeight = .ok response ∧
        response.storageProof = storage :: rest ∧
        proofs = ⟨⟨pb.rlpEncode ⟨block, blockProof, root, response.accountProof, storage.proof⟩,
          pb.rlpEncode_ne_nil _⟩, some uselessProof, some ⟨uselessProof, .default⟩, none, height⟩ := by
  cases hr : rpc.ethGetProof chain.config.contractAddress [pb.commitmentSlot path.toUTF8.toList]
      height.revisionHeight with
  | error => simp [commitmentProofs, hr, unwrap]
  | ok response =>
    cases hs : response.storageProof with
    | nil => simp [commitmentProofs, hr, hs, assert]
    | cons storage rest =>
      simp [commitmentProofs, hr, hs, assert, CommitmentProofBytes.tryFrom_of_ne_nil, pb.rlpEncode_ne_nil]
      exact eq_comm

/-- The bundle `get_proofs` returns: the RLP encoding of the commitment proof, the placeholder
client and consensus proofs, and the height asked for. -/
def proofsOf (height : Height) (block : AxonBlock) (previousStateRoot : H256)
    (blockProof : AxonProof) (accountProof storageProof : List (List UInt8)) : Proofs :=
  ⟨⟨pb.rlpEncode ⟨block, blockProof, previousStateRoot, accountProof, storageProof⟩,
    pb.rlpEncode_ne_nil _⟩, some uselessProof, some ⟨uselessProof, .default⟩, none, height⟩

theorem getProofs_eq_ok (fuel : Nat) (height : Height) (path : String) (proofs : Proofs) :
    getProofs rpc pb chain fuel height path = .ok proofs ↔
      height.revisionHeight ≠ 0 ∧ height.revisionHeight.toNat ≠ UInt64.size - 1 ∧
      ∃ block previous blockProof metadata response storage rest,
        rpc.getBlockById height.revisionHeight = .ok (some block) ∧
        rpc.getBlockById (height.revisionHeight - 1) = .ok (some previous) ∧
        (∃ k < fuel, (∀ j < k, rpc.getProofById (height.revisionHeight + 1) j = .ok none) ∧
          rpc.getProofById (height.revisionHeight + 1) k = .ok (some blockProof)) ∧
        rpc.getCurrentMetadata = .ok metadata ∧
        pb.verifyProof block previous.header.stateRoot metadata.verifierList blockProof = .ok () ∧
        rpc.ethGetProof chain.config.contractAddress [pb.commitmentSlot path.toUTF8.toList]
          height.revisionHeight = .ok response ∧
        response.storageProof = storage :: rest ∧
        proofs = proofsOf pb height block previous.header.stateRoot blockProof response.accountProof
          storage.proof := by
  simp only [getProofs, bind_eq_ok, Prod.exists, verifyBlock_eq_ok, exists_const,
    commitmentProofs_eq_ok]
  rw [exists_getProofsIngredients_eq_ok]
  simp only [exists_and_left, proofsOf]

/-- `get_proofs` ahead of a block that fails verification: the debug dump is written and the
`Err` returned, or the write fails and its `unwrap` panics. -/
theorem getProofs_verify_error (fuel : Nat) (height : Height) (path : String) (block : AxonBlock)
    (root : H256) (blockProof : AxonProof) (validators : List ValidatorExtend) (err : String)
    (hing : getProofsIngredients rpc fuel height.revisionHeight =
      .ok (block, root, blockProof, validators))
    (hv : pb.verifyProof block root validators blockProof = .error err) :
    getProofs rpc pb chain fuel height path =
      match pb.write (debugLogPath height.revisionHeight)
          (pb.generateDebugContent block root blockProof validators) with
      | .ok () =>
        .error (.err (.rpcResponse s!"unverified axon block #{height.revisionHeight}, err: {err}"))
      | .error _ => .error (.panic "called `Result::unwrap()` on an `Err` value") := by
  simp only [getProofs, hing, ok_bind, verifyBlock_of_error pb _ _ _ _ _ err hv]
  split <;> rfl

theorem getProofs_verify_error_unwritable :
    getProofs sampleRpc (sampleProofBindings false false) sampleChain 2 ⟨0, 5⟩ "path" =
      .error (.panic "called `Result::unwrap()` on an `Err` value") :=
  getProofs_verify_error sampleRpc (sampleProofBindings false false) sampleChain 2 ⟨0, 5⟩ "path"
    _ _ _ _ "InvalidSignature" rfl rfl

/-- `get_proofs` panics where its callers are handed an `Err` by its sibling requests: at height
`0` the previous block number underflows and `expect` panics, whatever the node would answer;
and for a block the node serves and that verifies, a failing `eth_getProof` is unwrapped. -/
theorem getProofs_panics_instead_of_err (fuel : Nat) (revisionNumber : UInt64) (path : String) :
    getProofs rpc pb chain fuel ⟨revisionNumber, 0⟩ path = .error (.panic "bad block_number") ∧
    ∀ (height : Height) block root blockProof validators (e : String),
      getProofsIngredients rpc fuel height.revisionHeight =
        .ok (block, root, blockProof, validators) →
      pb.verifyProof block root validators blockProof = .ok () →
      rpc.ethGetProof chain.config.contractAddress [pb.commitmentSlot path.toUTF8.toList]
        height.revisionHeight = .error e →
      getProofs rpc pb chain fuel height path =
        .error (.panic "called `Result::unwrap()` on an `Err` value") := by
  refine ⟨by simp only [getProofs, getProofsIngredients_zero, error_bind],
    fun height block root blockProof validators e hing hv hr => ?_⟩
  have hverify : verifyBlock pb height.revisionHeight block root blockProof validators = .ok () :=
    (verifyBlock_eq_ok pb _ _ _ _ _ ()).2 hv
  simp only [getProofs, hing, ok_bind, hverify, commitmentProofs, hr, unwrap, error_bind]

/-- A node that serves every block and proof but fails every `eth_getProof`. -/
def proofFailingRpc : AxonRpc := { sampleRpc with ethGetProof := fun _ _ _ => .error "timeout" }

theorem getProofs_panics_instead_of_err_sample :
    getProofs proofFailingRpc (sampleProofBindings true true) sampleChain 2 ⟨0, 0⟩ "path" =
      .error (.panic "bad block_number") ∧
    getProofs proofFailingRpc (sampleProofBindings true true) sampleChain 2 ⟨0, 5⟩ "path" =
      .error (.panic "called `Result::unwrap()` on an `Err` value") :=
  let h := getProofs_panics_instead_of_err proofFailingRpc (sampleProofBindings true true)
    sampleChain 2 0 "path"
  ⟨h.1, h.2 ⟨0, 5⟩ ⟨⟨⟨5⟩, []⟩, []⟩ ⟨4⟩ ⟨[1]⟩ [] "timeout" rfl rfl rfl⟩

/-! ### Every panic -/

theorem getProofsIngredients_eq_panic (fuel : Nat) (n : UInt64) (msg : String) :
    getProofsIngredients rpc fuel n = .error (.panic msg) ↔
      (n = 0 ∨ n.toNat = UInt64.size - 1) ∧ msg = "bad block_number" := by
  by_cases hn : n = 0
  · subst hn; simp [getProofsIngredients_zero, eq_comm]
  by_cases hmax : n.toNat = UInt64.size - 1
  · simp [getProofsIngredients_max rpc fuel n hmax, hmax, eq_comm]
  rw [getProofsIngredients, checkedSub_one_of_ne n hn, checkedAdd_one_of_ne n hmax]
  simp only [hn, hmax, or_self, false_and, iff_false]
  simp [bind_eq_error, map_eq_error]

theorem verifyBlock_eq_panic (n : UInt64) (block : AxonBlock) (root : H256)
    (blockProof : AxonProof) (validators : List ValidatorExtend) (msg : String) :
    verifyBlock pb n block root blockProof validators = .error (.panic msg) ↔
      (∃ err e, pb.verifyProof block root validators blockProof = .error err ∧
        pb.write (debugLogPath n) (pb.generateDebugContent block root blockProof validators) =
          .error e) ∧
      msg = "called `Result::unwrap()` on an `Err` value" := by
  cases h : pb.verifyProof block root validators blockProof with
  | ok => simp [verifyBlock, h, pure, Except.pure]
  | error err =>
    rw [verifyBlock_of_error pb n block root blockProof validators err h]
    cases pb.write (debugLogPath n) (pb.generateDebugContent block root blockProof validators) <;>
      simp [eq_comm]

theorem commitmentProofs_eq_panic (height : Height) (path : String) (block : AxonBlock)
    (root : H256) (blockProof : AxonProof) (msg : String) :
    commitmentProofs rpc pb chain height path block root blockProof = .error (.panic msg) ↔
      ((∃ e, rpc.ethGetProof chain.config.contractAddress [pb.commitmentSlot path.toUTF8.toList]
          height.revisionHeight = .error e) ∧
        msg = "called `Result::unwrap()` on an `Err` value") ∨
      ((∃ response, rpc.ethGetProof chain.config.contractAddress
          [pb.commitmentSlot path.toUTF8.toList] height.revisionHeight = .ok response ∧
          response.storageProof = []) ∧
        msg = "assertion failed: !commitment_proof.storage_proof.is_empty()") := by
  cases hr : rpc.ethGetProof chain.config.contractAddress [pb.commitmentSlot path.toUTF8.toList]
      height.revisionHeight with
  | error => simp [commitmentProofs, hr, unwrap, eq_comm]
  | ok response =>
    cases hs : response.storageProof with
    | nil => simpa [commitmentProofs, hr, hs, assert] using eq_comm
    | cons storage rest =>
      have hok := (commitmentProofs_eq_ok rpc pb chain height path block root blockProof _).2
        ⟨response, storage, rest, hr, hs, rfl⟩
      simp [hok, hs]

/-- `get_proofs` panics exactly when the block number is `0` or `u64::MAX` (the `expect`s of
`get_proofs_ingredients`), or when the node serves the block, the one before it, a proof of the
next one and the metadata, and then either `verify_proof` fails and the debug dump cannot be
written, or `verify_proof` passes and `eth_getProof` fails or returns no storage proof. -/
theorem getProofs_panic_iff (fuel : Nat) (height : Height) (path : String) (msg : String) :
    getProofs rpc pb chain fuel height path = .error (.panic msg) ↔
      ((height.revisionHeight = 0 ∨ height.revisionHeight.toNat = UInt64.size - 1) ∧
        msg = "bad block_number") ∨
      height.revisionHeight ≠ 0 ∧ height.revisionHeight.toNat ≠ UInt64.size - 1 ∧
      ∃ block previous blockProof metadata,
        rpc.getBlockById height.revisionHeight = .ok (some block) ∧
        rpc.getBlockById (height.revisionHeight - 1) = .ok (some previous) ∧
        (∃ k < fuel, (∀ j < k, rpc.getProofById (height.revisionHeight + 1) j = .ok none) ∧
          rpc.getProofById (height.revisionHeight + 1) k = .ok (some blockProof)) ∧
        rpc.getCurrentMetadata = .ok metadata ∧
        (((∃ err e, pb.verifyProof block previous.header.stateRoot metadata.verifierList
                blockProof = .error err ∧
              pb.write (debugLogPath height.revisionHeight) (pb.generateDebugContent block
                previous.header.stateRoot blockProof metadata.verifierList) = .error e) ∧
            msg = "called `Result::unwrap()` on an `Err` value") ∨
          pb.verifyProof block previous.header.stateRoot metadata.verifierList blockProof =
              .ok () ∧
            (((∃ e, rpc.ethGetProof chain.config.contractAddress
                  [pb.commitmentSlot path.toUTF8.toList] height.revisionHeight = .error e) ∧
                msg = "called `Result::unwrap()` on an `Err` value") ∨
              ((∃ response, rpc.ethGetProof chain.config.contractAddress
                  [pb.commitmentSlot path.toUTF8.toList] height.revisionHeight = .ok response ∧
                  response.storageProof = []) ∧
                msg = "assertion failed: !commitment_proof.storage_proof.is_empty()"))) := by
  simp only [getProofs, bind_eq_error, Prod.exists, getProofsIngredients_eq_panic,
    verifyBlock_eq_ok, exists_const]
  rw [exists_getProofsIngredients_eq_ok]
  simp only [verifyBlock_eq_panic, commitmentProofs_eq_panic]

/-! ### The fuel only stops the polling

The proof-polling loop of `get_proofs_ingredients` has no bound in the source; the model's
`fuel` bounds it. These lemmas say the bound is harmless: a run that did not stop while polling
gives the same result with any more fuel, so every result the model gives is the unbounded
loop's. -/

/-- `FuelLe r r'`: the run that gave `r` was cut short while polling, or gave `r'` too. -/
def FuelLe {α : Type} (r r' : Except Fault α) : Prop := r = .error .polling ∨ r = r'

theorem FuelLe.refl {α : Type} (r : Except Fault α) : FuelLe r r := .inr rfl

theorem FuelLe.bind {α β : Type} {x x' : Except Fault α} {f f' : α → Except Fault β}
    (hx : FuelLe x x') (hf : ∀ a, FuelLe (f a) (f' a)) : FuelLe (x >>= f) (x' >>= f') := by
  rcases hx with rfl | rfl
  · exact .inl rfl
  · cases x with
    | error e => exact .inr rfl
    | ok a => exact hf a

theorem pollProof_fuelLe (n : UInt64) : ∀ fuel attempt m,
    FuelLe (pollProof rpc n fuel attempt) (pollProof rpc n (fuel + m) attempt)
  | 0, _, _ => .inl rfl
  | fuel + 1, attempt, m => by
    rw [Nat.add_right_comm, pollProof, pollProof]
    split
    · exact .refl _
    · exact pollProof_fuelLe n fuel (attempt + 1) m
    · exact .refl _

theorem getProofsIngredients_fuelLe (fuel m : Nat) (n : UInt64) :
    FuelLe (getProofsIngredients rpc fuel n) (getProofsIngredients rpc (fuel + m) n) :=
  .bind (.refl _) fun _ => .bind (.refl _) fun _ => .bind (.refl _) fun _ =>
    .bind (.refl _) fun _ => .bind (.refl _) fun _ => .bind (.refl _) fun _ =>
      .bind (pollProof_fuelLe rpc _ fuel 0 m) fun _ => .refl _

/-- A run of `get_proofs` that stopped polling gives the same result with any more fuel. -/
theorem getProofs_add_fuel (fuel m : Nat) (height : Height) (path : String)
    (h : getProofs rpc pb chain fuel height path ≠ .error .polling) :
    getProofs rpc pb chain (fuel + m) height path = getProofs rpc pb chain fuel height path :=
  ((FuelLe.bind (getProofsIngredients_fuelLe rpc fuel m height.revisionHeight)
    fun _ => .refl _).resolve_left h).symm

end

end Forcerelay
