import Forcerelay.Dispatch

/-!
# The endpoint's event monitor

`bootstrap` builds an `AxonChain` with no event monitor (`tx_monitor_cmd: None`). The first
`subscribe` whose `init_event_monitor` succeeds spawns the monitor thread and keeps its command
channel; every later `subscribe` subscribes through that channel. No other operation of
`ChainEndpoint` touches `tx_monitor_cmd`, and `shutdown`, which consumes the endpoint, tells the
monitor to stop.

The state of a run is the endpoint, the monitors spawned so far (`spawned`) and the log of
contract calls sent (`sent`). An operation carries what the environment answers it (whether
`AxonEventMonitor::new` succeeds, whether the channel's `subscribe` fails, the key ring a
caller writes through `keybase_mut`), so a run over every list of operations covers every
interleaving and every environment. `MonitorInv` says at most one monitor is spawned and
`tx_monitor_cmd` is its channel; `monitor_spawned_once` says it holds after every run from
`bootstrap`, with what each step may do to the monitor. `run_ledger_calls` says what reaches the
ledger over a run: only the converted calls of the messages the endpoint was handed, in their
order, at most one per message (`CallsOfMessages`).
-/

namespace Forcerelay

/-- An event monitor thread, with what `AxonEventMonitor::new` was built from. -/
structure EventMonitor where
  chainId : String
  websocketAddr : String
  contractAddress : Address
  restoreBlockCount : UInt64
  deriving DecidableEq, Repr

/-- The monitor `init_event_monitor` builds from the configuration. -/
def monitorOf (config : AxonChainConfig) : EventMonitor :=
  ⟨config.id, config.websocketAddr, config.contractAddress, config.restoreBlockCount⟩

/-- `Subscription`: a receiver of the events of one monitor. -/
structure Subscription where
  monitor : Nat
  deriving DecidableEq, Repr

/-- `TxMonitorCmd::subscribe`: a subscription to the monitor the channel drives, unless the
channel fails. -/
def TxMonitorCmd.subscribe (cmd : TxMonitorCmd) (subscribeError : Option String) :
    Except Error Subscription :=
  match subscribeError with
  | some e => .error (.eventMonitor e)
  | none => .ok ⟨cmd.monitor⟩

/-- What `bootstrap` gets from its environment: the key ring it opens, the chain id the node
reports, and whether the light client is built. -/
structure BootEnv where
  keyRing : Except String KeyRing
  chainId : Except String UInt64
  lightClient : Except Error Unit

/-- `AxonChain::bootstrap`. -/
def bootstrap (config : AxonChainConfig) (env : BootEnv) : Except Error AxonChain := do
  let keybase ← env.keyRing.mapError Error.keyBase
  let chainId ← env.chainId.mapError Error.otherError
  let _ ← env.lightClient
  pure ⟨config, keybase, none, chainId⟩

/-- A run of one endpoint: the endpoint, the monitors spawned, and the calls sent. -/
structure Endpoint where
  chain : AxonChain
  spawned : List EventMonitor
  sent : List ContractCall

/-- `init_event_monitor`: when `AxonEventMonitor::new` succeeds, the monitor is spawned and its
channel, numbered by the monitors spawned before it, returned. -/
def initEventMonitor (e : Endpoint) (monitorNew : Except String Unit) :
    Except Error TxMonitorCmd × Endpoint :=
  match monitorNew with
  | .error err => (.error (.eventMonitor err), e)
  | .ok () =>
    (.ok ⟨e.spawned.length⟩, { e with spawned := e.spawned ++ [monitorOf e.chain.config] })

/-- `subscribe`. -/
def subscribe (e : Endpoint) (monitorNew : Except String Unit) (subscribeError : Option String) :
    Except Error Subscription × Endpoint :=
  match e.chain.txMonitorCmd with
  | some cmd => (cmd.subscribe subscribeError, e)
  | none =>
    match initEventMonitor e monitorNew with
    | (.error err, e') => (.error err, e')
    | (.ok cmd, e') =>
      (cmd.subscribe subscribeError, { e' with chain := { e'.chain with txMonitorCmd := some cmd } })

/-- `shutdown`, which consumes the endpoint: the monitor's channel, if any, is told to stop,
and `monitorShutdown` is its answer. -/
def shutdown (chain : AxonChain) (monitorShutdown : TxMonitorCmd → Except String Unit) :
    Except Error Unit :=
  match chain.txMonitorCmd with
  | some cmd => (monitorShutdown cmd).mapError .eventMonitor
  | none => .ok ()

/-- The operations of `ChainEndpoint` on one endpoint, with what the environment answers. -/
inductive Op where
  /-- `subscribe`: whether `AxonEventMonitor::new` succeeds, and the channel's error, if any. -/
  | subscribe (monitorNew : Except String Unit) (subscribeError : Option String)
  /-- `keybase_mut`, through which a caller may replace the key ring. -/
  | keybaseMut (keybase : KeyRing)
  /-- `send_messages_and_wait_commit` or `send_messages_and_wait_check_tx`. -/
  | sendMessages (messages : List Any)
  /-- `verify_header`, `check_misbehaviour`, `build_header`,
  `maybe_register_counterparty_payee`: they change only the light client, not modelled. -/
  | lightClient
  /-- Any operation on `&self`: a query, a proof, a signer. -/
  | query

/-- Whether an operation is a `subscribe` whose monitor can be created. -/
def Op.createsMonitor : Op → Bool
  | .subscribe (.ok ()) _ => true
  | _ => false

section
variable (mb : MsgBindings) (eb : EventBindings) (ledger : Ledger)

/-- One operation. -/
def step (e : Endpoint) : Op → Endpoint
  | .subscribe monitorNew subscribeError => (subscribe e monitorNew subscribeError).2
  | .keybaseMut keybase => { e with chain := { e.chain with keybase } }
  | .sendMessages messages =>
    { e with sent := (sendMessagesAndWaitCommit mb eb ledger e.chain messages e.sent).2 }
  | .lightClient | .query => e

/-- A run: the operations in order. -/
def run (e : Endpoint) (ops : List Op) : Endpoint :=
  ops.foldl (step mb eb ledger) e

@[simp] theorem run_nil (e : Endpoint) : run mb eb ledger e [] = e := rfl

@[simp] theorem step_config (e : Endpoint) (op : Op) :
    (step mb eb ledger e op).chain.config = e.chain.config := by
  cases op with
  | subscribe monitorNew subscribeError =>
    simp only [step, subscribe]
    cases e.chain.txMonitorCmd
    · cases monitorNew <;> rfl
    · rfl
  | _ => rfl

@[simp] theorem run_config : ∀ (e : Endpoint) (ops : List Op),
    (run mb eb ledger e ops).chain.config = e.chain.config
  | _, [] => rfl
  | e, op :: ops => (run_config (step mb eb ledger e op) ops).trans (step_config mb eb ledger e op)

/-! ### What one operation does to the monitor -/

/-- Once the endpoint has a monitor's channel, no operation replaces it or spawns another, and a
`subscribe` subscribes through it. -/
theorem step_of_some {e : Endpoint} {cmd : TxMonitorCmd} (h : e.chain.txMonitorCmd = some cmd)
    (op : Op) :
    (step mb eb ledger e op).chain.txMonitorCmd = some cmd ∧
      (step mb eb ledger e op).spawned = e.spawned := by
  cases op <;> simp [step, subscribe, h]

theorem subscribe_of_some {e : Endpoint} {cmd : TxMonitorCmd} (h : e.chain.txMonitorCmd = some cmd)
    (monitorNew : Except String Unit) (subscribeError : Option String) :
    subscribe e monitorNew subscribeError = (cmd.subscribe subscribeError, e) := by
  simp [subscribe, h]

/-- Without a monitor, only a `subscribe` whose monitor is created changes anything: it spawns
one monitor and keeps its channel. -/
theorem step_of_none {e : Endpoint} (h : e.chain.txMonitorCmd = none) (op : Op) :
    (step mb eb ledger e op).chain.txMonitorCmd =
        (if op.createsMonitor then some ⟨e.spawned.length⟩ else none) ∧
      (step mb eb ledger e op).spawned =
        (if op.createsMonitor then e.spawned ++ [monitorOf e.chain.config] else e.spawned) := by
  cases op with
  | subscribe monitorNew subscribeError =>
    cases monitorNew <;> simp [step, subscribe, initEventMonitor, Op.createsMonitor, h]
  | _ => simp [step, Op.createsMonitor, h]

/-- A run from an endpoint with a monitor keeps that monitor, and spawns nothing. -/
theorem run_of_some {cmd : TxMonitorCmd} : ∀ (ops : List Op) {e : Endpoint},
    e.chain.txMonitorCmd = some cmd →
      (run mb eb ledger e ops).chain.txMonitorCmd = some cmd ∧
        (run mb eb ledger e ops).spawned = e.spawned
  | [], _, h => ⟨h, rfl⟩
  | op :: ops, e, h => by
    obtain ⟨h₁, h₂⟩ := step_of_some mb eb ledger h op
    obtain ⟨h₃, h₄⟩ := run_of_some ops h₁
    exact ⟨h₃, h₄.trans h₂⟩

/-! ### The invariant -/

/-- No monitor and none spawned, or exactly one monitor spawned, from the configuration, and
`tx_monitor_cmd` is its channel. -/
def MonitorInv (e : Endpoint) : Prop :=
  (e.chain.txMonitorCmd = none ∧ e.spawned = []) ∨
    (e.chain.txMonitorCmd = some ⟨0⟩ ∧ e.spawned = [monitorOf e.chain.config])

theorem MonitorInv.step {e : Endpoint} (hi : MonitorInv e) (op : Op) :
    MonitorInv (step mb eb ledger e op) := by
  rcases hi with ⟨hnone, hsp⟩ | ⟨hsome, hsp⟩
  · obtain ⟨h₁, h₂⟩ := step_of_none mb eb ledger hnone op
    rw [hsp] at h₁ h₂
    cases hc : op.createsMonitor <;> simp only [hc] at h₁ h₂
    · exact .inl ⟨h₁, h₂⟩
    · exact .inr ⟨h₁, by rw [h₂, step_config]; rfl⟩
  · obtain ⟨h₁, h₂⟩ := step_of_some mb eb ledger hsome op
    exact .inr ⟨h₁, by rw [h₂, hsp, step_config]⟩

theorem MonitorInv.run {e : Endpoint} (hi : MonitorInv e) :
    ∀ ops, MonitorInv (run mb eb ledger e ops)
  | [] => hi
  | op :: ops => MonitorInv.run (hi.step mb eb ledger op) ops

/-! ### What reaches the ledger over a run -/

/-- The messages an operation hands to `send_messages_and_wait_commit`. -/
def Op.messages : Op → List Any
  | .sendMessages messages => messages
  | _ => []

theorem subscribe_sent (e : Endpoint) (monitorNew : Except String Unit)
    (subscribeError : Option String) : (subscribe e monitorNew subscribeError).2.sent = e.sent := by
  unfold subscribe initEventMonitor
  split <;> cases monitorNew <;> rfl

/-- One operation appends to the ledger's log only the calls of its own messages. -/
theorem step_sent (e : Endpoint) (op : Op) :
    ∃ calls, (step mb eb ledger e op).sent = e.sent ++ calls ∧
      CallsOfMessages mb op.messages calls := by
  cases op with
  | sendMessages messages => exact sendMessagesAndWaitCommit_log mb eb ledger e.chain messages e.sent
  | subscribe monitorNew subscribeError =>
    exact ⟨[], by simp [step, subscribe_sent], .nil _⟩
  | _ => exact ⟨[], by simp [step], .nil _⟩

/-- Over every run, whatever the environment answers, the ledger receives only the converted
calls of messages the endpoint was handed through `send_messages_and_wait_commit`, each to the
handler method of its message's type, in the order of the messages across the run and at most
one call per message; nothing is ever removed from its log. -/
theorem run_ledger_calls : ∀ (e : Endpoint) (ops : List Op),
    ∃ calls, (run mb eb ledger e ops).sent = e.sent ++ calls ∧
      CallsOfMessages mb (ops.flatMap Op.messages) calls
  | e, [] => ⟨[], by simp, .nil _⟩
  | e, op :: ops => by
    obtain ⟨c, hc, hcm⟩ := step_sent mb eb ledger e op
    obtain ⟨cs, hcs, hcsm⟩ := run_ledger_calls (step mb eb ledger e op) ops
    refine ⟨c ++ cs, ?_, by simpa using hcm.append hcsm⟩
    rw [← List.append_assoc, ← hc, ← hcs]
    rfl

theorem bootstrap_txMonitorCmd {config : AxonChainConfig} {env : BootEnv} {chain : AxonChain}
    (h : bootstrap config env = .ok chain) : chain.txMonitorCmd = none ∧ chain.config = config := by
  simp only [bootstrap, bind_eq_ok] at h
  obtain ⟨_, -, _, -, _, -, h⟩ := h
  cases h
  exact ⟨rfl, rfl⟩

/-! ### Runs from `bootstrap` -/

/-- Over every run from `bootstrap`, at most one monitor is spawned and `tx_monitor_cmd` is its
channel. Each operation leaves an existing channel in place and spawns nothing, and every
`subscribe` then subscribes through that channel; without a channel, only a `subscribe` whose
monitor is created changes anything, and it spawns exactly that monitor and keeps its channel. -/
theorem monitor_spawned_once (config : AxonChainConfig) (env : BootEnv) (chain : AxonChain)
    (hboot : bootstrap config env = .ok chain) (sent : List ContractCall) (ops : List Op) :
    MonitorInv (run mb eb ledger ⟨chain, [], sent⟩ ops) ∧
    ∀ pre op post, ops = pre ++ op :: post →
      let e := run mb eb ledger ⟨chain, [], sent⟩ pre
      (∀ cmd, e.chain.txMonitorCmd = some cmd →
        (step mb eb ledger e op).chain.txMonitorCmd = some cmd ∧
          (step mb eb ledger e op).spawned = e.spawned ∧
          ∀ monitorNew subscribeError,
            subscribe e monitorNew subscribeError = (cmd.subscribe subscribeError, e)) ∧
      (e.chain.txMonitorCmd = none →
        if op.createsMonitor then
          (step mb eb ledger e op).chain.txMonitorCmd = some ⟨0⟩ ∧
            (step mb eb ledger e op).spawned = [monitorOf config]
        else
          (step mb eb ledger e op).chain.txMonitorCmd = none ∧
            (step mb eb ledger e op).spawned = []) := by
  obtain ⟨hnone, hconfig⟩ := bootstrap_txMonitorCmd hboot
  have hinit : MonitorInv ⟨chain, [], sent⟩ := .inl ⟨hnone, rfl⟩
  refine ⟨hinit.run mb eb ledger ops, fun pre op _ _ => ⟨fun cmd h =>
    ⟨(step_of_some mb eb ledger h op).1, (step_of_some mb eb ledger h op).2, subscribe_of_some h⟩,
    fun h => ?_⟩⟩
  have hsp : (run mb eb ledger ⟨chain, [], sent⟩ pre).spawned = [] := by
    rcases hinit.run mb eb ledger pre with ⟨-, hsp⟩ | ⟨hsome, -⟩
    · exact hsp
    · rw [h] at hsome; cases hsome
  obtain ⟨h₁, h₂⟩ := step_of_none mb eb ledger h op
  rw [hsp] at h₁ h₂
  rw [run_config] at h₂
  cases hc : op.createsMonitor <;> simp only [hc] at h₁ h₂ ⊢
  · exact ⟨h₁, h₂⟩
  · exact ⟨h₁, by simp [h₂, hconfig]⟩

/-- `shutdown` after any run from `bootstrap` tells the one spawned monitor to stop, or does
nothing when none was spawned. -/
theorem shutdown_run (config : AxonChainConfig) (env : BootEnv) (chain : AxonChain)
    (hboot : bootstrap config env = .ok chain) (sent : List ContractCall) (ops : List Op)
    (monitorShutdown : TxMonitorCmd → Except String Unit) :
    shutdown (run mb eb ledger ⟨chain, [], sent⟩ ops).chain monitorShutdown =
      if (run mb eb ledger ⟨chain, [], sent⟩ ops).spawned = [] then .ok ()
      else (monitorShutdown ⟨0⟩).mapError .eventMonitor := by
  have hinit : MonitorInv ⟨chain, [], sent⟩ := .inl ⟨(bootstrap_txMonitorCmd hboot).1, rfl⟩
  rcases hinit.run mb eb ledger ops with ⟨hnone, hsp⟩ | ⟨hsome, hsp⟩
  · simp [shutdown, hnone, hsp]
  · simp [shutdown, hsome, hsp]

end

/-- The environment of `bootstrap` that builds `sampleChain`. -/
def sampleBootEnv : BootEnv := ⟨.ok ⟨fun _ => .ok ⟨1⟩⟩, .ok 2022, .ok ()⟩

/-- A failed monitor creation, a query, then two subscriptions. -/
def sampleOps : List Op :=
  [.subscribe (.error "connection refused") none, .query, .subscribe (.ok ()) none,
    .subscribe (.ok ()) none]

theorem monitor_spawned_once_sample :
    MonitorInv (run sampleMsgBindings sampleEventBindings sampleLedger ⟨sampleChain, [], []⟩
      sampleOps) :=
  (monitor_spawned_once sampleMsgBindings sampleEventBindings sampleLedger sampleChain.config
    sampleBootEnv sampleChain rfl [] sampleOps).1

theorem shutdown_run_sample :
    shutdown (run sampleMsgBindings sampleEventBindings sampleLedger ⟨sampleChain, [], []⟩
      sampleOps).chain (fun _ => .ok ()) = .ok () :=
  (shutdown_run sampleMsgBindings sampleEventBindings sampleLedger sampleChain.config
    sampleBootEnv sampleChain rfl [] sampleOps _).trans rfl

end Forcerelay
