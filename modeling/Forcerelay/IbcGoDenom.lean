import Forcerelay.Denom
import Forcerelay.Chain
import Mathlib.Data.Nat.Find
import Mathlib.Data.String.Basic

/-!
# `parse_denom_trace` against ibc-go's `ParseDenomTrace`

`parse_denom_trace` is "modified from ibc-go". `denomTraceSpec valid` states ibc-go's
algorithm as a reference: the number of hops is the largest `k` such that `k = 0`, or there are
more than two segments, `2k ≤ n` and the segments `parts[1], parts[3], …, parts[2k-1]` pass the
channel test `valid`; the path is the first `2k` segments and the base the rest.

With ibc-go's own test (`ibcGoIsChannelId`: `channel-` and 1 to 20 digits that fit in 64 bits)
the two differ, because `usize::from_str` also takes a leading `+` and any number of leading
zeros (`parseDenomTrace_ne_ibcGo`). With the test the Rust code really makes
(`rustIsChannelId`) they agree on every string (`parseDenomTrace_eq_denomTraceSpec`), and
`query_denom_trace` returns that reading of the path the transfer contract stores
(`queryDenomTrace_eq_ok`).
-/

namespace Forcerelay

/-- ibc-go's channel identifier: `channel-` and 1 to 20 ASCII digits whose value fits in
64 bits. -/
def ibcGoIsChannelId (c : String) : Bool :=
  let ds := c.data.drop channelPrefix.length
  channelPrefix.isPrefixOf c.data && 1 ≤ ds.length && ds.length ≤ 20 && ds.all Char.isDigit &&
    decide (decimalValue ds < UInt64.size)

/-- The channel identifiers `is_valid_channel_id` accepts: `channel-`, an optional `+`, then one
or more ASCII digits whose value is below `2^64`. -/
def rustIsChannelId (c : String) : Bool :=
  let ds := c.data.drop channelPrefix.length
  let ds := if ds.head? = some '+' then ds.tail else ds
  channelPrefix.isPrefixOf c.data && !ds.isEmpty && ds.all Char.isDigit &&
    decide (decimalValue ds < UInt64.size)

/-- `k` leading hops are admissible: `k = 0`, or there are more than two segments, `2k ≤ n`
and `parts[1], parts[3], …, parts[2k-1]` pass `valid`. -/
def AdmissibleHops (valid : String → Bool) (parts : List String) (k : Nat) : Prop :=
  k = 0 ∨ (parts.length > 2 ∧ 2 * k ≤ parts.length ∧ ∀ j < k, valid (parts.getD (2 * j + 1) "") = true)

instance (valid : String → Bool) (parts : List String) : DecidablePred (AdmissibleHops valid parts) :=
  fun k => inferInstanceAs (Decidable (k = 0 ∨ (parts.length > 2 ∧ 2 * k ≤ parts.length ∧
    ∀ j < k, valid (parts.getD (2 * j + 1) "") = true)))

/-- The number of hops: the largest admissible `k`. -/
def hopCount (valid : String → Bool) (parts : List String) : Nat :=
  Nat.findGreatest (AdmissibleHops valid parts) parts.length

/-- ibc-go's `ParseDenomTrace`, with the channel test `valid`. -/
def denomTraceSpec (valid : String → Bool) (s : String) : DenomTrace :=
  if '/' ∈ s.data then
    let parts := splitSlash s
    ⟨joinSlash (parts.take (2 * hopCount valid parts)),
      joinSlash (parts.drop (2 * hopCount valid parts))⟩
  else ⟨"", s⟩

/-! ### The hops the loop reads -/

/-- The number of leading `(port, channel)` pairs whose channel passes `valid`. -/
def leadingHops (valid : String → Bool) : List String → Nat
  | _ :: c :: rest => if valid c then leadingHops valid rest + 1 else 0
  | _ => 0

theorem two_mul_leadingHops_le (valid : String → Bool) :
    ∀ parts : List String, 2 * leadingHops valid parts ≤ parts.length
  | [] | [_] => by simp [leadingHops]
  | _ :: c :: rest => by
    have := two_mul_leadingHops_le valid rest
    simp only [leadingHops, List.length_cons]; split <;> omega

/-- With more than two segments the loop reads exactly the leading hops. -/
theorem extractLoop_true :
    ∀ parts : List String, extractLoop true parts =
      (parts.take (2 * leadingHops isValidChannelId parts),
        parts.drop (2 * leadingHops isValidChannelId parts))
  | [] | [_] => rfl
  | p :: c :: rest => by
    rw [extractLoop, leadingHops]
    by_cases hc : isValidChannelId c
    · simp only [hc, Bool.and_self, if_true, extractLoop_true rest, Nat.mul_succ]; rfl
    · simp [hc]

theorem extractLoop_false : ∀ parts : List String, extractLoop false parts = ([], parts)
  | [] | [_] => rfl
  | _ :: _ :: _ => by simp [extractLoop]

/-- `k` hops pass the index test exactly when `k` is at most the number of leading hops. -/
theorem hops_valid_iff (valid : String → Bool) :
    ∀ (parts : List String) (k : Nat),
      (2 * k ≤ parts.length ∧ ∀ j < k, valid (parts.getD (2 * j + 1) "") = true) ↔
        k ≤ leadingHops valid parts
  | parts, 0 => by simp
  | [], k + 1 | [_], k + 1 => by
    simp only [leadingHops, List.length_cons, List.length_nil]
    exact ⟨fun h => by omega, fun h => by omega⟩
  | p :: c :: rest, k + 1 => by
    have ih := hops_valid_iff valid rest k
    simp only [leadingHops, List.length_cons]
    constructor
    · rintro ⟨hlen, hall⟩
      have hc : valid c = true := hall 0 (Nat.succ_pos k)
      rw [if_pos hc]
      exact Nat.succ_le_succ (ih.1 ⟨by omega, fun j hj => by
        simpa [Nat.mul_succ] using hall (j + 1) (Nat.succ_lt_succ hj)⟩)
    · intro hle
      split at hle
      · obtain ⟨hlen, hall⟩ := ih.2 (Nat.le_of_succ_le_succ hle)
        refine ⟨by omega, fun j hj => ?_⟩
        cases j with
        | zero => assumption
        | succ j => simpa [Nat.mul_succ] using hall j (Nat.lt_of_succ_lt_succ hj)
      · omega

theorem hopCount_eq (valid : String → Bool) (parts : List String) :
    hopCount valid parts = if parts.length > 2 then leadingHops valid parts else 0 := by
  have hle := two_mul_leadingHops_le valid parts
  have hiff := hops_valid_iff valid parts
  rw [hopCount, Nat.findGreatest_eq_iff]
  by_cases hlong : parts.length > 2
  · simp only [if_pos hlong]
    refine ⟨by omega, fun _ => .inr ⟨hlong, (hiff _).2 le_rfl⟩, fun k hk _ hadm => ?_⟩
    rcases hadm with rfl | ⟨-, hk'⟩
    · omega
    · exact absurd ((hiff k).1 hk') (by omega)
  · simp only [if_neg hlong]
    refine ⟨Nat.zero_le _, fun h => absurd rfl h, fun k hk _ hadm => ?_⟩
    rcases hadm with rfl | ⟨h, -⟩
    · omega
    · exact hlong h

/-! ### The refinement -/

/-- `parse_denom_trace` is ibc-go's algorithm run with the code's own channel test. -/
theorem parseDenomTrace_eq_spec_isValidChannelId (s : String) :
    parseDenomTrace s = .ok (denomTraceSpec isValidChannelId s) := by
  rw [parseDenomTrace_eq, denomTraceSpec]
  split
  · simp only [extractPathAndBaseFromFullDenom, hopCount_eq]
    split
    · simp only [decide_eq_true ‹_›, extractLoop_true]
    · simp only [decide_eq_false ‹_›, extractLoop_false, Nat.mul_zero, List.take_zero,
        List.drop_zero]
  · rfl

/-! ### The channel test of the code -/

/-- The digit loop succeeds exactly on digit strings whose value stays below `usize::MAX`. -/
theorem parseDigits_toBool (ds : List Char) (acc : Nat) (hacc : acc ≤ usizeMax) :
    (parseDigits ds acc).toBool =
      (ds.all Char.isDigit && decide (ds.foldl (fun a c => a * 10 + digitValue c) acc ≤ usizeMax)) := by
  induction ds generalizing acc with
  | nil => simp [parseDigits, Except.toBool, hacc]
  | cons c cs ih =>
    have hge := le_foldl_digitValue cs (acc * 10 + digitValue c)
    simp only [parseDigits, List.all_cons, List.foldl_cons]
    by_cases hc : c.isDigit
    · by_cases hov : acc * 10 + digitValue c > usizeMax
      · rw [if_neg (by simp [hc])]
        split <;> simp [Except.toBool, hc] <;> omega
      · rw [if_neg (by simp [hc]), if_neg (by omega), if_neg hov, ih _ (by omega), hc, Bool.true_and]
    · simp [hc, Except.toBool]

theorem usizeFromStr_toBool (ds : List Char) :
    (usizeFromStr ds).toBool =
      (let ds := if ds.head? = some '+' then ds.tail else ds
       !ds.isEmpty && ds.all Char.isDigit && decide (decimalValue ds ≤ usizeMax)) := by
  have h0 : (0 : Nat) ≤ usizeMax := Nat.zero_le _
  match ds with
  | [] => rfl
  | [c] =>
    by_cases hp : c = '+'
    · subst hp; rfl
    · by_cases hm : c = '-'
      · subst hm; rfl
      · simp [usizeFromStr, hp, hm, parseDigits_toBool _ _ h0, decimalValue]
  | c :: d :: rest =>
    by_cases hp : c = '+'
    · subst hp; simp [usizeFromStr, parseDigits_toBool _ _ h0, decimalValue]
    · simp [usizeFromStr, hp, parseDigits_toBool _ _ h0, decimalValue]

theorem isValidChannelId_eq_rustIsChannelId (c : String) : isValidChannelId c = rustIsChannelId c := by
  have hval (n : Nat) : decide (n ≤ usizeMax) = decide (n < UInt64.size) :=
    decide_eq_decide.2 (by simp only [usizeMax, UInt64.size]; omega)
  simp only [isValidChannelId, rustIsChannelId, usizeFromStr_toBool, Bool.and_assoc, hval]

/-- `parse_denom_trace` never panics and is ibc-go's algorithm with a channel identifier taken
to be `channel-`, an optional `+` and one or more digits below `2^64`, which is exactly what
`is_valid_channel_id` accepts. -/
theorem parseDenomTrace_eq_denomTraceSpec :
    (∀ s, parseDenomTrace s = .ok (denomTraceSpec rustIsChannelId s)) ∧
      ∀ c, isValidChannelId c = rustIsChannelId c := by
  have h : isValidChannelId = rustIsChannelId := funext isValidChannelId_eq_rustIsChannelId
  exact ⟨fun s => h ▸ parseDenomTrace_eq_spec_isValidChannelId s, isValidChannelId_eq_rustIsChannelId⟩

/-- `channel-+0` passes `usize::from_str` but is no ibc-go channel identifier: the code reads a
hop where ibc-go keeps the whole denom as base. -/
theorem parseDenomTrace_ne_ibcGo :
    parseDenomTrace "transfer/channel-+0/uatom" = .ok ⟨"transfer/channel-+0", "uatom"⟩ ∧
      denomTraceSpec ibcGoIsChannelId "transfer/channel-+0/uatom" = ⟨"", "transfer/channel-+0/uatom"⟩ := by
  decide

/-! ### `query_denom_trace` -/

/-- `str::trim_start_matches(prefix)`, by at most `n` removals of `prefix`. -/
def trimStartMatchesAux (pfx : List Char) : Nat → List Char → List Char
  | 0, s => s
  | n + 1, s =>
    if pfx ≠ [] ∧ pfx.isPrefixOf s then trimStartMatchesAux pfx n (s.drop pfx.length) else s

/-- `str::trim_start_matches(prefix)`: every leading copy of `prefix` removed. -/
def trimStartMatches (s pfx : String) : String :=
  ⟨trimStartMatchesAux pfx.data s.length s.data⟩

/-- What `query_denom_trace` calls besides the parser: `H256::from_str` (failing with the text
of its error), the transfer contract's `denomTraces(bytes32)` view (failing with the `Debug`
text of the contract error), and the text `Error::other` keeps of an `Error`. -/
structure DenomBindings where
  h256FromStr : String → Except String H256
  denomTraces : H256 → Except String String
  errorText : Error → String

section
variable (db : DenomBindings) (chain : AxonChain)

/-- `query_denom_trace`: the path the transfer contract stores for `ibc/<hash>`, parsed. -/
def queryDenomTrace (hash : String) : Except Fault DenomTrace := do
  let hashBytes ← mapErr (db.h256FromStr (trimStartMatches hash "ibc/")) .other
  let _ ← mapErr chain.transferContract (.other ∘ db.errorText)
  let fullPath ← mapErr (db.denomTraces hashBytes) .query
  if fullPath.isEmpty then throw (.err (.emptyDenomTrace hash))
  parseDenomTrace fullPath

/-- `query_denom_trace` returns, for a stored non-empty path, ibc-go's reading of it with the
code's channel identifiers; it fails exactly when a call fails or no path is stored. -/
theorem queryDenomTrace_eq_ok (hash : String) (dt : DenomTrace) :
    queryDenomTrace db chain hash = .ok dt ↔
      ∃ h, db.h256FromStr (trimStartMatches hash "ibc/") = .ok h ∧
        (∃ w, chain.transferContract = .ok w) ∧
        ∃ path, db.denomTraces h = .ok path ∧ path ≠ "" ∧ denomTraceSpec rustIsChannelId path = dt := by
  have hspec : ∀ path, parseDenomTrace path = .ok (denomTraceSpec rustIsChannelId path) :=
    fun path => funext isValidChannelId_eq_rustIsChannelId ▸
      parseDenomTrace_eq_spec_isValidChannelId path
  simp only [queryDenomTrace, bind_eq_ok, mapErr_eq_ok]
  refine exists_congr fun h => and_congr_right fun _ => ?_
  constructor
  · rintro ⟨w, hw, path, hp, hparse⟩
    by_cases hnil : path = ""
    · rw [if_pos ((String.isEmpty_iff path).2 hnil)] at hparse; cases hparse
    · rw [if_neg (mt (String.isEmpty_iff path).1 hnil), hspec] at hparse
      exact ⟨⟨w, hw⟩, path, hp, hnil, Except.ok.inj hparse⟩
  · rintro ⟨⟨w, hw⟩, path, hp, hnil, rfl⟩
    exact ⟨w, hw, path, hp, by rw [if_neg (mt (String.isEmpty_iff path).1 hnil), hspec]; rfl⟩

/-- `query_denom_trace` never panics: its `Err`s are those of `H256::from_str`, of the transfer
contract, of the `denomTraces` call, and the empty-trace error naming the hash it was given. -/
theorem queryDenomTrace_eq_error (hash : String) (f : Fault) :
    queryDenomTrace db chain hash = .error f ↔
      (∃ e, db.h256FromStr (trimStartMatches hash "ibc/") = .error e ∧ f = .err (.other e)) ∨
      ∃ h, db.h256FromStr (trimStartMatches hash "ibc/") = .ok h ∧
        ((∃ e, chain.transferContract = .error e ∧ f = .err (.other (db.errorText e))) ∨
          (∃ w, chain.transferContract = .ok w) ∧
            ((∃ e, db.denomTraces h = .error e ∧ f = .err (.query e)) ∨
              db.denomTraces h = .ok "" ∧ f = .err (.emptyDenomTrace hash))) := by
  have hlast : ∀ path : String, (do
      if path.isEmpty then throw (.err (.emptyDenomTrace hash))
      parseDenomTrace path : Except Fault DenomTrace) = .error f ↔
        f = .err (.emptyDenomTrace hash) ∧ path = "" := by
    intro path
    by_cases hnil : path = ""
    · subst hnil
      exact ⟨fun h => ⟨(Except.error.inj h).symm, rfl⟩, fun ⟨h, _⟩ => h ▸ rfl⟩
    · simp [if_neg (mt (String.isEmpty_iff path).1 hnil), parseDenomTrace_eq, hnil]
  simp only [queryDenomTrace, bind_eq_error, mapErr_eq_error, mapErr_eq_ok, hlast,
    Function.comp_apply, exists_and_right, exists_eq_right_right]

end

end Forcerelay
