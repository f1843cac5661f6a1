import Forcerelay.Basic

/-!
# Denom traces

`query_denom_trace` reads a full ICS-20 denom such as `transfer/channel-0/uatom` from the
transfer contract and `parse_denom_trace` splits it into the path of (port, channel) hops and the
base denom: the segments are read two at a time while the second of the pair is a channel
identifier (`is_valid_channel_id`), and the rest is the base.

Strings are split and joined on their characters: `split('/')` is `List.splitOn '/'` and
`join("/")` is `List.intercalate ['/']`. A channel identifier is checked with Rust's
`usize::from_str`, modelled here for the 64-bit targets the relayer is built for.

The main result is the round trip `parseDenomTrace_joinSlash`: joining hops whose channels are
`channel-<n>` and a base denom, then parsing, gives the hops and the base back.
-/

namespace Forcerelay

/-- `ibc_relayer::denom::DenomTrace`. -/
structure DenomTrace where
  path : String
  baseDenom : String
  deriving DecidableEq, Repr

/-! ### `usize::from_str` -/

/-- The kinds of `core::num::ParseIntError`. -/
inductive IntErrorKind where
  | empty
  | invalidDigit
  | posOverflow
  deriving DecidableEq, Repr

/-- `usize::MAX` on a 64-bit target. -/
def usizeMax : Nat := UInt64.size - 1

/-- The value of one decimal digit. -/
def digitValue (c : Char) : Nat := c.toNat - '0'.toNat

/-- The digit loop of `from_str_radix` in radix 10: `to_digit`, then `checked_mul` and
`checked_add` on the accumulator. -/
def parseDigits : List Char → Nat → Except IntErrorKind Nat
  | [], acc => .ok acc
  | c :: cs, acc =>
    if !c.isDigit then .error .invalidDigit
    else if acc * 10 > usizeMax then .error .posOverflow
    else if acc * 10 + digitValue c > usizeMax then .error .posOverflow
    else parseDigits cs (acc * 10 + digitValue c)

/-- `usize::from_str`: an optional `+` (a lone sign is an invalid digit), then the digits. -/
def usizeFromStr : List Char → Except IntErrorKind Nat
  | [] => .error .empty
  | ['+'] | ['-'] => .error .invalidDigit
  | '+' :: digits => parseDigits digits 0
  | digits => parseDigits digits 0

/-- The `PREFIX` of `is_valid_channel_id`. -/
def channelPrefix : List Char := "channel-".data

/-- `is_valid_channel_id`: `c` starts with `channel-` and the rest parses as a `usize`. -/
def isValidChannelId (c : String) : Bool :=
  channelPrefix.isPrefixOf c.data && (usizeFromStr (c.data.drop channelPrefix.length)).toBool

/-! ### Splitting and joining on `/` -/

/-- `raw_denom.split('/').collect::<Vec<_>>()`. -/
def splitSlash (s : String) : List String := (s.data.splitOn '/').map String.mk

/-- `parts.join("/")`. -/
def joinSlash (parts : List String) : String := ⟨['/'].intercalate (parts.map String.data)⟩

/-! ### `parse_denom_trace` -/

/-- The `for i in (0..len).step_by(2)` loop of `extract_path_and_base_from_full_denom`, on the
segments `parts[i..]` not read yet; `long` is the loop's `len > 2`. It returns the segments
pushed to `path` and those `base` is extended with. -/
def extractLoop (long : Bool) : List String → List String × List String
  | p :: c :: rest =>
    if long && isValidChannelId c then
      let r := extractLoop long rest
      (p :: c :: r.1, r.2)
    else ([], p :: c :: rest)
  | rest => ([], rest)

/-- `extract_path_and_base_from_full_denom`. -/
def extractPathAndBaseFromFullDenom (parts : List String) : String × String :=
  let r := extractLoop (parts.length > 2) parts
  (joinSlash r.1, joinSlash r.2)

/-- `parse_denom_trace`. Indexing `parts[0]` would panic on an empty split. -/
def parseDenomTrace (rawDenom : String) : Except Fault DenomTrace := do
  let parts := splitSlash rawDenom
  let part0 ← expect parts.head? "index out of bounds: the len is 0 but the index is 0"
  if part0 = rawDenom then
    pure ⟨"", rawDenom⟩
  else
    let r := extractPathAndBaseFromFullDenom parts
    pure ⟨r.1, r.2⟩

/-! ### The split -/

theorem splitSlash_ne_nil (s : String) : splitSlash s ≠ [] := by
  simp [splitSlash, List.splitOn, List.splitOnP_ne_nil]

/-- The first part of a split is the whole list only when no separator occurs. -/
theorem not_mem_of_head_splitOnP {p : Char → Bool} (xs : List Char)
    (h : (xs.splitOnP p).head? = some xs) : ∀ x ∈ xs, ¬p x := by
  induction xs with
  | nil => simp
  | cons x xs ih =>
    rw [List.splitOnP_cons] at h
    split at h
    · simp at h
    · obtain ⟨y, ys, hsplit⟩ := List.exists_cons_of_ne_nil (List.splitOnP_ne_nil p xs)
      simp only [hsplit, List.modifyHead_cons, List.head?_cons, Option.some.injEq,
        List.cons.injEq, true_and] at h
      subst h
      intro z hz
      rcases List.mem_cons.1 hz with rfl | hz
      · assumption
      · exact ih (by simp [hsplit]) z hz

theorem head_splitSlash (s : String) :
    (splitSlash s).head? = some s ↔ '/' ∉ s.data := by
  constructor
  · intro h hmem
    have h' : (s.data.splitOnP (· == '/')).head? = some s.data := by
      simpa [splitSlash, List.splitOn, String.ext_iff] using congrArg (Option.map String.data) h
    exact not_mem_of_head_splitOnP _ h' '/' hmem (by simp)
  · intro h
    have hfree : ∀ x ∈ s.data, ¬(x == '/') = true := by
      intro x hx hx'; rw [beq_iff_eq] at hx'; exact h (hx' ▸ hx)
    rw [splitSlash, List.splitOn, List.splitOnP_eq_single _ _ hfree]
    rfl

theorem joinSlash_singleton (b : String) : joinSlash [b] = b := by
  simp [joinSlash, List.intercalate]

theorem joinSlash_cons_cons (x y : String) (ys : List String) :
    joinSlash (x :: y :: ys) = ⟨x.data ++ '/' :: (joinSlash (y :: ys)).data⟩ := rfl

theorem joinSlash_splitSlash (s : String) : joinSlash (splitSlash s) = s := by
  simp [joinSlash, splitSlash, Function.comp_def, List.intercalate_splitOn]

/-- Splitting `x/…` where `x` has no `/` gives `x` and the split of the rest. -/
theorem splitSlash_cons (x s : String) (hx : '/' ∉ x.data) :
    splitSlash ⟨x.data ++ '/' :: s.data⟩ = x :: splitSlash s := by
  have hfree : ∀ y ∈ x.data, ¬(y == '/') = true := by
    intro y hy hy'; rw [beq_iff_eq] at hy'; exact hx (hy' ▸ hy)
  simp only [splitSlash, List.splitOn]
  rw [List.splitOnP_first _ _ hfree '/' (by simp)]
  rfl

/-- Splitting a join of `/`-free segments followed by any string `b` gives the segments and
the split of `b`. -/
theorem splitSlash_joinSlash_append (b : String) :
    ∀ (xs : List String), (∀ x ∈ xs, '/' ∉ x.data) →
      splitSlash (joinSlash (xs ++ [b])) = xs ++ splitSlash b
  | [], _ => by simp [joinSlash_singleton]
  | x :: xs, h => by
    have hxs := splitSlash_joinSlash_append b xs (fun y hy => h y (List.mem_cons_of_mem x hy))
    cases xs with
    | nil =>
      simpa [joinSlash_cons_cons, joinSlash_singleton] using
        splitSlash_cons x b (h x (List.mem_cons_self x _))
    | cons y ys =>
      rw [List.cons_append, List.cons_append, joinSlash_cons_cons, ← List.cons_append,
        splitSlash_cons x _ (h x (List.mem_cons_self x _)), hxs]
      rfl

/-- Without panicking, `parse_denom_trace` returns the whole string as base when it has no `/`,
and the result of the extract loop otherwise. -/
theorem parseDenomTrace_eq (s : String) :
    parseDenomTrace s = .ok (if '/' ∈ s.data then
      ⟨(extractPathAndBaseFromFullDenom (splitSlash s)).1,
        (extractPathAndBaseFromFullDenom (splitSlash s)).2⟩ else ⟨"", s⟩) := by
  obtain ⟨p0, ps, hsplit⟩ := List.exists_cons_of_ne_nil (splitSlash_ne_nil s)
  have hhead := head_splitSlash s
  rw [hsplit, List.head?_cons, Option.some.injEq] at hhead
  simp only [parseDenomTrace, hsplit, List.head?_cons, expect_some, ok_bind]
  by_cases h : '/' ∈ s.data
  · simp only [h, if_true, show p0 ≠ s from fun he => hhead.1 he h, if_false]; rfl
  · simp only [h, if_false, show p0 = s from hhead.2 h, if_true]; rfl

/-! ### Channel identifiers -/

/-- The decimal value of a digit string. -/
def decimalValue (ds : List Char) : Nat := ds.foldl (fun acc c => acc * 10 + digitValue c) 0

/-- A channel identifier as the hops of an ICS-20 path carry it: `channel-` followed by one or
more ASCII decimal digits whose value is below `2^64` (`UInt64.size`). -/
def IsChannelIdentifier (c : String) : Prop :=
  ∃ ds, c.data = channelPrefix ++ ds ∧ ds ≠ [] ∧ (∀ d ∈ ds, d.isDigit) ∧ decimalValue ds < UInt64.size

theorem le_foldl_digitValue (ds : List Char) (acc : Nat) :
    acc ≤ ds.foldl (fun a c => a * 10 + digitValue c) acc := by
  induction ds generalizing acc with
  | nil => exact le_refl _
  | cons c cs ih => exact le_trans (show acc ≤ acc * 10 + digitValue c by omega) (ih _)

/-- Below `usize::MAX`, the digit loop computes the decimal value. -/
theorem parseDigits_eq_foldl (ds : List Char) (acc : Nat) (hd : ∀ d ∈ ds, d.isDigit)
    (hle : ds.foldl (fun a c => a * 10 + digitValue c) acc ≤ usizeMax) :
    parseDigits ds acc = .ok (ds.foldl (fun a c => a * 10 + digitValue c) acc) := by
  induction ds generalizing acc with
  | nil => rfl
  | cons c cs ih =>
    have hc := hd c (List.mem_cons_self c cs)
    have hge := le_foldl_digitValue cs (acc * 10 + digitValue c)
    simp only [List.foldl_cons] at hle ⊢
    rw [parseDigits, if_neg (by simp [hc]), if_neg (by omega), if_neg (by omega)]
    exact ih _ (fun d hd' => hd d (List.mem_cons_of_mem c hd')) hle

theorem usizeFromStr_of_digit (c : Char) (cs : List Char) (h : c.isDigit = true) :
    usizeFromStr (c :: cs) = parseDigits (c :: cs) 0 := by
  have h1 : c ≠ '+' := by rintro rfl; simp at h
  have h2 : c ≠ '-' := by rintro rfl; simp at h
  cases cs <;> simp [usizeFromStr, h1, h2]

theorem isValidChannelId_of_isChannelIdentifier {c : String} (h : IsChannelIdentifier c) :
    isValidChannelId c = true := by
  obtain ⟨ds, hc, hne, hd, hlt⟩ := h
  obtain ⟨d, ds', rfl⟩ := List.exists_cons_of_ne_nil hne
  have hmax : decimalValue (d :: ds') ≤ usizeMax := by simp only [usizeMax]; omega
  simp only [isValidChannelId, hc, List.isPrefixOf_iff_prefix, List.prefix_append, List.drop_left,
    usizeFromStr_of_digit d ds' (hd d (List.mem_cons_self d ds')), decimalValue] at hmax ⊢
  rw [parseDigits_eq_foldl _ _ hd hmax]
  rfl

theorem prefix_of_isValidChannelId {c : String} (h : isValidChannelId c = true) :
    channelPrefix <+: c.data := by
  simp only [isValidChannelId, Bool.and_eq_true, List.isPrefixOf_iff_prefix] at h
  exact h.1

/-! ### The round trip -/

/-- The segments of a list of hops: `port_1, channel_1, …, port_k, channel_k`. -/
def hopSegments (hops : List (String × String)) : List String := hops.flatMap fun h => [h.1, h.2]

@[simp] theorem hopSegments_nil : hopSegments [] = [] := rfl

@[simp] theorem hopSegments_cons (h : String × String) (hops : List (String × String)) :
    hopSegments (h :: hops) = h.1 :: h.2 :: hopSegments hops := rfl

/-- The loop stops at once when the second segment is not a channel identifier. -/
theorem extractLoop_of_not_valid (long : Bool) (rest : List String)
    (h : ∀ c, rest[1]? = some c → isValidChannelId c = false) : extractLoop long rest = ([], rest) := by
  match rest, h with
  | [], _ => rfl
  | [_], _ => rfl
  | p :: c :: r, h =>
    have hc : isValidChannelId c = false := h c (by simp)
    simp [extractLoop, hc]

/-- Hops whose channels are valid are read into the path. -/
theorem extractLoop_hopSegments (rest : List String) :
    ∀ hops : List (String × String), (∀ h ∈ hops, isValidChannelId h.2) →
      extractLoop true (hopSegments hops ++ rest) =
        (hopSegments hops ++ (extractLoop true rest).1, (extractLoop true rest).2)
  | [], _ => rfl
  | h :: hops, hv => by
    have ih := extractLoop_hopSegments rest hops (fun h' hh' => hv h' (List.mem_cons_of_mem h hh'))
    rw [hopSegments_cons, List.cons_append, List.cons_append, extractLoop,
      if_pos (by simp [hv h (List.mem_cons_self h hops)]), ih]
    rfl

/-- Joining hops of `/`-free ports and `channel-<n>` channels with a base denom whose second
segment does not start with `channel-`, then parsing, gives the hops and the base back. -/
theorem parseDenomTrace_joinSlash (hops : List (String × String)) (b : String)
    (hports : ∀ h ∈ hops, '/' ∉ h.1.data) (hchans : ∀ h ∈ hops, '/' ∉ h.2.data)
    (hids : ∀ h ∈ hops, IsChannelIdentifier h.2)
    (hb : ∀ seg, (splitSlash b)[1]? = some seg → ¬ channelPrefix <+: seg.data) :
    parseDenomTrace (joinSlash (hopSegments hops ++ [b])) = .ok ⟨joinSlash (hopSegments hops), b⟩ := by
  have hseg : ∀ x ∈ hopSegments hops, '/' ∉ x.data := by
    intro x hx
    obtain ⟨h, hh, hx⟩ := List.mem_flatMap.1 hx
    rcases List.mem_pair.1 hx with rfl | rfl
    exacts [hports h hh, hchans h hh]
  have hstop (long : Bool) : extractLoop long (splitSlash b) = ([], splitSlash b) :=
    extractLoop_of_not_valid long _ fun c hc => by
      cases hv : isValidChannelId c
      · rfl
      · exact absurd (prefix_of_isValidChannelId hv) (hb c hc)
  rw [parseDenomTrace_eq, splitSlash_joinSlash_append b _ hseg]
  cases hops with
  | nil =>
    simp only [hopSegments_nil, List.nil_append, joinSlash_singleton]
    split_ifs
    · simp [extractPathAndBaseFromFullDenom, hstop, joinSlash_splitSlash]
    · rfl
  | cons h t =>
    have hslash : '/' ∈ (joinSlash (hopSegments (h :: t) ++ [b])).data := by
      simp [joinSlash_cons_cons]
    have hlong : (hopSegments (h :: t) ++ splitSlash b).length > 2 := by
      have := List.length_pos.2 (splitSlash_ne_nil b)
      simp only [hopSegments_cons, List.cons_append, List.length_cons, List.length_append]; omega
    have hv : ∀ h' ∈ h :: t, isValidChannelId h'.2 :=
      fun h' hh' => isValidChannelId_of_isChannelIdentifier (hids h' hh')
    simp only [if_pos hslash, extractPathAndBaseFromFullDenom, decide_eq_true hlong,
      extractLoop_hopSegments _ _ hv, hstop, List.append_nil, joinSlash_splitSlash]

theorem parseDenomTrace_two_hops :
    parseDenomTrace (joinSlash (hopSegments [("transfer", "channel-0"), ("transfer", "channel-12")] ++
      ["gravity/0xabc"])) = .ok ⟨"transfer/channel-0/transfer/channel-12", "gravity/0xabc"⟩ :=
  parseDenomTrace_joinSlash _ _ (by decide) (by decide)
    (by
      simp only [List.mem_cons, List.mem_singleton, List.not_mem_nil, or_false, forall_eq_or_imp, forall_eq]
      exact ⟨⟨['0'], rfl, by decide, by decide, by decide⟩, ⟨['1', '2'], rfl, by decide, by decide, by decide⟩⟩)
    (fun seg h h' => by
      rw [show (splitSlash "gravity/0xabc")[1]? = some "0xabc" by decide, Option.some.injEq] at h
      subst h
      exact absurd h' (by decide))

end Forcerelay
