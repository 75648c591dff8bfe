import Mt6757.WifiHal.Roaming

/-!
# The cache bounds the encoder

A field of the caller's buffer is clamped when some reply has an attribute for it,
and is cached as it was when none has.
-/

set_option autoImplicit false

namespace Mt6757.WifiHal.Roaming

/-! ## What is cached -/

section Cache

variable {limits : Limits}

def Capabilities.field (caps : Capabilities) (i : Nat) : UInt32 :=
  match i with
  | 0 => caps.maxBlacklistSize
  | _ => caps.maxWhitelistSize

def countCapabilities (attrs : List VendorAttr) : Nat :=
  attrs.countP fun attr => attr.type = wifiAttributeRoamingCapabilities

def Within (limits : Limits) (caps : Capabilities) : Prop :=
  caps.maxBlacklistSize ≤ limits.maxBlacklistBssid ∧
    caps.maxWhitelistSize ≤ limits.maxWhitelistSsid

theorem field_store_self (caps : Capabilities) {i : Nat} (value : UInt32) :
    (caps.store i value).field i = value := by
  cases i <;> rfl

theorem field_store_other (caps : Capabilities) {i k : Nat} (value : UInt32) (first : i < 2)
    (second : k < 2) (different : k ≠ i) : (caps.store i value).field k = caps.field k := by
  match i, k with
  | 0, 1 => rfl
  | 1, 0 => rfl
  | 0, 0 => contradiction
  | 1, 1 => contradiction

theorem clamp_le (value bound : UInt32) : (if value > bound then bound else value) ≤ bound := by
  split
  · exact UInt32.le_refl bound
  · next small => exact UInt32.not_lt.mp small

/-- The loop clamps field `k` if it gets that far, and leaves it alone otherwise. -/
theorem storeCapabilities_field (attrs : List VendorAttr) (i : Nat) (caps : Capabilities)
    {k : Nat} (isField : k < 2) :
    (i ≤ k ∧ k < i + countCapabilities attrs →
        (storeCapabilities limits attrs i caps).field k ≤ limits.max k) ∧
      (¬ (i ≤ k ∧ k < i + countCapabilities attrs) →
        (storeCapabilities limits attrs i caps).field k = caps.field k) := by
  induction attrs generalizing i caps with
  | nil =>
      refine ⟨?_, fun _ => rfl⟩
      intro reached
      have none : countCapabilities [] = 0 := rfl
      omega
  | cons attr rest ih =>
      by_cases hit : attr.type = wifiAttributeRoamingCapabilities
      · have counted : countCapabilities (attr :: rest) = countCapabilities rest + 1 := by
          simp [countCapabilities, hit]
        rw [counted]
        by_cases room : i < setSizeMax
        · rw [storeCapabilities, if_pos ⟨hit, room⟩]
          obtain ⟨clamped, kept⟩ := ih (i + 1)
            (caps.store i (if attr.value > limits.max i then limits.max i else attr.value))
          by_cases here : k = i
          · subst here
            have stays := kept (by omega)
            rw [field_store_self] at stays
            constructor
            · intro reached
              rw [stays]
              exact clamp_le _ _
            · intro missed
              omega
          · refine ⟨fun reached => clamped (by omega), ?_⟩
            intro missed
            rw [kept (by omega), field_store_other caps _ room isField here]
        · rw [storeCapabilities, if_neg fun both => room both.2]
          have far : 2 ≤ i := Nat.le_of_not_lt room
          obtain ⟨-, kept⟩ := ih i caps
          exact ⟨fun reached => by omega, fun _ => kept (by omega)⟩
      · have counted : countCapabilities (attr :: rest) = countCapabilities rest := by
          simp [countCapabilities, hit]
        rw [counted, storeCapabilities, if_neg fun both => hit both.1]
        exact ih i caps

def CapabilityReply.reports (reply : CapabilityReply) (k : Nat) : Prop :=
  ∃ attrs, reply.attrs = some attrs ∧ k < countCapabilities attrs

theorem handleResponse_reported {caps : Capabilities} {reply : CapabilityReply} {k : Nat}
    (isField : k < 2) (reported : reply.reports k) :
    (handleResponse limits caps reply).field k ≤ limits.max k := by
  obtain ⟨attrs, isAttrs, reached⟩ := reported
  rw [handleResponse, isAttrs]
  exact (storeCapabilities_field attrs 0 caps isField).1 ⟨Nat.zero_le k, by omega⟩

theorem handleResponse_unreported {caps : Capabilities} {reply : CapabilityReply} {k : Nat}
    (isField : k < 2) (unreported : ¬ reply.reports k) :
    (handleResponse limits caps reply).field k = caps.field k := by
  rw [handleResponse]
  cases isAttrs : reply.attrs with
  | none => rfl
  | some attrs =>
      apply (storeCapabilities_field attrs 0 caps isField).2
      intro reached
      exact unreported ⟨attrs, isAttrs, by omega⟩

/-- After the replies a field is within its limit if and only if some reply has
reported it or it was before. -/
theorem foldl_handleResponse_le (replies : List CapabilityReply) (caps : Capabilities) {k : Nat}
    (isField : k < 2) :
    (replies.foldl (handleResponse limits) caps).field k ≤ limits.max k ↔
      (∃ reply ∈ replies, reply.reports k) ∨ caps.field k ≤ limits.max k := by
  induction replies generalizing caps with
  | nil => simp
  | cons reply rest ih =>
      rw [List.foldl_cons, ih, List.exists_mem_cons_iff]
      by_cases reported : reply.reports k
      · simp [reported, handleResponse_reported isField reported]
      · simp [reported, handleResponse_unreported isField reported]

end Cache

/-! ## What is encoded -/

section Encoder

variable {limits : Limits} {config : Config}

/-- An access to one of the two arrays of a configuration is inside it. -/
def Access.inBounds (limits : Limits) : Access → Prop
  | .blacklistBssid i => i < limits.maxBlacklistBssid.toNat
  | .whitelistSsid i => i < limits.maxWhitelistSsid.toNat
  | .copySsid _ => True
  | .terminateSsid _ => True

theorem putBlacklist_inBounds (left i : Nat) (encoding : Encoding)
    (room : i + left ≤ limits.maxBlacklistBssid.toNat)
    (earlier : ∀ access ∈ encoding.accesses, access.inBounds limits) :
    ∀ access ∈ (putBlacklist config left i encoding).2.accesses, access.inBounds limits := by
  induction left generalizing i encoding with
  | zero => exact earlier
  | succ left ih =>
      have grown : ∀ access ∈ encoding.accesses ++ [.blacklistBssid i],
          access.inBounds limits := by
        intro access member
        obtain old | new := List.mem_append.mp member
        · exact earlier access old
        · obtain rfl := List.mem_singleton.mp new
          exact Nat.lt_of_lt_of_le (by omega) room
      simp only [putBlacklist]
      split
      · exact grown
      · exact ih (i + 1) _ (by omega) grown

theorem putWhitelist_inBounds (left i : Nat) (encoding : Encoding)
    (room : i + left ≤ limits.maxWhitelistSsid.toNat)
    (earlier : ∀ access ∈ encoding.accesses, access.inBounds limits) :
    ∀ access ∈ (putWhitelist config left i encoding).2.accesses, access.inBounds limits := by
  induction left generalizing i encoding with
  | zero => exact earlier
  | succ left ih =>
      have here : i < limits.maxWhitelistSsid.toNat := by omega
      have grown : ∀ access ∈ encoding.accesses ++
          [.whitelistSsid i, .copySsid (config.whitelistSsid i).length.toNat,
            .terminateSsid (config.whitelistSsid i).length.toNat], access.inBounds limits := by
        intro access member
        obtain old | new := List.mem_append.mp member
        · exact earlier access old
        · simp only [List.mem_cons, List.not_mem_nil, or_false] at new
          obtain rfl | rfl | rfl := new
          · exact here
          · trivial
          · trivial
      simp only [putWhitelist]
      split
      · exact grown
      · exact ih (i + 1) _ (by omega) grown

theorem putConfig_inBounds (encoding : Encoding)
    (blacklist : config.numBlacklistBssid ≤ limits.maxBlacklistBssid)
    (whitelist : config.numWhitelistSsid ≤ limits.maxWhitelistSsid)
    (earlier : ∀ access ∈ encoding.accesses, access.inBounds limits) :
    ∀ access ∈ (putConfig config encoding).2.accesses, access.inBounds limits := by
  rw [UInt32.le_iff_toNat_le] at blacklist whitelist
  have blacklisted : ∀ encoding : Encoding,
      (∀ access ∈ encoding.accesses, access.inBounds limits) →
      ∀ access ∈ (putBlacklist config config.numBlacklistBssid.toNat 0 encoding).2.accesses,
        access.inBounds limits :=
    fun encoding earlier => putBlacklist_inBounds _ 0 encoding (by omega) earlier
  have whitelisted : ∀ encoding : Encoding,
      (∀ access ∈ encoding.accesses, access.inBounds limits) →
      ∀ access ∈ (putWhitelist config config.numWhitelistSsid.toNat 0 encoding).2.accesses,
        access.inBounds limits :=
    fun encoding earlier => putWhitelist_inBounds _ 0 encoding (by omega) earlier
  simp only [putConfig]
  split
  · exact earlier
  · split
    · exact blacklisted _ earlier
    · split
      · exact blacklisted _ earlier
      · split
        · exact whitelisted _ (blacklisted _ earlier)
        · exact whitelisted _ (blacklisted _ earlier)

theorem checkConfig_ok {cached : Capabilities} {given : Option Config}
    (checked : checkConfig cached given = .ok config) :
    config.numBlacklistBssid ≤ cached.maxBlacklistSize ∧
      config.numWhitelistSsid ≤ cached.maxWhitelistSize := by
  cases given with
  | none => contradiction
  | some given =>
      simp only [checkConfig] at checked
      split at checked
      · contradiction
      · next blacklist =>
        split at checked
        · contradiction
        · next whitelist =>
          obtain rfl := Except.ok.inj checked
          exact ⟨UInt32.not_lt.mp blacklist, UInt32.not_lt.mp whitelist⟩

theorem createRequest_inBounds (request : WifiRequest) (alloc : Option Nat)
    (blacklist : config.numBlacklistBssid ≤ limits.maxBlacklistBssid)
    (whitelist : config.numWhitelistSsid ≤ limits.maxWhitelistSsid) :
    ∀ access ∈ (createRequest request alloc config).2.2, access.inBounds limits := by
  simp only [createRequest]
  split
  · exact List.forall_mem_nil _
  · split
    · exact List.forall_mem_nil _
    · exact putConfig_inBounds _ blacklist whitelist (List.forall_mem_nil _)

/-- What the check lets through is encoded inside the arrays, if the cache is within
the limits. -/
theorem wifiConfigureRoaming_inBounds {cached : Capabilities} (within : Within limits cached)
    (config : Option Config) (request : WifiRequest) (alloc : Option Nat)
    (responded : WifiError) :
    ∀ access ∈ (wifiConfigureRoaming cached config request alloc responded).2,
      access.inBounds limits := by
  rw [wifiConfigureRoaming]
  cases checked : checkConfig cached config with
  | error code => exact List.forall_mem_nil _
  | ok config =>
      obtain ⟨blacklist, whitelist⟩ := checkConfig_ok checked
      have encoded := createRequest_inBounds request alloc
        (UInt32.le_trans blacklist within.1) (UInt32.le_trans whitelist within.2)
      dsimp only
      split
      · exact encoded
      · exact encoded

end Encoder

/-! ## Runs -/

section Runs

variable (limits : Limits)

structure CapabilityCall where
  caps : Option Capabilities
  exchange : Exchange
  deriving DecidableEq, Repr

def cacheAfter (cached : Capabilities) (call : CapabilityCall) : Capabilities :=
  ((wifiGetRoamingCapabilities limits (some cached) call.caps call.exchange).2.1).getD cached

/-- The cache is within the limits, and so is whatever a configuration it admits makes
the encoder access. -/
structure Bounded (cached : Capabilities) : Prop where
  within : Within limits cached
  encoded : ∀ config request alloc responded,
    ∀ access ∈ (wifiConfigureRoaming cached config request alloc responded).2,
      access.inBounds limits

def AlwaysBounded : List CapabilityCall → Capabilities → Prop
  | [], cached => Bounded limits cached
  | call :: rest, cached => Bounded limits cached ∧ AlwaysBounded rest (cacheAfter limits cached call)

/-- A call that the driver answers with success while nothing is cached. -/
def CapabilityCall.fills (call : CapabilityCall) (cached : Capabilities) : Prop :=
  cached = .zero ∧ call.exchange.result = wifiSuccess

/-- Each field is reported by some reply, or was within its limit in the buffer. -/
def CapabilityCall.supplied (call : CapabilityCall) : Prop :=
  ∀ caps, call.caps = some caps → ∀ k < 2,
    (∃ reply ∈ call.exchange.replies, reply.reports k) ∨ caps.field k ≤ limits.max k

def FillsSupplied : List CapabilityCall → Capabilities → Prop
  | [], _ => True
  | call :: rest, cached =>
      (call.fills cached → call.supplied limits) ∧
        FillsSupplied rest (cacheAfter limits cached call)

variable {limits}

theorem within_iff_fields (caps : Capabilities) :
    Within limits caps ↔ ∀ k < 2, caps.field k ≤ limits.max k := by
  constructor
  · intro within k isField
    match k with
    | 0 => exact within.1
    | 1 => exact within.2
  · intro fields
    exact ⟨fields 0 (by omega), fields 1 (by omega)⟩

theorem cacheAfter_within_iff {cached : Capabilities} (within : Within limits cached)
    (call : CapabilityCall) :
    Within limits (cacheAfter limits cached call) ↔
      (call.fills cached → call.supplied limits) := by
  obtain ⟨given, exchange⟩ := call
  cases given with
  | none => exact iff_of_true within fun _ caps absent => (Option.some_ne_none caps absent.symm).elim
  | some caps =>
      by_cases empty : cached.maxBlacklistSize = 0 ∧ cached.maxWhitelistSize = 0
      · have isZero : cached = .zero := by
          obtain ⟨blacklist, whitelist⟩ := cached
          exact congrArg₂ Capabilities.mk empty.1 empty.2
        by_cases succeeded : exchange.result = wifiSuccess
        · have filled : cacheAfter limits cached ⟨some caps, exchange⟩ =
              exchange.replies.foldl (handleResponse limits) caps := by
            simp [cacheAfter, wifiGetRoamingCapabilities, empty, succeeded]
          rw [filled, within_iff_fields, forall_prop_of_true ⟨isZero, succeeded⟩]
          have fields : ∀ k < 2, (exchange.replies.foldl (handleResponse limits) caps).field k ≤
              limits.max k ↔ (∃ reply ∈ exchange.replies, reply.reports k) ∨
                caps.field k ≤ limits.max k :=
            fun k isField => foldl_handleResponse_le exchange.replies caps isField
          constructor
          · intro bounded caps' same k isField
            obtain rfl := Option.some.inj same
            exact (fields k isField).mp (bounded k isField)
          · intro supplied k isField
            exact (fields k isField).mpr (supplied caps rfl k isField)
        · have kept : cacheAfter limits cached ⟨some caps, exchange⟩ = cached := by
            simp [cacheAfter, wifiGetRoamingCapabilities, empty, succeeded]
          rw [kept]
          exact iff_of_true within fun fills => (succeeded fills.2).elim
      · have kept : cacheAfter limits cached ⟨some caps, exchange⟩ = cached := by
          simp [cacheAfter, wifiGetRoamingCapabilities, empty]
        rw [kept]
        refine iff_of_true within fun fills => (empty ?_).elim
        rw [fills.1]
        exact ⟨rfl, rfl⟩

theorem bounded_of_within {cached : Capabilities} (within : Within limits cached) :
    Bounded limits cached :=
  ⟨within, wifiConfigureRoaming_inBounds within⟩

theorem alwaysBounded_iff_of_within (calls : List CapabilityCall) {cached : Capabilities}
    (within : Within limits cached) :
    AlwaysBounded limits calls cached ↔ FillsSupplied limits calls cached := by
  induction calls generalizing cached with
  | nil => exact iff_of_true (bounded_of_within within) trivial
  | cons call rest ih =>
      have step := cacheAfter_within_iff within call
      rw [AlwaysBounded, FillsSupplied, and_iff_right (bounded_of_within within)]
      by_cases stays : Within limits (cacheAfter limits cached call)
      · rw [ih stays, and_iff_right (step.mp stays)]
      · have lost : ¬ AlwaysBounded limits rest (cacheAfter limits cached call) := by
          intro always
          cases rest with
          | nil => exact stays always.within
          | cons => exact stays always.1.within
        exact iff_of_false lost fun supplied => stays (step.mpr supplied.1)

/-- From `wifi_initialize` on, the cache bounds the encoder in every sequence of calls
in which each call that fills the cache is supplied, and in no other. -/
theorem roaming_bounded_iff (calls : List CapabilityCall) :
    AlwaysBounded limits calls .zero ↔ FillsSupplied limits calls .zero := by
  apply alwaysBounded_iff_of_within
  exact ⟨UInt32.zero_le, UInt32.zero_le⟩

end Runs

/-! ## A reply without attributes -/

def aospLimits : Limits := ⟨16, 8⟩

/-- The driver acknowledges the request; the buffer was never written. -/
def acknowledged : CapabilityCall := ⟨some ⟨1000, 1000⟩, ⟨wifiSuccess, []⟩⟩

/-- A configuration of 17 BSSIDs, which the cached 1000 admits. -/
def seventeen : Config := ⟨17, fun _ => [0, 0, 0, 0, 0, 0], 0, fun _ => ⟨0, fun _ => 0⟩⟩

theorem unwritten_buffer_cached : ¬ AlwaysBounded aospLimits [acknowledged] .zero ∧
    .blacklistBssid 16 ∈ (wifiConfigureRoaming (cacheAfter aospLimits .zero acknowledged)
      (some seventeen) ⟨0, -1, none⟩ (some 4096) wifiSuccess).2 := by
  refine ⟨?_, by decide⟩
  intro always
  have within : (1000 : UInt32) ≤ 16 := always.2.within.1
  exact absurd within (by decide)

end Mt6757.WifiHal.Roaming
