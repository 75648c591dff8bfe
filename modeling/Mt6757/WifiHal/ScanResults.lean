import Mt6757.Lib.KeyedList
import Mt6757.WifiHal.CountedReplies
import Mt6757.WifiHal.FullScan
import Mt6757.WifiHal.Request

/-!
# Cached scan results

`GetScanResultsCommand` asks for scans again and again, each reply nests them in
containers, and each container carries a count that a list of results is cut to.  The
scans go into the caller's array, whose first entries are modelled as a list.
-/

set_option autoImplicit false

namespace Mt6757.WifiHal

open MemAccess

def gscanSubcmdGetScanResults : UInt32 := 0x1004

def gscanAttributeScanResultsComplete : Nat := 21
def gscanAttributeNumOfResults : Nat := 30
def gscanAttributeFlushResults : Nat := 31
def gscanAttributeScanResults : Nat := 32
def gscanAttributeScanId : Nat := 33
def gscanAttributeScanFlags : Nat := 34
def gscanAttributeChBucketBitmask : Nat := 36

/-- An entry of `wifi_cached_scan_results::results`. -/
structure ScanSlot where
  record : ScanRecord
  ieLength : Nat
  deriving DecidableEq, Repr

/-- `wifi_cached_scan_results`, with the results that were filled. -/
structure CachedScan where
  scanId : Int
  flags : Int
  numResults : Int
  bucketsScanned : Int
  results : List ScanSlot
  deriving DecidableEq, Repr

/-- `mScans` up to `mRetrieved`, and `mCompleted`. -/
structure ScanFetch where
  scans : List CachedScan
  completed : Nat
  deriving DecidableEq, Repr

structure ScanLocals where
  scanId : Int
  flags : Int
  num : Int
  mask : Int
  deriving DecidableEq, Repr

def ScanLocals.zero : ScanLocals := ⟨0, 0, 0, 0⟩

/-! ## Replies -/

def readSlot (maxApCachePerScan : Nat) (mem : Octets) (attr i : Nat) :
    Traced MemAccess ScanSlot := do
  let bound := Netlink.data attr + (Netlink.payloadLen mem attr).toNat
  let result := Netlink.data attr + i * wifiGscanResult.sizeof
  let record ← convertToHalResult mem result bound
  let ieLength ← word mem (result + wifiGscanResult.offsetof 9) 4 bound
  Traced.emit (.write i 1 maxApCachePerScan)
  pure ⟨record, ieLength⟩

def cutNum (maxApCachePerScan : Nat) (mem : Octets) (attr : Nat) (num : Int) : Int :=
  min (min num ((Netlink.payloadLen mem attr).toNat / wifiGscanResult.sizeof : Nat))
    maxApCachePerScan

def storeScan (maxApCachePerScan max : Nat) (mem : Octets) (attr : Nat) (locals : ScanLocals)
    (fetch : ScanFetch) : Traced MemAccess ScanFetch := do
  let results ← Traced.each (readSlot maxApCachePerScan mem attr) (List.range locals.num.toNat)
  Traced.emit (.write fetch.scans.length 1 max)
  pure { fetch with
    scans := fetch.scans ++ [⟨locals.scanId, locals.flags, locals.num, locals.mask, results⟩] }

/-- The loop over a container.  A full array ends it. -/
def takeContainer (maxApCachePerScan max : Nat) (mem : Octets) :
    ScanLocals → ScanFetch → List Nat → Traced MemAccess ScanFetch
  | _, fetch, [] => pure fetch
  | locals, fetch, attr :: rest =>
      let type := Netlink.attrType mem attr
      let data := Netlink.data attr
      if type = gscanAttributeScanId then
        takeContainer maxApCachePerScan max mem
          { locals with scanId := signedWord 4 (mem.word data 4) } fetch rest
      else if type = gscanAttributeScanFlags then
        takeContainer maxApCachePerScan max mem { locals with flags := mem.word data 1 } fetch rest
      else if type = gscanAttributeNumOfResults then
        takeContainer maxApCachePerScan max mem
          { locals with num := signedWord 4 (mem.word data 4) } fetch rest
      else if type = gscanAttributeChBucketBitmask then
        takeContainer maxApCachePerScan max mem
          { locals with mask := signedWord 4 (mem.word data 4) } fetch rest
      else if type = gscanAttributeScanResults ∧ locals.num ≠ 0 then
        if max ≤ fetch.scans.length then pure fetch
        else do
          let locals := { locals with num := cutNum maxApCachePerScan mem attr locals.num }
          let next ← storeScan maxApCachePerScan max mem attr locals fetch
          takeContainer maxApCachePerScan max mem locals next rest
      else takeContainer maxApCachePerScan max mem locals fetch rest

def IsContainer (mem : Octets) (attr : Nat) : Prop :=
  gscanAttributeNumOfResults ≤ Netlink.attrType mem attr ∧
    Netlink.attrType mem attr ≤ gscanAttributeChBucketBitmask

instance (mem : Octets) (attr : Nat) : Decidable (IsContainer mem attr) := by
  unfold IsContainer; infer_instance

def takeReplyAttr (maxApCachePerScan max : Nat) (mem : Octets) (fetch : ScanFetch)
    (attr : Nat) : Traced MemAccess ScanFetch :=
  if Netlink.attrType mem attr = gscanAttributeScanResultsComplete then
    pure { fetch with completed := mem.word (Netlink.data attr) 1 }
  else if IsContainer mem attr then
    takeContainer maxApCachePerScan max mem .zero fetch (Netlink.inside mem attr)
  else pure fetch

/-- `GetScanResultsCommand::handleResponse`: the payload of the vendor data is taken for
an attribute, and the loop is over what is inside.  Reads are not followed except in
the copy of the results. -/
def GetScanResultsCommand.handleResponse (maxApCachePerScan max : Nat) (fetch : ScanFetch)
    (reply : VendorMessage) : Traced MemAccess ScanFetch :=
  if reply.cmd ≠ nl80211CmdVendor then pure fetch
  else
    match reply.vendorData with
    | none => pure fetch
    | some ⟨mem, len⟩ =>
        if len = 0 then pure fetch
        else Traced.foldl (takeReplyAttr maxApCachePerScan max mem) fetch (Netlink.inside mem 0)

/-! ## Requests -/

def GetScanResultsCommand.createRequest (request : WifiRequest) (alloc : Option Nat) (num : Nat)
    (flush : UInt8) : Int × WifiRequest :=
  match request.create alloc googleOui gscanSubcmdGetScanResults with
  | (result, request) =>
      if result < 0 then (result, request)
      else
        match request.mMsg with
        | none => (result, request)
        | some msg =>
            match (msg.nestStart nl80211AttrVendorData).2.putU32
                (.ofNat gscanAttributeNumOfResults) (.ofNat num) with
            | (result, msg) =>
                if result < 0 then (result, { request with mMsg := some msg })
                else
                  match msg.put (.ofNat gscanAttributeFlushResults) [flush] with
                  | (result, msg) =>
                      if result < 0 then (result, { request with mMsg := some msg })
                      else (wifiSuccess, { request with mMsg := some msg.nestEnd })

/-- One turn of the request loop as the environment makes it: the memory for the
message, the replies that reach `handleResponse`, the result of `requestResponse`. -/
structure ScanRound where
  alloc : Option Nat
  replies : List VendorMessage
  result : Int

structure ScanCommandSetup where
  maxApCachePerScan : Nat
  max : Nat
  flush : UInt8
  familyId : Int32
  ifaceId : Int32

namespace ScanCommandSetup

variable (setup : ScanCommandSetup)

def created (retrieved : Nat) (round : ScanRound) : Int :=
  (GetScanResultsCommand.createRequest ⟨setup.familyId, setup.ifaceId, none⟩ round.alloc
    (setup.max - retrieved) setup.flush).1

def handleReplies (fetch : ScanFetch) (replies : List VendorMessage) :
    Traced MemAccess ScanFetch :=
  Traced.foldl (GetScanResultsCommand.handleResponse setup.maxApCachePerScan setup.max)
    fetch replies

end ScanCommandSetup

structure ScanOutcome where
  result : Int
  requests : Nat
  /-- `*mNum`, once it is written. -/
  num : Option Nat
  fetch : ScanFetch
  deriving DecidableEq, Repr

/-- The request loop with `left` turns to go, the next one being turn `i`. -/
def executeFrom (setup : ScanCommandSetup) (rounds : Nat → ScanRound) :
    (left i : Nat) → ScanFetch → Traced MemAccess ScanOutcome
  | 0, i, fetch => pure ⟨wifiSuccess, i, some fetch.scans.length, fetch⟩
  | left + 1, i, fetch =>
      if setup.max ≤ fetch.scans.length then
        pure ⟨wifiSuccess, i, some fetch.scans.length, fetch⟩
      else if setup.created fetch.scans.length (rounds i) < 0 then
        pure ⟨setup.created fetch.scans.length (rounds i), i, none, fetch⟩
      else do
        let next ← setup.handleReplies fetch (rounds i).replies
        if (rounds i).result ≠ wifiSuccess then pure ⟨(rounds i).result, i + 1, none, next⟩
        else if next.scans.length = fetch.scans.length ∨ next.completed ≠ 0 then
          pure ⟨wifiSuccess, i + 1, some next.scans.length, next⟩
        else executeFrom setup rounds left (i + 1) next

/-- `GetScanResultsCommand::execute`. -/
def GetScanResultsCommand.execute (setup : ScanCommandSetup) (rounds : Nat → ScanRound) :
    Traced MemAccess ScanOutcome :=
  executeFrom setup rounds 10 0 ⟨[], 0⟩

/-! ## The scans of a reply -/

/-- A list of results as a container offers it: where it lies, the locals with the
count already cut, and the count as it was announced. -/
structure Scan where
  mem : Octets
  attr : Nat
  locals : ScanLocals
  announced : Nat

def ScanSlot.ofBytes (bytes : List UInt8) : ScanSlot :=
  ⟨ScanRecord.ofBytes bytes, leValue (slice bytes 76 4)⟩

def slotsOf (payload : List UInt8) (num : Int) : List ScanSlot :=
  (List.range num.toNat).map fun i => ScanSlot.ofBytes (slice payload (i * 88) 88)

def Scan.entry (scan : Scan) : CachedScan :=
  { scanId := scan.locals.scanId
    flags := scan.locals.flags
    numResults := scan.locals.num
    bucketsScanned := scan.locals.mask
    results := slotsOf (Netlink.payload scan.mem scan.attr) scan.locals.num }

/-- The scans of a container, of which an array without end would hold all. -/
def containerScans (maxApCachePerScan : Nat) (mem : Octets) :
    Nat → ScanLocals → List Nat → List Scan
  | _, _, [] => []
  | announced, locals, attr :: rest =>
      let type := Netlink.attrType mem attr
      let data := Netlink.data attr
      if type = gscanAttributeScanId then
        containerScans maxApCachePerScan mem announced
          { locals with scanId := signedWord 4 (mem.word data 4) } rest
      else if type = gscanAttributeScanFlags then
        containerScans maxApCachePerScan mem announced { locals with flags := mem.word data 1 } rest
      else if type = gscanAttributeNumOfResults then
        containerScans maxApCachePerScan mem (mem.word data 4)
          { locals with num := signedWord 4 (mem.word data 4) } rest
      else if type = gscanAttributeChBucketBitmask then
        containerScans maxApCachePerScan mem announced
          { locals with mask := signedWord 4 (mem.word data 4) } rest
      else if type = gscanAttributeScanResults ∧ locals.num ≠ 0 then
        let locals := { locals with num := cutNum maxApCachePerScan mem attr locals.num }
        ⟨mem, attr, locals, announced⟩ ::
          containerScans maxApCachePerScan mem announced locals rest
      else containerScans maxApCachePerScan mem announced locals rest

def attrScans (maxApCachePerScan : Nat) (mem : Octets) (attr : Nat) : List Scan :=
  if Netlink.attrType mem attr = gscanAttributeScanResultsComplete then []
  else if IsContainer mem attr then
    containerScans maxApCachePerScan mem 0 .zero (Netlink.inside mem attr)
  else []

def replyAttrs (reply : VendorMessage) : Octets × List Nat :=
  match reply.vendorData with
  | none => (fun _ => 0, [])
  | some ⟨mem, len⟩ =>
      if reply.cmd = nl80211CmdVendor ∧ len ≠ 0 then (mem, Netlink.inside mem 0) else (mem, [])

def replyScans (maxApCachePerScan : Nat) (reply : VendorMessage) : List Scan :=
  (replyAttrs reply).2.flatMap (attrScans maxApCachePerScan (replyAttrs reply).1)

def completedAttr (mem : Octets) (completed attr : Nat) : Nat :=
  if Netlink.attrType mem attr = gscanAttributeScanResultsComplete then
    mem.word (Netlink.data attr) 1
  else completed

def completedAfter (completed : Nat) (reply : VendorMessage) : Nat :=
  (replyAttrs reply).2.foldl (completedAttr (replyAttrs reply).1) completed

/-! ## The cuts -/

section Cuts

variable (maxApCachePerScan : Nat) (mem : Octets) (attr : Nat) (num : Int)

@[simp] theorem wifiGscanResult_sizeof : wifiGscanResult.sizeof = 88 := wifiGscanResult_layout.2

@[simp] theorem wifiGscanResult_ieLength : wifiGscanResult.offsetof 9 = 76 := by decide

theorem cutNum_le_cache : cutNum maxApCachePerScan mem attr num ≤ maxApCachePerScan := by
  rw [cutNum]
  omega

/-- As many results as are counted lie in the payload. -/
theorem cutNum_le_payload :
    (cutNum maxApCachePerScan mem attr num).toNat * 88 ≤ (Netlink.payloadLen mem attr).toNat := by
  rw [cutNum, wifiGscanResult_sizeof]
  omega

theorem cutNum_neg_iff : cutNum maxApCachePerScan mem attr num < 0 ↔ num < 0 := by
  rw [cutNum, wifiGscanResult_sizeof]
  omega

end Cuts

theorem convertToHalResult_stores (mem : Octets) (source len : Nat) :
    (convertToHalResult mem source len).Every StoreFits := by
  simp [convertToHalResult]

theorem readSlot_value {maxApCachePerScan : Nat} {mem : Octets} {attr i : Nat}
    (inside : (i + 1) * 88 ≤ (Netlink.payloadLen mem attr).toNat) :
    (readSlot maxApCachePerScan mem attr i).value =
      ScanSlot.ofBytes (slice (Netlink.payload mem attr) (i * 88) 88) := by
  have bytes : slice (Netlink.payload mem attr) (i * 88) 88 =
      mem.fetch (Netlink.data attr + i * 88) 88 := Octets.slice_fetch mem (by omega)
  rw [bytes, ScanSlot.ofBytes, Octets.slice_fetch mem (by omega)]
  simp [readSlot, convertToHalResult_value (Nat.le_refl 88), Octets.word]

theorem readSlot_stores {maxApCachePerScan : Nat} {mem : Octets} {attr i : Nat}
    (room : i < maxApCachePerScan) :
    (readSlot maxApCachePerScan mem attr i).Every StoreFits := by
  simp [readSlot, convertToHalResult_stores]
  omega

/-- A list of results becomes one entry, in its place and with its own results. -/
theorem storeScan_spec {maxApCachePerScan max : Nat} {mem : Octets} {attr : Nat}
    {locals : ScanLocals} {fetch : ScanFetch} {num : Int}
    (cut : locals.num = cutNum maxApCachePerScan mem attr num)
    (room : fetch.scans.length < max) (announced : Nat) :
    (storeScan maxApCachePerScan max mem attr locals fetch).value =
        { fetch with scans := fetch.scans ++ [Scan.entry ⟨mem, attr, locals, announced⟩] } ∧
      (storeScan maxApCachePerScan max mem attr locals fetch).Every StoreFits := by
  have few := cutNum_le_cache maxApCachePerScan mem attr num
  have inside := cutNum_le_payload maxApCachePerScan mem attr num
  rw [← cut] at few inside
  constructor
  · have slots : (List.range locals.num.toNat).map
        (fun i => (readSlot maxApCachePerScan mem attr i).value) =
        slotsOf (Netlink.payload mem attr) locals.num := by
      refine List.map_congr_left fun i here => ?_
      have small := List.mem_range.mp here
      exact readSlot_value (by omega)
    simp [storeScan, Scan.entry, slots]
  · simp only [storeScan, Traced.every_bind, Traced.every_each, Traced.every_emit,
      Traced.every_pure, storeFits_write, and_true]
    refine ⟨fun i here => readSlot_stores ?_, by omega⟩
    have small := List.mem_range.mp here
    omega

/-! ## What the loops store -/

section Stored

variable {maxApCachePerScan max : Nat}

def storeScans (max : Nat) (fetch : ScanFetch) (scans : List Scan) : ScanFetch :=
  { fetch with scans := KeyedList.storeEach max (scans.map Scan.entry) fetch.scans }

@[simp] theorem storeScans_nil (fetch : ScanFetch) : storeScans max fetch [] = fetch := rfl

theorem storeScans_append (fetch : ScanFetch) (first second : List Scan) :
    storeScans max fetch (first ++ second) = storeScans max (storeScans max fetch first) second := by
  simp [storeScans, KeyedList.storeEach]

theorem storeScans_full {fetch : ScanFetch} (full : max ≤ fetch.scans.length)
    (scans : List Scan) : storeScans max fetch scans = fetch := by
  have noRoom : max - fetch.scans.length = 0 := by omega
  simp [storeScans, KeyedList.storeEach_eq_append, noRoom]

theorem storeScans_cons {fetch : ScanFetch} (room : fetch.scans.length < max) (scan : Scan)
    (scans : List Scan) :
    storeScans max fetch (scan :: scans) =
      storeScans max { fetch with scans := fetch.scans ++ [scan.entry] } scans := by
  simp [storeScans, room]

theorem storeScans_count {fetch : ScanFetch} (within : fetch.scans.length ≤ max)
    (scans : List Scan) :
    (storeScans max fetch scans).scans.length = min max (fetch.scans.length + scans.length) := by
  simp [storeScans, KeyedList.storeEach_eq_append]
  omega

theorem storeScans_length {fetch : ScanFetch} (within : fetch.scans.length ≤ max)
    (scans : List Scan) : (storeScans max fetch scans).scans.length ≤ max := by
  rw [storeScans_count within]
  exact min_le_left _ _

theorem takeContainer_spec (mem : Octets) (announced : Nat) (locals : ScanLocals)
    (fetch : ScanFetch) (within : fetch.scans.length ≤ max) (attrs : List Nat) :
    (takeContainer maxApCachePerScan max mem locals fetch attrs).value =
        storeScans max fetch (containerScans maxApCachePerScan mem announced locals attrs) ∧
      (takeContainer maxApCachePerScan max mem locals fetch attrs).Every StoreFits := by
  induction attrs generalizing announced locals fetch with
  | nil => simp [takeContainer, containerScans]
  | cons attr rest ih =>
      simp only [takeContainer, containerScans]
      split
      · exact ih announced _ fetch within
      split
      · exact ih announced _ fetch within
      split
      · exact ih _ _ fetch within
      split
      · exact ih announced _ fetch within
      split
      · split
        next full =>
          rw [storeScans_full full]
          simp
        next room =>
          have cut : ({ locals with
              num := cutNum maxApCachePerScan mem attr locals.num } : ScanLocals).num =
              cutNum maxApCachePerScan mem attr locals.num := rfl
          generalize ({ locals with
            num := cutNum maxApCachePerScan mem attr locals.num } : ScanLocals) = next at cut ⊢
          obtain ⟨value, stores⟩ := storeScan_spec cut (Nat.lt_of_not_le room) announced
          have kept : ({ fetch with
              scans := fetch.scans ++ [Scan.entry ⟨mem, attr, next, announced⟩] } :
                ScanFetch).scans.length ≤ max := by
            simp only [List.length_append, List.length_singleton]
            omega
          rw [storeScans_cons (Nat.lt_of_not_le room)]
          simp only [Traced.value_bind, Traced.every_bind, value]
          obtain ⟨later, laterStores⟩ := ih announced next _ kept
          exact ⟨later, stores, laterStores⟩
      · exact ih announced _ fetch within

theorem takeReplyAttr_spec (maxApCachePerScan : Nat) (mem : Octets) (fetch : ScanFetch)
    (within : fetch.scans.length ≤ max) (attr : Nat) :
    (takeReplyAttr maxApCachePerScan max mem fetch attr).value =
        { storeScans max fetch (attrScans maxApCachePerScan mem attr) with
          completed := completedAttr mem fetch.completed attr } ∧
      (takeReplyAttr maxApCachePerScan max mem fetch attr).Every StoreFits := by
  simp only [takeReplyAttr, attrScans, completedAttr]
  split
  · simp
  split
  · exact takeContainer_spec mem 0 .zero fetch within _
  · simp

/-- Steps that store their scans and set the flag do so one after the other. -/
theorem stores_foldl {α : Type} {body : ScanFetch → α → Traced MemAccess ScanFetch}
    {scansOf : α → List Scan} {flag : Nat → α → Nat}
    (step : ∀ fetch : ScanFetch, fetch.scans.length ≤ max → ∀ item,
      (body fetch item).value =
          { storeScans max fetch (scansOf item) with completed := flag fetch.completed item } ∧
        (body fetch item).Every StoreFits)
    (items : List α) (fetch : ScanFetch) (within : fetch.scans.length ≤ max) :
    (Traced.foldl body fetch items).value =
        { storeScans max fetch (items.flatMap scansOf) with
          completed := items.foldl flag fetch.completed } ∧
      (Traced.foldl body fetch items).Every StoreFits := by
  induction items generalizing fetch with
  | nil => simp
  | cons item rest ih =>
      obtain ⟨value, stores⟩ := step fetch within item
      obtain ⟨later, laterStores⟩ := ih (body fetch item).value
        (by rw [value]; exact storeScans_length within _)
      simp only [Traced.foldl_cons, Traced.value_bind, Traced.every_bind, List.flatMap_cons,
        List.foldl_cons, storeScans_append]
      refine ⟨?_, stores, laterStores⟩
      rw [later, value]
      rfl

theorem takeReplyAttrs_spec (maxApCachePerScan : Nat) (mem : Octets) (attrs : List Nat)
    (fetch : ScanFetch) (within : fetch.scans.length ≤ max) :
    (Traced.foldl (takeReplyAttr maxApCachePerScan max mem) fetch attrs).value =
        { storeScans max fetch (attrs.flatMap (attrScans maxApCachePerScan mem)) with
          completed := attrs.foldl (completedAttr mem) fetch.completed } ∧
      (Traced.foldl (takeReplyAttr maxApCachePerScan max mem) fetch attrs).Every StoreFits := by
  exact stores_foldl (fun fetch within attr =>
    takeReplyAttr_spec maxApCachePerScan mem fetch within attr) attrs fetch within

theorem handleResponse_spec (fetch : ScanFetch) (within : fetch.scans.length ≤ max)
    (reply : VendorMessage) :
    (GetScanResultsCommand.handleResponse maxApCachePerScan max fetch reply).value =
        { storeScans max fetch (replyScans maxApCachePerScan reply) with
          completed := completedAfter fetch.completed reply } ∧
      (GetScanResultsCommand.handleResponse maxApCachePerScan max fetch reply).Every
        StoreFits := by
  obtain ⟨cmd, subcmd, _ | ⟨mem, len⟩⟩ := reply
  · simp [GetScanResultsCommand.handleResponse, replyScans, completedAfter, replyAttrs]
  · by_cases looked : cmd = nl80211CmdVendor ∧ len ≠ 0
    · have attrs := takeReplyAttrs_spec maxApCachePerScan mem (Netlink.inside mem 0) fetch within
      simpa [GetScanResultsCommand.handleResponse, replyScans, completedAfter, replyAttrs,
        looked] using attrs
    · have ignored : GetScanResultsCommand.handleResponse maxApCachePerScan max fetch
          ⟨cmd, subcmd, some ⟨mem, len⟩⟩ = pure fetch := by
        by_cases vendor : cmd = nl80211CmdVendor
        · simp [GetScanResultsCommand.handleResponse, vendor, not_not.mp fun some =>
            looked ⟨vendor, some⟩]
        · simp [GetScanResultsCommand.handleResponse, vendor]
      rw [ignored]
      simp [replyScans, completedAfter, replyAttrs, looked]

end Stored

/-! ## The scans of a run -/

def ScanRound.flagged (round : ScanRound) : Nat := round.replies.foldl completedAfter 0

namespace ScanCommandSetup

variable (setup : ScanCommandSetup)

def offered (round : ScanRound) : List Scan :=
  round.replies.flatMap (replyScans setup.maxApCachePerScan)

theorem handleReplies_spec (replies : List VendorMessage) (fetch : ScanFetch)
    (within : fetch.scans.length ≤ setup.max) :
    (setup.handleReplies fetch replies).value =
        { storeScans setup.max fetch (replies.flatMap (replyScans setup.maxApCachePerScan)) with
          completed := replies.foldl completedAfter fetch.completed } ∧
      (setup.handleReplies fetch replies).Every StoreFits := by
  exact stores_foldl (fun fetch within reply => handleResponse_spec fetch within reply)
    replies fetch within

/-- One turn: what is offered is stored while there is room. -/
theorem handleRound_spec (round : ScanRound) (fetch : ScanFetch)
    (within : fetch.scans.length ≤ setup.max) (unfinished : fetch.completed = 0) :
    (setup.handleReplies fetch round.replies).value.scans =
        (storeScans setup.max fetch (setup.offered round)).scans ∧
      (setup.handleReplies fetch round.replies).value.scans.length =
        min setup.max (fetch.scans.length + (setup.offered round).length) ∧
      (setup.handleReplies fetch round.replies).value.completed = round.flagged ∧
      (setup.handleReplies fetch round.replies).Every StoreFits := by
  obtain ⟨value, stores⟩ := setup.handleReplies_spec round.replies fetch within
  rw [unfinished] at value
  rw [value]
  exact ⟨rfl, storeScans_count within (setup.offered round), rfl, stores⟩

/-- The turns that are made with `left` to go and so many scans retrieved, and whether
none of them fails. -/
def turns (rounds : Nat → ScanRound) : (left i retrieved : Nat) → List ScanRound × Bool
  | 0, _, _ => ([], true)
  | left + 1, i, retrieved =>
      if setup.max ≤ retrieved then ([], true)
      else if setup.created retrieved (rounds i) < 0 then ([], false)
      else if (rounds i).result ≠ wifiSuccess then ([rounds i], false)
      else
        let now := min setup.max (retrieved + (setup.offered (rounds i)).length)
        if now = retrieved ∨ (rounds i).flagged ≠ 0 then ([rounds i], true)
        else
          let later := turns rounds left (i + 1) now
          (rounds i :: later.1, later.2)

end ScanCommandSetup

section Run

variable (setup : ScanCommandSetup) (rounds : Nat → ScanRound)

/-- A run stores what its turns offer and answers success when none of them fails. -/
theorem executeFrom_spec (left i : Nat) (fetch : ScanFetch)
    (within : fetch.scans.length ≤ setup.max) (unfinished : fetch.completed = 0) :
    let run := executeFrom setup rounds left i fetch
    let turns := setup.turns rounds left i fetch.scans.length
    run.Every StoreFits ∧
      run.value.fetch.scans =
        (storeScans setup.max fetch (turns.1.flatMap setup.offered)).scans ∧
      i ≤ run.value.requests ∧ run.value.requests ≤ i + left ∧
      (∀ round ∈ turns.1, ∃ j < run.value.requests, round = rounds j) ∧
      (run.value.result = wifiSuccess ↔ turns.2 = true) ∧
      (run.value.result = wifiSuccess → run.value.num = some run.value.fetch.scans.length) := by
  induction left generalizing i fetch with
  | zero => simp [executeFrom, ScanCommandSetup.turns]
  | succ left ih =>
      simp only [executeFrom, ScanCommandSetup.turns]
      by_cases full : setup.max ≤ fetch.scans.length
      · simp [full]
      by_cases failed : setup.created fetch.scans.length (rounds i) < 0
      · have notZero : setup.created fetch.scans.length (rounds i) ≠ wifiSuccess := by
          simp only [wifiSuccess]
          omega
        simp [full, failed, notZero]
      obtain ⟨stored, count, flag, stores⟩ :=
        setup.handleRound_spec (rounds i) fetch within unfinished
      rw [if_neg full, if_neg failed, if_neg full, if_neg failed]
      simp only [Traced.every_bind, Traced.value_bind, stores, true_and]
      generalize (setup.handleReplies fetch (rounds i).replies).value = next at stored count flag ⊢
      have here : ∃ j < i + 1, rounds i = rounds j := ⟨i, by omega, rfl⟩
      by_cases answered : (rounds i).result = wifiSuccess
      · rw [if_neg (not_not.mpr answered), if_neg (not_not.mpr answered), ← count, ← flag]
        by_cases ends : next.scans.length = fetch.scans.length ∨ next.completed ≠ 0
        · rw [if_pos ends, if_pos ends]
          exact ⟨by simp, by simpa using stored, by simp, by simp, by simpa using here, by simp,
            by simp⟩
        · rw [if_neg ends, if_neg ends]
          have running : next.completed = 0 := by
            by_contra set
            exact ends (.inr set)
          obtain ⟨laterStores, laterScans, made, fewer, sources, success, reported⟩ :=
            ih (i + 1) next (by omega) running
          refine ⟨laterStores, ?_, by omega, by omega, ?_, success, reported⟩
          · rw [laterScans, List.flatMap_cons, storeScans_append]
            simp only [storeScans, stored]
          · intro round member
            rcases List.mem_cons.mp member with rfl | later
            · exact ⟨i, by omega, rfl⟩
            · exact sources round later
      · rw [if_pos answered, if_pos answered]
        exact ⟨by simp, by simpa using stored, by simp, by simp, by simpa using here,
          by simpa using answered, fun success => absurd success answered⟩

end Run

/-! ## Where the entries come from -/

/-- What holds of every scan that a container offers. -/
structure Scan.Sound (maxApCachePerScan : Nat) (scan : Scan) : Prop where
  type : Netlink.attrType scan.mem scan.attr = gscanAttributeScanResults
  few : scan.locals.num ≤ maxApCachePerScan
  inside : scan.locals.num.toNat * 88 ≤ (Netlink.payloadLen scan.mem scan.attr).toNat
  /-- The cuts do not repair a count that is no signed number. -/
  negative : scan.locals.num < 0 ↔ 2 ^ 31 ≤ scan.announced

theorem containerScans_sound (maxApCachePerScan : Nat) (mem : Octets) (announced : Nat)
    (locals : ScanLocals) (signs : locals.num < 0 ↔ 2 ^ 31 ≤ announced) (attrs : List Nat) :
    ∀ scan ∈ containerScans maxApCachePerScan mem announced locals attrs,
      scan.Sound maxApCachePerScan ∧ scan.mem = mem ∧ scan.attr ∈ attrs := by
  induction attrs generalizing announced locals with
  | nil => simp [containerScans]
  | cons attr rest ih =>
      have weaken : ∀ {announced locals}, (locals.num < 0 ↔ 2 ^ 31 ≤ announced) →
          ∀ scan ∈ containerScans maxApCachePerScan mem announced locals rest,
            scan.Sound maxApCachePerScan ∧ scan.mem = mem ∧ scan.attr ∈ attr :: rest := by
        intro announced locals signs scan here
        obtain ⟨sound, same, member⟩ := ih announced locals signs scan here
        exact ⟨sound, same, List.mem_cons_of_mem attr member⟩
      simp only [containerScans]
      split
      · exact weaken signs
      split
      · exact weaken signs
      split
      · refine weaken ?_
        have fits := mem.word_lt (Netlink.data attr) 4
        rw [signedWord_neg_iff fits]
        omega
      split
      · exact weaken signs
      split
      next list =>
        have cutSigns : cutNum maxApCachePerScan mem attr locals.num < 0 ↔ 2 ^ 31 ≤ announced := by
          rw [cutNum_neg_iff]
          exact signs
        intro scan here
        rcases List.mem_cons.mp here with rfl | later
        · exact ⟨⟨list.1, cutNum_le_cache _ _ _ _, cutNum_le_payload _ _ _ _, cutSigns⟩, rfl,
            List.mem_cons_self⟩
        · exact weaken cutSigns scan later
      · exact weaken signs

/-- The list of results that an entry was filled from: in a container of a reply. -/
def ResultsOf (reply : VendorMessage) (mem : Octets) (attr : Nat) : Prop :=
  ∃ len container, reply.Holds mem len ∧ container ∈ Netlink.inside mem 0 ∧
    IsContainer mem container ∧ attr ∈ Netlink.inside mem container ∧
    Netlink.attrType mem attr = gscanAttributeScanResults

theorem replyScans_sound {maxApCachePerScan : Nat} {reply : VendorMessage} {scan : Scan}
    (here : scan ∈ replyScans maxApCachePerScan reply) :
    scan.Sound maxApCachePerScan ∧ ResultsOf reply scan.mem scan.attr := by
  obtain ⟨cmd, subcmd, _ | ⟨mem, len⟩⟩ := reply
  · simp [replyScans, replyAttrs] at here
  · by_cases looked : cmd = nl80211CmdVendor ∧ len ≠ 0
    · simp only [replyScans, replyAttrs, looked, ne_eq, not_false_eq_true, and_self, if_true,
        List.mem_flatMap] at here
      obtain ⟨container, visited, member⟩ := here
      rw [attrScans] at member
      split at member
      · simp at member
      split at member
      next nested =>
        obtain ⟨sound, same, inContainer⟩ := containerScans_sound maxApCachePerScan mem 0 .zero
          (by simp [ScanLocals.zero]) _ scan member
        obtain ⟨_, attr, locals, announced⟩ := scan
        dsimp only at same
        subst same
        exact ⟨sound, len, container, ⟨looked.1, looked.2, rfl⟩, visited, nested, inContainer,
          sound.type⟩
      · simp at member
    · simp [replyScans, replyAttrs, looked] at here

/-! ## What the caller is owed -/

/-- An entry holds as many results as it says, and they come from one list of results
of a reply. -/
structure CachedScan.Filled (maxApCachePerScan : Nat) (replies : VendorMessage → Prop)
    (entry : CachedScan) : Prop where
  natural : 0 ≤ entry.numResults
  few : entry.numResults ≤ maxApCachePerScan
  count : entry.results.length = entry.numResults
  source : ∃ reply mem attr, replies reply ∧ ResultsOf reply mem attr ∧
    entry.numResults * 88 ≤ Netlink.payloadLen mem attr ∧
    entry.results = slotsOf (Netlink.payload mem attr) entry.numResults

/-- The bounds of a run, and what a successful one returns. -/
structure ScanFetchSound (setup : ScanCommandSetup) (rounds : Nat → ScanRound) : Prop where
  within : (GetScanResultsCommand.execute setup rounds).value.fetch.scans.length ≤ setup.max
  stores : (GetScanResultsCommand.execute setup rounds).Every StoreFits
  requests : (GetScanResultsCommand.execute setup rounds).value.requests ≤ 10
  success : (GetScanResultsCommand.execute setup rounds).value.result = wifiSuccess →
    (GetScanResultsCommand.execute setup rounds).value.num =
        some (GetScanResultsCommand.execute setup rounds).value.fetch.scans.length ∧
      ∀ entry ∈ (GetScanResultsCommand.execute setup rounds).value.fetch.scans,
        entry.Filled setup.maxApCachePerScan fun reply =>
          ∃ i < (GetScanResultsCommand.execute setup rounds).value.requests,
            reply ∈ (rounds i).replies

/-- If no turn fails, the scans that find room were announced with counts that are
signed numbers. -/
def ScanCountsFit (setup : ScanCommandSetup) (rounds : Nat → ScanRound) : Prop :=
  (setup.turns rounds 10 0 0).2 = true →
    ∀ scan ∈ ((setup.turns rounds 10 0 0).1.flatMap setup.offered).take setup.max,
      scan.announced < 2 ^ 31

theorem Scan.Sound.filled {maxApCachePerScan : Nat} {scan : Scan}
    (sound : scan.Sound maxApCachePerScan) (small : scan.announced < 2 ^ 31)
    {reply : VendorMessage} (list : ResultsOf reply scan.mem scan.attr)
    {replies : VendorMessage → Prop} (member : replies reply) :
    scan.entry.Filled maxApCachePerScan replies := by
  have natural : 0 ≤ scan.locals.num := by
    by_contra negative
    have large := sound.negative.mp (by omega)
    omega
  have inside := sound.inside
  have payload : 0 ≤ Netlink.payloadLen scan.mem scan.attr := by
    obtain ⟨_, _, -, -, -, visited, -⟩ := list
    exact Netlink.payloadLen_nonneg visited
  refine ⟨natural, sound.few, ?_, reply, scan.mem, scan.attr, member, list, ?_, rfl⟩
  · simp only [Scan.entry, slotsOf, List.length_map, List.length_range]
    omega
  · simp only [Scan.entry]
    omega

/-- A run is sound exactly when every count that matters is a signed number; nothing
else can go wrong. -/
theorem execute_sound_iff (setup : ScanCommandSetup) (rounds : Nat → ScanRound) :
    ScanFetchSound setup rounds ↔ ScanCountsFit setup rounds := by
  obtain ⟨stores, scans, -, requests, sources, success, reported⟩ :=
    executeFrom_spec setup rounds 10 0 ⟨[], 0⟩ (Nat.zero_le _) rfl
  have entries : (GetScanResultsCommand.execute setup rounds).value.fetch.scans =
      (((setup.turns rounds 10 0 0).1.flatMap setup.offered).take setup.max).map Scan.entry := by
    rw [GetScanResultsCommand.execute, scans]
    simp [storeScans, KeyedList.storeEach_eq_append]
  have origin : ∀ scan ∈ (setup.turns rounds 10 0 0).1.flatMap setup.offered,
      scan.Sound setup.maxApCachePerScan ∧ ∃ reply, ResultsOf reply scan.mem scan.attr ∧
        ∃ i < (GetScanResultsCommand.execute setup rounds).value.requests,
          reply ∈ (rounds i).replies := by
    intro scan here
    obtain ⟨round, made, offered⟩ := List.mem_flatMap.mp here
    obtain ⟨reply, member, there⟩ := List.mem_flatMap.mp offered
    obtain ⟨i, before, rfl⟩ := sources round made
    obtain ⟨sound, list⟩ := replyScans_sound there
    exact ⟨sound, reply, list, i, before, member⟩
  constructor
  · intro sound succeeds scan here
    have filled := (sound.success (success.mpr succeeds)).2 scan.entry (by
      rw [entries]
      exact List.mem_map_of_mem here)
    obtain ⟨known, -⟩ := origin scan (List.mem_of_mem_take here)
    by_contra large
    have negative := known.negative.mpr (by omega)
    have natural : 0 ≤ scan.locals.num := filled.natural
    omega
  · intro fits
    refine ⟨?_, stores, by simpa [GetScanResultsCommand.execute] using requests,
      fun succeeds => ⟨reported succeeds, ?_⟩⟩
    · rw [entries, List.length_map, List.length_take]
      exact Nat.min_le_left _ _
    · rw [entries]
      intro entry member
      obtain ⟨scan, here, rfl⟩ := List.mem_map.mp member
      obtain ⟨sound, reply, list, given⟩ := origin scan (List.mem_of_mem_take here)
      exact sound.filled (fits (success.mp succeeds) scan here) list given

/-- One reply, with one container: a count with its highest bit set, then a list of
results with nothing in it. -/
def hugeScanCount : ScanRound :=
  { alloc := some 4096
    replies := [
      { cmd := nl80211CmdVendor
        subcmd := 0
        vendorData := some ⟨Octets.ofList
          [20, 0, 0, 0, 16, 0, 32, 0, 8, 0, 30, 0, 0, 0, 0, 128, 4, 0, 32, 0], 20⟩ }]
    result := wifiSuccess }

theorem hugeScanCount_not_sound :
    ¬ ScanFetchSound ⟨32, 1, 0, 0, 0⟩ (fun _ => hugeScanCount) := by
  intro sound
  have entries := (sound.success (by decide)).2
  have filled := entries ⟨0, 0, -2147483648, 0, []⟩ (by decide)
  have natural : (0 : Int) ≤ -2147483648 := filled.natural
  omega

end Mt6757.WifiHal
