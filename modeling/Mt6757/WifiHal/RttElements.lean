import Mathlib.Data.List.GetD
import Mt6757.WifiHal.CountedReplies
import Mt6757.WifiHal.RttResults

/-!
# Measurement elements behind an RTT result

The bytes of an RTT event.  Each result is copied to a buffer of its own length; up to
two measurement elements may stand behind the fixed record, and the handler finds them
by counting down a length.
-/

set_option autoImplicit false

namespace Mt6757.WifiHal

open MemAccess

def rttAttributeTargetMac : Nat := 12
def rttAttributeResultsComplete : Nat := 30
def rttAttributeResultsPerTarget : Nat := 31
def rttAttributeResultCnt : Nat := 32
def rttAttributeResult : Nat := 33

/-! ## Elements -/

/-- `dot11_rm_ie`: id, length, token, mode, type. -/
def dot11RmIe : CRecord := [.scalar 1, .scalar 1, .scalar 1, .scalar 1, .scalar 1]

@[simp] theorem dot11RmIe_offsetof :
    dot11RmIe.offsetof 0 = 0 ∧ dot11RmIe.offsetof 1 = 1 ∧ dot11RmIe.offsetof 4 = 4 := by decide

def dot11HdrLen : Nat := 2
def dot11MngMeasureRequestId : Nat := 38
def dot11MeasureTypeLci : Nat := 8
def dot11MeasureTypeCivicloc : Nat := 11

/-- Where `LCI` and `LCR` of a result are made to point, as offsets into its buffer. -/
structure RttElements where
  lci : Option Nat
  lcr : Option Nat
  deriving DecidableEq, Repr

def readSecond (buffer : Octets) (len ele1 : Nat) (resultLen : Int) (wanted : Nat) :
    Traced MemAccess (Option Nat) := do
  let len1 ← word buffer (ele1 + dot11RmIe.offsetof 1) 1 len
  let ele2 := ele1 + len1 + dot11HdrLen
  if resultLen - (len1 + dot11HdrLen) > 0 then do
    let id ← word buffer (ele2 + dot11RmIe.offsetof 0) 1 len
    if id = dot11MngMeasureRequestId then do
      let type ← word buffer (ele2 + dot11RmIe.offsetof 4) 1 len
      pure (if type = wanted then some ele2 else none)
    else pure none
  else pure none

/-- The elements behind the record in a buffer of `len` bytes.  The size of the record
is taken off the length twice. -/
def readElements (size len : Nat) (buffer : Octets) : Traced MemAccess RttElements :=
  let resultLen : Int := len - size
  if resultLen > 0 then do
    let resultLen := resultLen - size
    let ele1 := size
    let id ← word buffer (ele1 + dot11RmIe.offsetof 0) 1 len
    if id = dot11MngMeasureRequestId then do
      let type ← word buffer (ele1 + dot11RmIe.offsetof 4) 1 len
      if type = dot11MeasureTypeLci then do
        let lcr ← readSecond buffer len ele1 resultLen dot11MeasureTypeCivicloc
        pure ⟨some ele1, lcr⟩
      else if type = dot11MeasureTypeCivicloc then do
        let lci ← readSecond buffer len ele1 resultLen dot11MeasureTypeLci
        pure ⟨lci, some ele1⟩
      else pure ⟨none, none⟩
    else pure ⟨none, none⟩
  else pure ⟨none, none⟩

/-! ## Events -/

/-- `wifi_rtt_result` of the platform header: its size, and offset and size of the
members that the handler logs (`burst_num`, `measurement_number`, `success_number`,
`number_per_burst_peer`, `status`, `retry_after_duration`, `rssi`, `rx_rate.bitrate`,
`rtt`, `rtt_sd`, `distance_mm`, `burst_duration`, `negotiated_burst_num`). -/
structure RttRecord where
  size : Nat
  logged : List (Nat × Nat)
  inside : ∀ member ∈ logged, member.1 + member.2 ≤ size
  large : 4 ≤ size

/-- What the handler finds outside the event: whether the `malloc` for the result at an
attribute succeeds, and what lies behind the buffer it gives. -/
structure RttMemory where
  allocated : Nat → Bool
  beyond : Nat → Octets

/-- The fields of the command, and the elements of each stored result. -/
structure RttByteState where
  state : RttState
  elements : Nat → RttElements

def resultBuffer (memory : RttMemory) (mem : Octets) (attr : Nat) : Octets := fun i =>
  if i < (Netlink.payloadLen mem attr).toNat then mem (Netlink.data attr + i)
  else memory.beyond attr i

def takeResult (record : RttRecord) (memory : RttMemory) (mem : Octets) (byteState : RttByteState)
    (attr : Nat) : Traced MemAccess RttByteState :=
  let state := byteState.state
  if memory.allocated attr then do
    let len := (Netlink.payloadLen mem attr).toNat
    let payload ← copy mem (Netlink.data attr) len (Netlink.data attr + len)
    let buffer := resultBuffer memory mem attr
    let elements ← readElements record.size len buffer
    let _logged ← Traced.each (fun member => word buffer member.1 member.2 len) record.logged
    pure
      { state := { state with
          rttResults := Function.update state.rttResults state.currentIdx (some payload)
          totalCnt := state.totalCnt + 1
          currentIdx := state.currentIdx + 1 }
        elements := Function.update byteState.elements state.currentIdx elements }
  else
    pure { byteState with state := { state with
      rttResults := Function.update state.rttResults state.currentIdx none
      mCompleted := 1 } }

def takeTargetAttr (record : RttRecord) (memory : RttMemory) (mem : Octets) (bound : Int)
    (byteState : RttByteState) (attr : Nat) : Traced MemAccess RttByteState := do
  let type ← getType mem attr bound
  if type = rttAttributeTargetMac then do
    let _bssid ← copy mem (Netlink.data attr) 6 (Netlink.data attr + Netlink.payloadLen mem attr)
    pure byteState
  else if type = rttAttributeResultCnt then do
    let _resultCnt ← getU32At mem attr
    pure byteState
  else if type = rttAttributeResult then takeResult record memory mem byteState attr
  else pure byteState

/-- A list up to and including its first element that ends the loop over it. -/
def throughFirst (ends : Nat → Bool) : List Nat → List Nat
  | [] => []
  | x :: rest => if ends x then [x] else x :: throughFirst ends rest

/-- A result whose buffer cannot be allocated ends the loop over its container. -/
def failsAt (memory : RttMemory) (mem : Octets) (attr : Nat) : Bool :=
  Netlink.attrType mem attr == rttAttributeResult && !memory.allocated attr

def takeRttAttr (record : RttRecord) (memory : RttMemory) (mem : Octets) (bound : Int)
    (byteState : RttByteState) (attr : Nat) : Traced MemAccess RttByteState := do
  let type ← getType mem attr bound
  if type = rttAttributeResultsComplete then do
    let completed ← getU32At mem attr
    pure { byteState with state :=
      { byteState.state with mCompleted := (UInt32.ofNat completed).toInt32 } }
  else if type = rttAttributeResultsPerTarget then do
    let attrs ← Netlink.iterate mem (Netlink.data attr) (Netlink.payloadLen mem attr)
    Traced.foldl
      (takeTargetAttr record memory mem (Netlink.data attr + Netlink.payloadLen mem attr))
      byteState (throughFirst (failsAt memory mem) attrs)
  else pure byteState

/-- `RttCommand::handleEvent` up to the call of `on_rtt_results`.  Without vendor data
the iterator is made from a null pointer. -/
def RttCommand.readEvent (record : RttRecord) (memory : RttMemory) (byteState : RttByteState)
    (event : VendorMessage) : Traced MemAccess RttByteState :=
  match event.vendorData with
  | none => do
      Traced.emit .null
      pure byteState
  | some ⟨mem, len⟩ => do
      let attrs ← Netlink.iterate mem 0 len
      Traced.foldl (takeRttAttr record memory mem len) byteState attrs

/-! ## The same event as a tree of attributes -/

def targetAttrOf (memory : RttMemory) (mem : Octets) (attr : Nat) : RttTargetAttr :=
  if Netlink.attrType mem attr = rttAttributeTargetMac then
    .targetMac (mem.fetch (Netlink.data attr) 6)
  else if Netlink.attrType mem attr = rttAttributeResultCnt then
    .resultCnt (.ofNat (mem.word (Netlink.data attr) 4))
  else if Netlink.attrType mem attr = rttAttributeResult then
    .result (Netlink.payload mem attr) (memory.allocated attr)
  else .other (.ofNat (Netlink.attrType mem attr))

def rttAttrOf (memory : RttMemory) (mem : Octets) (attr : Nat) : RttAttr :=
  if Netlink.attrType mem attr = rttAttributeResultsComplete then
    .resultsComplete (.ofNat (mem.word (Netlink.data attr) 4))
  else if Netlink.attrType mem attr = rttAttributeResultsPerTarget then
    .resultsPerTarget ((Netlink.inside mem attr).map (targetAttrOf memory mem))
  else .other (.ofNat (Netlink.attrType mem attr))

section Tree

variable {record : RttRecord} {memory : RttMemory} {mem : Octets}

theorem failsAt_iff {attr : Nat} :
    failsAt memory mem attr = true ↔
      Netlink.attrType mem attr = rttAttributeResult ∧ memory.allocated attr = false := by
  simp [failsAt]

/-- Only a result changes the state of the command, and only a result ends the loop. -/
theorem takeTargetAttr_of_not_result (record : RttRecord) (memory : RttMemory) (bound : Int)
    (byteState : RttByteState) {attr : Nat}
    (other : Netlink.attrType mem attr ≠ rttAttributeResult) :
    (takeTargetAttr record memory mem bound byteState attr).value = byteState ∧
      failsAt memory mem attr = false ∧
      ∀ rest state, RttState.handleTarget (targetAttrOf memory mem attr :: rest) state =
        RttState.handleTarget rest state := by
  refine ⟨?_, by simp [failsAt, other], ?_⟩
  · simp only [takeTargetAttr, Traced.value_bind, getType_value]
    split
    · rfl
    split
    · rfl
    · rfl
  · intro rest state
    rw [targetAttrOf]
    split
    · rfl
    split
    · rfl
    · rfl

theorem targetAttrOf_result {attr : Nat}
    (result : Netlink.attrType mem attr = rttAttributeResult) :
    targetAttrOf memory mem attr =
      .result (Netlink.payload mem attr) (memory.allocated attr) := by
  have notMac : ¬ rttAttributeResult = rttAttributeTargetMac := by decide
  have notCnt : ¬ rttAttributeResult = rttAttributeResultCnt := by decide
  simp [targetAttrOf, result, notMac, notCnt]

theorem takeTargetAttr_result {bound : Int} {byteState : RttByteState} {attr : Nat}
    (result : Netlink.attrType mem attr = rttAttributeResult) :
    (takeTargetAttr record memory mem bound byteState attr).value =
      (takeResult record memory mem byteState attr).value := by
  have notMac : ¬ rttAttributeResult = rttAttributeTargetMac := by decide
  have notCnt : ¬ rttAttributeResult = rttAttributeResultCnt := by decide
  simp [takeTargetAttr, result, notMac, notCnt]

theorem takeTargetAttrs_state (bound : Int) (byteState : RttByteState) (attrs : List Nat) :
    (Traced.foldl (takeTargetAttr record memory mem bound) byteState
        (throughFirst (failsAt memory mem) attrs)).value.state =
      RttState.handleTarget (attrs.map (targetAttrOf memory mem)) byteState.state := by
  induction attrs generalizing byteState with
  | nil => rfl
  | cons attr rest ih =>
      rw [List.map_cons, throughFirst]
      by_cases result : Netlink.attrType mem attr = rttAttributeResult
      · rw [targetAttrOf_result result]
        cases got : memory.allocated attr with
        | true =>
            have goesOn : failsAt memory mem attr = false := by simp [failsAt, got]
            rw [goesOn, if_neg Bool.false_ne_true, Traced.foldl_cons, Traced.value_bind, ih,
              takeTargetAttr_result result]
            simp only [takeResult, got, if_true, Traced.value_bind, Traced.value_pure, copy_value,
              Int.toNat_natCast, RttState.handleTarget, Netlink.payload]
        | false =>
            rw [if_pos (failsAt_iff.mpr ⟨result, got⟩), Traced.foldl_cons, Traced.value_bind,
              takeTargetAttr_result result]
            simp [takeResult, got, RttState.handleTarget]
      · obtain ⟨value, goesOn, skips⟩ := takeTargetAttr_of_not_result record memory bound byteState
          result
        rw [goesOn, if_neg Bool.false_ne_true, Traced.foldl_cons, Traced.value_bind, value, ih,
          skips]

/-- The decoder of the bytes refines the handler of the attribute tree. -/
theorem takeRttAttrs_state (bound : Int) (byteState : RttByteState) (attrs : List Nat) :
    (Traced.foldl (takeRttAttr record memory mem bound) byteState attrs).value.state =
      RttState.handleAttrs (attrs.map (rttAttrOf memory mem)) byteState.state := by
  induction attrs generalizing byteState with
  | nil => rfl
  | cons attr rest ih =>
      rw [List.map_cons, Traced.foldl_cons, Traced.value_bind, ih, rttAttrOf]
      simp only [takeRttAttr, Traced.value_bind, getType_value]
      split
      · simp [RttState.handleAttrs]
      split
      · simp only [Traced.value_bind, Netlink.iterate_value, RttState.handleAttrs,
          takeTargetAttrs_state]
        rfl
      · simp [RttState.handleAttrs]

end Tree

/-! ## What the handler may read -/

/-- The payload of a result reaches to the end of every member that is logged, and what
is behind the record, where it begins like an element, to the type of one. -/
def ResultFits (record : RttRecord) (mem : Octets) (attr : Nat) : Prop :=
  (∀ member ∈ record.logged, 0 < member.2 →
    (member.1 + member.2 : Int) ≤ Netlink.payloadLen mem attr) ∧
  ((record.size : Int) < Netlink.payloadLen mem attr →
    mem.word (Netlink.data attr + record.size) 1 = dot11MngMeasureRequestId →
      (record.size + 5 : Int) ≤ Netlink.payloadLen mem attr)

def TargetAttrFits (record : RttRecord) (memory : RttMemory) (mem : Octets) (attr : Nat) :
    Prop :=
  (Netlink.attrType mem attr = rttAttributeTargetMac → 6 ≤ Netlink.payloadLen mem attr) ∧
  (Netlink.attrType mem attr = rttAttributeResultCnt → 4 ≤ Netlink.payloadLen mem attr) ∧
  (Netlink.attrType mem attr = rttAttributeResult → memory.allocated attr = true →
    ResultFits record mem attr)

/-- There is vendor data; the completion flags in it have four bytes; and the containers
fit as far as they are read. -/
def RttEventFits (record : RttRecord) (memory : RttMemory) (event : VendorMessage) : Prop :=
  ∃ mem len, event.vendorData = some ⟨mem, len⟩ ∧ ∀ attr ∈ Netlink.attrs mem 0 len,
    (Netlink.attrType mem attr = rttAttributeResultsComplete →
      4 ≤ Netlink.payloadLen mem attr) ∧
    (Netlink.attrType mem attr = rttAttributeResultsPerTarget →
      ∀ inner ∈ throughFirst (failsAt memory mem) (Netlink.inside mem attr),
        TargetAttrFits record memory mem inner)

section Reads

variable {mem' : Octets}

theorem readSecond_safe {buffer : Octets} {size len : Nat} (large : 4 ≤ size)
    (whole : size + 5 ≤ len) (wanted : Nat) :
    Safe mem' (readSecond buffer len size ((len : Int) - size - size) wanted) := by
  simp only [readSecond, Traced.every_bind, safe_word, word_value, dot11RmIe_offsetof]
  refine ⟨by omega, ?_⟩
  split
  next left =>
    simp only [dot11HdrLen] at left
    simp only [Traced.every_bind, safe_word, word_value, dot11HdrLen]
    refine ⟨by omega, ?_⟩
    split
    · simp only [Traced.every_bind, safe_word, Traced.every_pure, and_true]
      omega
    · simp
  next => simp

theorem readElements_safe_iff {buffer : Octets} {size len : Nat} (large : 4 ≤ size) :
    Safe mem' (readElements size len buffer) ↔
      (size < len → buffer.word size 1 = dot11MngMeasureRequestId → size + 5 ≤ len) := by
  rw [readElements]
  by_cases behind : size < len
  · rw [if_pos (by omega)]
    simp only [Traced.every_bind, safe_word, word_value, dot11RmIe_offsetof, Nat.add_zero]
    by_cases id : buffer.word size 1 = dot11MngMeasureRequestId
    · rw [if_pos id]
      constructor
      · rintro ⟨-, elements⟩ _ _
        rw [Traced.every_bind] at elements
        have type := safe_word.mp elements.1
        omega
      · intro whole
        have enough := whole behind id
        refine ⟨by omega, ?_⟩
        simp only [Traced.every_bind, safe_word]
        refine ⟨by omega, ?_⟩
        split
        · simp only [Traced.every_bind, Traced.every_pure, and_true]
          exact readSecond_safe large enough _
        split
        · simp only [Traced.every_bind, Traced.every_pure, and_true]
          exact readSecond_safe large enough _
        · simp
    · rw [if_neg id]
      simp [id]
      omega
  · rw [if_neg (by omega)]
    simp [behind]

theorem mem_throughFirst {ends : Nat → Bool} {items : List Nat} {x : Nat}
    (here : x ∈ throughFirst ends items) : x ∈ items := by
  induction items with
  | nil => simp [throughFirst] at here
  | cons y rest ih =>
      rw [throughFirst] at here
      split at here
      · exact List.mem_cons.mpr (.inl (List.mem_singleton.mp here))
      · rcases List.mem_cons.mp here with rfl | later
        · exact List.mem_cons_self
        · exact List.mem_cons_of_mem y (ih later)

theorem resultBuffer_word (memory : RttMemory) (mem : Octets) {attr i : Nat}
    (inside : (i : Int) < Netlink.payloadLen mem attr) :
    (resultBuffer memory mem attr).word i 1 = mem.word (Netlink.data attr + i) 1 := by
  have small : i < (Netlink.payloadLen mem attr).toNat := by omega
  simp [Octets.word, Octets.fetch, resultBuffer, small]

theorem takeResult_safe_iff (record : RttRecord) (memory : RttMemory) {mem : Octets}
    (byteState : RttByteState) {attr : Nat} (natural : 0 ≤ Netlink.payloadLen mem attr) :
    Safe mem' (takeResult record memory mem byteState attr) ↔
      (memory.allocated attr = true → ResultFits record mem attr) := by
  rw [takeResult]
  by_cases got : memory.allocated attr = true
  · rw [if_pos got]
    have copied : Safe mem' (copy mem (Netlink.data attr) ((Netlink.payloadLen mem attr).toNat : Nat)
        (Netlink.data attr + ((Netlink.payloadLen mem attr).toNat : Nat))) := by
      rw [safe_copy]
      omega
    have length : ((Netlink.payloadLen mem attr).toNat : Int) = Netlink.payloadLen mem attr := by
      omega
    simp only [Traced.every_bind, copied, true_and, Traced.every_each, Traced.every_pure,
      and_true, readElements_safe_iff record.large, safe_word, got, forall_const, ResultFits]
    rw [and_comm]
    refine and_congr (forall_congr' fun member => forall_congr' fun _ => ?_) ?_
    · rw [length]
    · constructor
      · intro whole behind id
        have enough := whole (by omega) (by rw [resultBuffer_word memory mem behind]; exact id)
        omega
      · intro whole behind id
        have less : (record.size : Int) < Netlink.payloadLen mem attr := by omega
        rw [resultBuffer_word memory mem less] at id
        have enough := whole less id
        omega
  · rw [if_neg got]
    simp [got]

theorem takeTargetAttr_safe_iff (record : RttRecord) (memory : RttMemory) {mem : Octets}
    (byteState : RttByteState) {attr container : Nat}
    (visited : attr ∈ Netlink.inside mem container) :
    Safe mem' (takeTargetAttr record memory mem
        (Netlink.data container + Netlink.payloadLen mem container) byteState attr) ↔
      TargetAttrFits record memory mem attr := by
  have header : Safe mem' (getType mem attr
      (Netlink.data container + Netlink.payloadLen mem container)) :=
    getType_safe visited (le_refl _)
  have natural := Netlink.payloadLen_nonneg visited
  simp only [takeTargetAttr, Traced.every_bind, header, true_and, getType_value, TargetAttrFits]
  by_cases mac : Netlink.attrType mem attr = rttAttributeTargetMac
  · have notCnt : rttAttributeTargetMac ≠ rttAttributeResultCnt := by decide
    have notResult : rttAttributeTargetMac ≠ rttAttributeResult := by decide
    simp [mac, notCnt, notResult]
  rw [if_neg mac]
  by_cases cnt : Netlink.attrType mem attr = rttAttributeResultCnt
  · have notMac : rttAttributeResultCnt ≠ rttAttributeTargetMac := by decide
    have notResult : rttAttributeResultCnt ≠ rttAttributeResult := by decide
    simp [cnt, notMac, notResult]
  rw [if_neg cnt]
  by_cases result : Netlink.attrType mem attr = rttAttributeResult
  · rw [if_pos result]
    refine (takeResult_safe_iff record memory byteState natural).trans ?_
    rw [result] at mac cnt
    simp [result, mac, cnt]
  · rw [if_neg result]
    simp [mac, cnt, result]

theorem takeRttAttr_safe_iff (record : RttRecord) (memory : RttMemory) {mem : Octets} {len : Nat}
    (byteState : RttByteState) {attr : Nat} (visited : attr ∈ Netlink.attrs mem 0 len) :
    Safe mem' (takeRttAttr record memory mem len byteState attr) ↔
      (Netlink.attrType mem attr = rttAttributeResultsComplete →
        4 ≤ Netlink.payloadLen mem attr) ∧
      (Netlink.attrType mem attr = rttAttributeResultsPerTarget →
        ∀ inner ∈ throughFirst (failsAt memory mem) (Netlink.inside mem attr),
          TargetAttrFits record memory mem inner) := by
  have header : Safe mem' (getType mem attr len) := getType_safe visited (by simp)
  simp only [takeRttAttr, Traced.every_bind, header, true_and, getType_value]
  by_cases complete : Netlink.attrType mem attr = rttAttributeResultsComplete
  · have notTarget : rttAttributeResultsComplete ≠ rttAttributeResultsPerTarget := by decide
    simp [complete, notTarget]
  rw [if_neg complete]
  by_cases target : Netlink.attrType mem attr = rttAttributeResultsPerTarget
  · have walk : Safe mem' (Netlink.iterate mem (Netlink.data attr) (Netlink.payloadLen mem attr)) :=
      Netlink.iterate_safe mem _ mem' _
    have turn : ∀ state, ∀ inner ∈ throughFirst (failsAt memory mem) (Netlink.inside mem attr),
        Safe mem' (takeTargetAttr record memory mem
          (Netlink.data attr + Netlink.payloadLen mem attr) state inner) ↔
          TargetAttrFits record memory mem inner := fun state inner here =>
      takeTargetAttr_safe_iff record memory state (mem_throughFirst here)
    have loop := Traced.every_foldl_of_const turn byteState
    rw [if_pos target, Traced.every_bind, Netlink.iterate_value]
    rw [target] at complete
    simp only [target, walk, complete, true_and, false_implies, true_implies]
    exact loop
  · rw [if_neg target]
    simp [complete, target]

end Reads

/-- Every byte that the handler reads of an attribute lies in its payload exactly when
the event fits. -/
theorem readEvent_safe_iff (record : RttRecord) (memory : RttMemory) (byteState : RttByteState)
    (event : VendorMessage) :
    Safe event.octets (RttCommand.readEvent record memory byteState event) ↔
      RttEventFits record memory event := by
  obtain ⟨cmd, subcmd, _ | ⟨mem, len⟩⟩ := event
  · simp [RttCommand.readEvent, RttEventFits]
  · have walk : Safe mem (Netlink.iterate mem 0 len) := Netlink.iterate_safe mem 0 mem len
    have turn : ∀ state, ∀ attr ∈ Netlink.attrs mem 0 len,
        Safe mem (takeRttAttr record memory mem len state attr) ↔
          (Netlink.attrType mem attr = rttAttributeResultsComplete →
            4 ≤ Netlink.payloadLen mem attr) ∧
          (Netlink.attrType mem attr = rttAttributeResultsPerTarget →
            ∀ inner ∈ throughFirst (failsAt memory mem) (Netlink.inside mem attr),
              TargetAttrFits record memory mem inner) := fun state attr here =>
      takeRttAttr_safe_iff record memory state here
    simp only [RttCommand.readEvent, VendorMessage.octets, Traced.every_bind, walk, true_and,
      Netlink.iterate_value, RttEventFits]
    rw [Traced.every_foldl_of_const turn byteState]
    constructor
    · intro fits
      exact ⟨mem, len, rfl, fits⟩
    · rintro ⟨mem', len', same, fits⟩
      cases same
      exact fits

def bareRttEvent : VendorMessage :=
  { cmd := nl80211CmdVendor, subcmd := VendorEvent.rttEventComplete.subcmd, vendorData := none }

def shortFlagEvent : VendorMessage :=
  { cmd := nl80211CmdVendor
    subcmd := VendorEvent.rttEventComplete.subcmd
    vendorData := some ⟨Octets.ofList [6, 0, 30, 0, 1, 0], 6⟩ }

/-- A layout of the kind that the platform header gives, for pointers of eight bytes. -/
def sampleRttRecord : RttRecord :=
  { size := 136
    logged := [(8, 4), (12, 4), (16, 4), (20, 1), (24, 4), (28, 1), (36, 4), (56, 4), (64, 8),
      (72, 8), (88, 4), (112, 4), (116, 4)]
    inside := by decide
    large := by decide }

def freshRttBytes : RttByteState := ⟨RttState.fresh, fun _ => ⟨none, none⟩⟩

theorem readEvent_unsafe :
    ¬ Safe bareRttEvent.octets (RttCommand.readEvent sampleRttRecord
        ⟨fun _ => true, fun _ _ => 0⟩ freshRttBytes bareRttEvent) ∧
      ¬ Safe shortFlagEvent.octets (RttCommand.readEvent sampleRttRecord
        ⟨fun _ => true, fun _ _ => 0⟩ freshRttBytes shortFlagEvent) := by
  constructor
  · intro safe
    exact safe .null List.mem_cons_self
  · intro safe
    have flag := safe (.read 4 4 6) (by decide)
    revert flag
    decide

/-! ## Finding both elements -/

/-- A well-formed element: its length byte counts what follows it. -/
structure RmElement where
  token : UInt8
  mode : UInt8
  type : UInt8
  body : List UInt8
  short : body.length + 3 < 256
  kind : type.toNat = dot11MeasureTypeLci ∨ type.toNat = dot11MeasureTypeCivicloc

def RmElement.bytes (element : RmElement) : List UInt8 :=
  [.ofNat dot11MngMeasureRequestId, .ofNat (element.body.length + 3), element.token,
    element.mode, element.type] ++ element.body

@[simp] theorem RmElement.bytes_length (element : RmElement) :
    element.bytes.length = element.body.length + 5 := by
  simp [RmElement.bytes]

/-- A payload: the bytes of a record, and one or two elements of distinct types. -/
structure ElementRow (size : Nat) where
  head : List UInt8
  whole : head.length = size
  first : RmElement
  second : Option RmElement
  distinct : ∀ element, second = some element → element.type ≠ first.type

namespace ElementRow

variable {size : Nat} (row : ElementRow size)

def tail : List UInt8 := row.second.elim [] RmElement.bytes

def bytes : List UInt8 := row.head ++ (row.first.bytes ++ row.tail)

/-- Where the element of a type begins in the payload, if there is one. -/
def place (type : Nat) : Option Nat :=
  if row.first.type.toNat = type then some size
  else
    match row.second with
    | none => none
    | some element =>
        if element.type.toNat = type then some (size + row.first.bytes.length) else none

/-- Both pointers lead to the elements that are there. -/
def FoundBy (found : RttElements) : Prop :=
  (∀ place, row.place dot11MeasureTypeLci = some place → found.lci = some place) ∧
    (∀ place, row.place dot11MeasureTypeCivicloc = some place → found.lcr = some place)

end ElementRow

theorem resultBuffer_byte (memory : RttMemory) {mem : Octets} {attr : Nat} {bytes : List UInt8}
    (payload : Netlink.payload mem attr = bytes) {i : Nat} (inside : i < bytes.length) :
    (resultBuffer memory mem attr).word i 1 = (bytes.getD i 0).toNat := by
  have length : (Netlink.payloadLen mem attr).toNat = bytes.length := by
    rw [← payload, Netlink.payload, Octets.fetch_length]
  have byte : bytes.getD i 0 = mem (Netlink.data attr + i) := by
    rw [List.getD_eq_getElem?_getD, ← payload, Netlink.payload, Octets.fetch_getElem?, length,
      if_pos inside, Option.getD_some]
  rw [byte]
  simp [Octets.word, Octets.fetch, leValue, resultBuffer, length, inside]

section Row

variable {size : Nat} (row : ElementRow size)

theorem RmElement.byte_id (element : RmElement) :
    (element.bytes.getD 0 0).toNat = dot11MngMeasureRequestId := by
  rw [RmElement.bytes]
  rfl

theorem RmElement.byte_len (element : RmElement) :
    (element.bytes.getD 1 0).toNat = element.body.length + 3 := by
  have byte : element.bytes.getD 1 0 = .ofNat (element.body.length + 3) := by
    rw [RmElement.bytes]
    rfl
  rw [byte]
  exact UInt8.toNat_ofNat_of_lt element.short

theorem RmElement.byte_type (element : RmElement) :
    (element.bytes.getD 4 0).toNat = element.type.toNat := by
  rw [RmElement.bytes]
  rfl

theorem RmElement.words {buffer : Octets} {place : Nat} (element : RmElement)
    (held : ∀ k < element.bytes.length,
      buffer.word (place + k) 1 = (element.bytes.getD k 0).toNat) :
    buffer.word place 1 = dot11MngMeasureRequestId ∧
      buffer.word (place + 1) 1 = element.body.length + 3 ∧
      buffer.word (place + 4) 1 = element.type.toNat := by
  refine ⟨?_, ?_, ?_⟩
  · exact (held 0 (by simp)).trans element.byte_id
  · exact (held 1 (by simp)).trans element.byte_len
  · exact (held 4 (by simp)).trans element.byte_type

theorem ElementRow.byte_first {k : Nat} (inside : k < row.first.bytes.length) :
    row.bytes.getD (size + k) 0 = row.first.bytes.getD k 0 := by
  rw [bytes, List.getD_append_right _ _ _ _ (by rw [row.whole]; omega), row.whole,
    Nat.add_sub_cancel_left, List.getD_append _ _ _ _ inside]

theorem ElementRow.byte_second {k : Nat} :
    row.bytes.getD (size + row.first.bytes.length + k) 0 = row.tail.getD k 0 := by
  rw [bytes, List.getD_append_right _ _ _ _ (by rw [row.whole]; omega), row.whole,
    List.getD_append_right _ _ _ _ (by omega)]
  congr 1
  omega

theorem readSecond_value (buffer : Octets) (len ele1 wanted : Nat) (resultLen : Int) :
    (readSecond buffer len ele1 resultLen wanted).value =
      let ele2 := ele1 + (buffer.word (ele1 + 1) 1 + 2)
      if resultLen - (buffer.word (ele1 + 1) 1 + 2) > 0 ∧
          buffer.word ele2 1 = dot11MngMeasureRequestId ∧ buffer.word (ele2 + 4) 1 = wanted then
        some ele2
      else none := by
  simp only [readSecond, Traced.value_bind, word_value, dot11RmIe_offsetof, dot11HdrLen,
    Nat.add_zero, Nat.add_assoc, Nat.cast_ofNat]
  by_cases left : resultLen - (buffer.word (ele1 + 1) 1 + 2) > 0
  · rw [if_pos left]
    simp only [Traced.value_bind, word_value, left, true_and]
    by_cases id : buffer.word (ele1 + (buffer.word (ele1 + 1) 1 + 2)) 1 = dot11MngMeasureRequestId
    · rw [if_pos id]
      simp only [Traced.value_bind, word_value, Traced.value_pure, id, true_and]
    · rw [if_neg id, if_neg fun both => id both.1]
      rfl
  · rw [if_neg left, if_neg fun both => left both.1]
    rfl

theorem readSecond_row (buffer : Octets)
    (holds : ∀ i < row.bytes.length, buffer.word i 1 = (row.bytes.getD i 0).toNat)
    (len1 : buffer.word (size + 1) 1 = row.first.body.length + 3) {wanted : Nat}
    (other : wanted ≠ row.first.type.toNat)
    (kind : wanted = dot11MeasureTypeLci ∨ wanted = dot11MeasureTypeCivicloc) :
    (readSecond buffer row.bytes.length size ((row.bytes.length : Int) - size - size)
        wanted).value =
      if ∃ element, row.second = some element ∧ size < element.bytes.length then
        some (size + row.first.bytes.length) else none := by
  have ends : size + (buffer.word (size + 1) 1 + 2) = size + row.first.bytes.length := by
    rw [len1, RmElement.bytes_length]
  rw [readSecond_value, ends, len1]
  cases present : row.second with
  | none =>
      have length : row.bytes.length = size + (row.first.body.length + 5) := by
        simp [ElementRow.bytes, ElementRow.tail, present, row.whole]
      rw [if_neg (by omega), if_neg (by simp)]
  | some element =>
      have tail : row.tail = element.bytes := by simp [ElementRow.tail, present]
      have length : row.bytes.length =
          size + row.first.bytes.length + element.bytes.length := by
        simp only [ElementRow.bytes, List.length_append, row.whole, tail]
        omega
      have at_second : ∀ k < element.bytes.length,
          buffer.word (size + row.first.bytes.length + k) 1 =
            (element.bytes.getD k 0).toNat := by
        intro k inside
        rw [holds _ (by omega), row.byte_second, tail]
      obtain ⟨id, -, type⟩ := element.words at_second
      have differ : element.type.toNat ≠ row.first.type.toNat := fun same =>
        row.distinct element present (UInt8.toNat_inj.mp same)
      have is_wanted : element.type.toNat = wanted := by
        have here := element.kind
        have there := row.first.kind
        simp only [dot11MeasureTypeLci, dot11MeasureTypeCivicloc] at here there kind
        omega
      have counted : ((row.bytes.length : Int) - size - size -
          (((row.first.body.length + 3 : Nat) : Int) + 2) > 0) ↔ size < element.bytes.length := by
        rw [length, RmElement.bytes_length]
        omega
      simp only [counted, id, type, is_wanted, and_self, and_true]
      simp

/-- What the two searches find in a row: the first element, and the second one if it is
longer than the record before it. -/
theorem readElements_row (buffer : Octets)
    (holds : ∀ i < row.bytes.length, buffer.word i 1 = (row.bytes.getD i 0).toNat) :
    let found := (readElements size row.bytes.length buffer).value
    (found.lci = if row.first.type.toNat = dot11MeasureTypeLci then some size
      else if ∃ element, row.second = some element ∧ size < element.bytes.length then
        some (size + row.first.bytes.length) else none) ∧
    (found.lcr = if row.first.type.toNat = dot11MeasureTypeCivicloc then some size
      else if ∃ element, row.second = some element ∧ size < element.bytes.length then
        some (size + row.first.bytes.length) else none) := by
  have size_first : size + row.first.bytes.length ≤ row.bytes.length := by
    simp only [ElementRow.bytes, List.length_append, row.whole]
    omega
  have at_first : ∀ k < row.first.bytes.length,
      buffer.word (size + k) 1 = (row.first.bytes.getD k 0).toNat := by
    intro k inside
    rw [holds _ (by omega), row.byte_first inside]
  obtain ⟨id, len1, type⟩ := row.first.words at_first
  have behind : (row.bytes.length : Int) - size > 0 := by
    rw [RmElement.bytes_length] at size_first
    omega
  have lciNotCivic : dot11MeasureTypeLci ≠ dot11MeasureTypeCivicloc := by decide
  simp only [readElements, dot11RmIe_offsetof, Nat.add_zero]
  rw [if_pos behind]
  simp only [Traced.value_bind, word_value, id, if_true, type]
  rcases row.first.kind with lci | civic
  · have later := readSecond_row row buffer holds len1 (by rw [lci]; exact lciNotCivic.symm)
      (.inr rfl)
    rw [if_pos lci, if_pos lci, if_neg (by rw [lci]; exact lciNotCivic)]
    simp only [Traced.value_bind, Traced.value_pure, true_and]
    exact later
  · have later := readSecond_row row buffer holds len1 (by rw [civic]; exact lciNotCivic)
      (.inl rfl)
    have notLci : row.first.type.toNat ≠ dot11MeasureTypeLci := by
      rw [civic]
      exact lciNotCivic.symm
    rw [if_neg notLci, if_pos civic, if_neg notLci, if_pos civic]
    simp only [Traced.value_bind, Traced.value_pure, and_true]
    exact later

theorem takeTargetAttr_row (record : RttRecord) (memory : RttMemory) (mem : Octets)
    (attr : Nat) (bound : Int) (byteState : RttByteState) (row : ElementRow record.size)
    (got : memory.allocated attr = true)
    (result : Netlink.attrType mem attr = rttAttributeResult)
    (payload : Netlink.payload mem attr = row.bytes) :
    let found := (takeTargetAttr record memory mem bound byteState attr).value.elements
      byteState.state.currentIdx
    (found.lci = if row.first.type.toNat = dot11MeasureTypeLci then some record.size
      else if ∃ element, row.second = some element ∧ record.size < element.bytes.length then
        some (record.size + row.first.bytes.length) else none) ∧
    (found.lcr = if row.first.type.toNat = dot11MeasureTypeCivicloc then some record.size
      else if ∃ element, row.second = some element ∧ record.size < element.bytes.length then
        some (record.size + row.first.bytes.length) else none) := by
  have length : (Netlink.payloadLen mem attr).toNat = row.bytes.length := by
    rw [← payload, Netlink.payload, Octets.fetch_length]
  have stored : (takeTargetAttr record memory mem bound byteState attr).value.elements
      byteState.state.currentIdx =
      (readElements record.size row.bytes.length (resultBuffer memory mem attr)).value := by
    rw [takeTargetAttr_result result, takeResult, if_pos got, ← length]
    simp
  simp only [stored]
  exact readElements_row row (resultBuffer memory mem attr)
    fun i inside => resultBuffer_byte memory payload inside

/-- The result of an attribute that carries a row of elements has both of its pointers
set exactly when a second element is longer than the record. -/
theorem rttElements_found_iff (record : RttRecord) (memory : RttMemory) (mem : Octets)
    (attr : Nat) (bound : Int) (byteState : RttByteState) (row : ElementRow record.size)
    (got : memory.allocated attr = true)
    (result : Netlink.attrType mem attr = rttAttributeResult)
    (payload : Netlink.payload mem attr = row.bytes) :
    row.FoundBy ((takeTargetAttr record memory mem bound byteState attr).value.elements
        byteState.state.currentIdx) ↔
      ∀ element, row.second = some element → record.size < element.bytes.length := by
  obtain ⟨lci, lcr⟩ := takeTargetAttr_row record memory mem attr bound byteState row got result
    payload
  rw [ElementRow.FoundBy, lci, lcr]
  have lciNotCivic : dot11MeasureTypeLci ≠ dot11MeasureTypeCivicloc := by decide
  cases present : row.second with
  | none =>
      simp only [ElementRow.place, present]
      constructor
      · intro _ element here
        cases here
      · intro _
        constructor
        · intro place here
          split at here
          next first => rw [if_pos first, here]
          next => cases here
        · intro place here
          split at here
          next first => rw [if_pos first, here]
          next => cases here
  | some element =>
      have differ : element.type.toNat ≠ row.first.type.toNat := fun same =>
        row.distinct element present (UInt8.toNat_inj.mp same)
      have kind := element.kind
      have longer : (∃ other, some element = some other ∧ record.size < other.bytes.length) ↔
          record.size < element.bytes.length := by simp
      rcases row.first.kind with first | first
      · have other : element.type.toNat = dot11MeasureTypeCivicloc :=
          kind.resolve_left fun same => differ (same.trans first.symm)
        simp only [ElementRow.place, present, first, other, longer, lciNotCivic, if_true, if_false]
        simp
      · have other : element.type.toNat = dot11MeasureTypeLci :=
          kind.resolve_right fun same => differ (same.trans first.symm)
        simp only [ElementRow.place, present, first, other, longer, lciNotCivic.symm, if_true,
          if_false]
        simp

end Row

def resultAttribute (payload : List UInt8) : Octets :=
  Octets.ofList (leBytes 2 (payload.length + 4) ++ (leBytes 2 rttAttributeResult ++ payload))

def lciElement : RmElement := ⟨0, 0, 8, [], by decide, by decide⟩

def civicElement (n : Nat) (short : n + 3 < 256) : RmElement :=
  ⟨0, 0, 11, List.replicate n 0, by simpa using short, by decide⟩

def rowWith (size n : Nat) (short : n + 3 < 256) : ElementRow size :=
  { head := List.replicate size 0
    whole := by simp
    first := lciElement
    second := some (civicElement n short)
    distinct := by
      intro element here
      cases here
      show (11 : UInt8) ≠ 8
      decide }

theorem rowWith_length (size n : Nat) (short : n + 3 < 256) :
    (rowWith size n short).bytes.length = size + n + 10 := by
  simp [rowWith, ElementRow.bytes, ElementRow.tail, lciElement, civicElement]
  omega

theorem resultAttribute_payload {payload : List UInt8} (fits : payload.length + 4 < 65536) :
    Netlink.attrType (resultAttribute payload) 0 = rttAttributeResult ∧
      Netlink.payload (resultAttribute payload) 0 = payload := by
  have total : Netlink.totalLen (resultAttribute payload) 0 = payload.length + 4 := by
    have word := Octets.word_ofList_leBytes [] (leBytes 2 rttAttributeResult ++ payload) 2
      (payload.length + 4) rfl
    rw [Nat.mod_eq_of_lt (by omega)] at word
    exact word
  have type := Octets.word_ofList_leBytes (leBytes 2 (payload.length + 4)) payload 2
    rttAttributeResult (leBytes_length 2 _)
  refine ⟨type, ?_⟩
  have length : (Netlink.payloadLen (resultAttribute payload) 0).toNat = payload.length := by
    rw [Netlink.payloadLen, total, Netlink.hdrlen]
    omega
  rw [Netlink.payload, length, Netlink.data, Netlink.hdrlen, resultAttribute,
    Octets.fetch_ofList (by simp; omega), ← List.append_assoc, slice,
    List.drop_left' (by simp), List.take_length]

theorem resultAttribute_row {size n : Nat} (short : n + 3 < 256) (small : size < 65000) :
    Netlink.attrType (resultAttribute (rowWith size n short).bytes) 0 = rttAttributeResult ∧
      Netlink.payload (resultAttribute (rowWith size n short).bytes) 0 =
        (rowWith size n short).bytes := by
  apply resultAttribute_payload
  rw [rowWith_length]
  omega

/-- A civic location of 140 bytes is found behind a record of 136. -/
theorem rttElements_found_long :
    (rowWith 136 140 (by decide)).FoundBy
      ((takeTargetAttr sampleRttRecord ⟨fun _ => true, fun _ _ => 0⟩
        (resultAttribute (rowWith 136 140 (by decide)).bytes) 290 freshRttBytes 0).value.elements
          freshRttBytes.state.currentIdx) :=
  (rttElements_found_iff sampleRttRecord ⟨fun _ => true, fun _ _ => 0⟩
    (resultAttribute (rowWith 136 140 (by decide)).bytes) 0 290 freshRttBytes
    (rowWith 136 140 (by decide)) rfl (resultAttribute_row _ (by decide)).1
    (resultAttribute_row _ (by decide)).2).mpr (by
      intro element here
      cases here
      show 136 < (civicElement 140 _).bytes.length
      simp [civicElement])

/-- A civic location of its shortest is not looked at. -/
theorem rttElements_not_found :
    ¬ (rowWith 136 0 (by decide)).FoundBy
      ((takeTargetAttr sampleRttRecord ⟨fun _ => true, fun _ _ => 0⟩
        (resultAttribute (rowWith 136 0 (by decide)).bytes) 150 freshRttBytes 0).value.elements
          freshRttBytes.state.currentIdx) := by
  rintro ⟨-, civic⟩
  have found := civic 141 (by decide)
  obtain ⟨result, payload⟩ := resultAttribute_row (by decide : 0 + 3 < 256)
    (by decide : 136 < 65000)
  have lcr := (takeTargetAttr_row sampleRttRecord ⟨fun _ => true, fun _ _ => 0⟩ _ 0 150
    freshRttBytes (rowWith 136 0 (by decide)) rfl result payload).2
  have missed := lcr.symm.trans found
  revert missed
  decide

end Mt6757.WifiHal
