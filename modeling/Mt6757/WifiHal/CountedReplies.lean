import Mt6757.WifiHal.RecordEvents

/-!
# Replies that announce a count

The channel list and the matrix of concurrent features come as attributes of one
level: a count, and what it counts.  The count is unsigned on the wire and signed in
the decoders, which hold it against the capacity of the caller from above only.
-/

set_option autoImplicit false

namespace Mt6757.WifiHal

open MemAccess

def wifiAttributeNumChannels : Nat := 2
def wifiAttributeChannelList : Nat := 3
def wifiAttributeNumFeatureSet : Nat := 4
def wifiAttributeFeatureSet : Nat := 5

/-- `nla_get_u32`, which takes four bytes whatever the payload is. -/
def getU32At (mem : Octets) (attr : Nat) : Traced MemAccess Nat :=
  word mem (Netlink.data attr) 4 (Netlink.data attr + Netlink.payloadLen mem attr)

@[simp] theorem getU32At_value (mem : Octets) (attr : Nat) :
    (getU32At mem attr).value = mem.word (Netlink.data attr) 4 := by
  simp only [getU32At, word_value]

@[simp] theorem getU32At_safe {mem mem' : Octets} {attr : Nat} :
    Safe mem' (getU32At mem attr) ↔ 4 ≤ Netlink.payloadLen mem attr := by
  simp [getU32At]

def getType (mem : Octets) (attr : Nat) (bound : Int) : Traced MemAccess Nat :=
  word mem (attr + 2) 2 bound

@[simp] theorem getType_value (mem : Octets) (attr : Nat) (bound : Int) :
    (getType mem attr bound).value = Netlink.attrType mem attr := by
  simp only [getType, word_value, Netlink.attrType]

theorem getType_safe {mem mem' : Octets} {attr nla : Nat} {rem : Int}
    {bound : Int} (visited : attr ∈ Netlink.attrs mem nla rem) (ends : nla + rem ≤ bound) :
    Safe mem' (getType mem attr bound) := by
  obtain ⟨-, whole, most⟩ := Netlink.mem_attrs visited
  simp only [Netlink.hdrlen] at whole
  simp [getType]
  omega

/-- The frame of both decoders: the tests they make of a reply, then the loop over the
attributes of its vendor data.  `ready` is what they ask of their outputs. -/
def decodeReply {σ : Type} (ready : Bool) (initial : σ)
    (take : Octets → Nat → σ → Nat → Traced MemAccess σ) (reply : VendorMessage) :
    Traced MemAccess (Int × σ) :=
  if reply.cmd ≠ nl80211CmdVendor then pure (nlSkip, initial)
  else
    match reply.vendorData with
    | none => pure (nlSkip, initial)
    | some ⟨mem, len⟩ =>
        if len = 0 then pure (nlSkip, initial)
        else if !ready then pure (nlSkip, initial)
        else do
          let attrs ← Netlink.iterate mem 0 len
          let final ← Traced.foldl (take mem len) initial attrs
          pure (nlOk, final)

/-- The reply has vendor data and is looked at. -/
def VendorMessage.Holds (reply : VendorMessage) (mem : Octets) (len : Nat) : Prop :=
  reply.cmd = nl80211CmdVendor ∧ len ≠ 0 ∧ reply.vendorData = some ⟨mem, len⟩

section Frame

variable {σ : Type} {ready : Bool} (initial : σ)
  (take : Octets → Nat → σ → Nat → Traced MemAccess σ) {reply : VendorMessage}

theorem VendorMessage.Holds.unique {mem mem' : Octets} {len len' : Nat}
    (here : reply.Holds mem len) (there : reply.Holds mem' len') : mem = mem' ∧ len = len' := by
  have same := here.2.2.symm.trans there.2.2
  cases same
  exact ⟨rfl, rfl⟩

theorem decodeReply_of_holds {mem : Octets} {len : Nat} (here : reply.Holds mem len) :
    (Safe reply.octets (decodeReply true initial take reply) ↔
      Safe mem (Traced.foldl (take mem len) initial (Netlink.attrs mem 0 len))) ∧
    (decodeReply true initial take reply).value.2 =
      (Traced.foldl (take mem len) initial (Netlink.attrs mem 0 len)).value := by
  obtain ⟨cmd, subcmd, vendorData⟩ := reply
  obtain ⟨vendor, present, data⟩ := here
  dsimp only at vendor data
  subst vendor data
  have walk : Safe mem (Netlink.iterate mem 0 len) := Netlink.iterate_safe mem 0 mem len
  simp [decodeReply, present, VendorMessage.octets, walk]

theorem decodeReply_of_not_holds (absent : ready = false ∨ ∀ mem len, ¬ reply.Holds mem len) :
    Safe reply.octets (decodeReply ready initial take reply) ∧
      (decodeReply ready initial take reply).value.2 = initial := by
  obtain ⟨cmd, subcmd, vendorData⟩ := reply
  by_cases vendor : cmd = nl80211CmdVendor
  · obtain _ | ⟨mem, len⟩ := vendorData
    · simp [decodeReply, Safe]
    · by_cases present : len = 0
      · simp [decodeReply, present, Safe]
      · rcases absent with notReady | absent
        · simp [decodeReply, present, notReady, Safe]
        · exact absurd ⟨vendor, present, rfl⟩ (absent mem len)
  · simp [decodeReply, vendor, Safe]

end Frame

/-- The one-sided test that both decoders make. -/
def clampAbove (count max : Int) : Int := if count > max then max else count

/-! ## The channel list -/

structure ChannelListState where
  numChannels : Int
  /-- `*mNumOfChannel`, once it is written. -/
  reported : Option Int
  channels : List UInt8
  deriving DecidableEq, Repr

def ChannelListState.initial (channels : List UInt8) : ChannelListState :=
  { numChannels := 0, reported := none, channels := channels }

def takeChannelAttr (channelSize maxChannels : Nat) (mem : Octets) (len : Nat)
    (state : ChannelListState) (attr : Nat) : Traced MemAccess ChannelListState := do
  let type ← getType mem attr len
  if type = wifiAttributeNumChannels then do
    let count ← getU32At mem attr
    let numChannels := clampAbove (signedWord 4 count) maxChannels
    pure { state with numChannels := numChannels, reported := some numChannels }
  else if type = wifiAttributeChannelList ∧ state.numChannels ≠ 0 then do
    let bytes ← copy mem (Netlink.data attr) (channelSize * state.numChannels)
      (Netlink.data attr + Netlink.payloadLen mem attr)
    Traced.emit (.write 0 state.numChannels maxChannels)
    pure { state with channels := bytes ++ state.channels.drop bytes.length }
  else pure state

/-- `GetChannelListCommand::handleResponse`, on an array of `maxChannels` entries.  The
two entries that the last log line prints are the caller's and are left out. -/
def GetChannelListCommand.handleResponse (channelSize maxChannels : Nat) (channels : List UInt8)
    (reply : VendorMessage) : Traced MemAccess (Int × ChannelListState) :=
  decodeReply true (ChannelListState.initial channels)
    (takeChannelAttr channelSize maxChannels) reply

/-! ## The matrix of concurrent features -/

structure FeatureMatrixState where
  numFeaturesSet : Int
  /-- The next row of the matrix. -/
  i : Nat
  /-- `*fm_size`, once it is written. -/
  reported : Option Int
  matrix : List Nat
  deriving DecidableEq, Repr

def FeatureMatrixState.initial (matrix : List Nat) : FeatureMatrixState :=
  { numFeaturesSet := 0, i := 0, reported := none, matrix := matrix }

/-- A capacity of zero does not limit the count. -/
def featureLimit (setSizeMax count : Nat) : Int :=
  if setSizeMax ≠ 0 then clampAbove (signedWord 4 count) setSizeMax else signedWord 4 count

def takeFeatureAttr (setSizeMax : Nat) (mem : Octets) (len : Nat)
    (state : FeatureMatrixState) (attr : Nat) : Traced MemAccess FeatureMatrixState := do
  let type ← getType mem attr len
  if type = wifiAttributeNumFeatureSet then do
    let count ← getU32At mem attr
    let numFeaturesSet := featureLimit setSizeMax count
    pure { state with numFeaturesSet := numFeaturesSet, reported := some numFeaturesSet }
  else if type = wifiAttributeFeatureSet ∧ (state.i : Int) < state.numFeaturesSet then do
    let features ← getU32At mem attr
    Traced.emit (.write state.i 1 setSizeMax)
    pure { state with i := state.i + 1, matrix := state.matrix.set state.i features }
  else pure state

/-- `GetFeatureSetCommand::handleResponse` for `WIFI_ATTRIBUTE_NUM_FEATURE_SET`;
`supplied` is whether the caller gave both `feature_matrix` and `fm_size`. -/
def GetFeatureSetCommand.handleResponse (supplied : Bool) (setSizeMax : Nat) (matrix : List Nat)
    (reply : VendorMessage) : Traced MemAccess (Int × FeatureMatrixState) :=
  decodeReply supplied (FeatureMatrixState.initial matrix) (takeFeatureAttr setSizeMax) reply

/-! ## What is announced -/

section Announced

variable (mem : Octets) (numType : Nat)

/-- The count announced last in a list of attributes, and zero before the first. -/
def announced (attrs : List Nat) : Nat :=
  attrs.foldl (fun count attr =>
    if Netlink.attrType mem attr = numType then mem.word (Netlink.data attr) 4 else count) 0

@[simp] theorem announced_nil : announced mem numType [] = 0 := rfl

@[simp] theorem announced_snoc (attrs : List Nat) (attr : Nat) :
    announced mem numType (attrs ++ [attr]) =
      if Netlink.attrType mem attr = numType then mem.word (Netlink.data attr) 4
      else announced mem numType attrs := by
  simp [announced]

theorem announced_lt (attrs : List Nat) : announced mem numType attrs < 2 ^ 32 := by
  induction attrs using List.reverseRecOn with
  | nil => simp
  | append_singleton attrs attr ih =>
      have bound := mem.word_lt (Netlink.data attr) 4
      rw [announced_snoc]
      split
      · omega
      · exact ih

end Announced

theorem clampAbove_of_small {count max : Nat} (small : count < 2 ^ 31) :
    clampAbove (signedWord 4 count) max = (min count max : Nat) := by
  rw [signedWord_of_small (by omega), clampAbove]
  split <;> omega

theorem clampAbove_of_large {count : Nat} (max : Nat) (large : 2 ^ 31 ≤ count) (fits : count < 2 ^ 32) :
    clampAbove (signedWord 4 count) max < 0 := by
  have negative : signedWord 4 count < 0 := (signedWord_neg_iff (by omega)).mpr (by omega)
  rw [clampAbove]
  split <;> omega

/-- A clamped count is within the capacity when the announced one is a signed number. -/
theorem reported_within_iff {inEffect : Int} {reported : Option Int} {count max : Nat}
    (clamped : inEffect = clampAbove (signedWord 4 count) max ∧
      (reported = none ∧ count = 0 ∨ reported = some inEffect)) (fits : count < 2 ^ 32) :
    (∀ value, reported = some value → 0 ≤ value ∧ value ≤ max) ↔ count < 2 ^ 31 := by
  obtain ⟨rfl, ⟨rfl, rfl⟩ | rfl⟩ := clamped
  · simp
  rcases Nat.lt_or_ge count (2 ^ 31) with small | large
  · rw [clampAbove_of_small small]
    simp
    omega
  · have negative := clampAbove_of_large max large fits
    constructor
    · intro within
      have natural := (within _ rfl).1
      omega
    · intro small
      omega

/-! ## The channel list against its capacity -/

/-- No access of the decoder leaves the array or an attribute, and the reported count
is one of the array. -/
def ChannelListBounded (channelSize maxChannels : Nat) (channels : List UInt8)
    (reply : VendorMessage) : Prop :=
  Safe reply.octets
      (GetChannelListCommand.handleResponse channelSize maxChannels channels reply) ∧
    ∀ count, (GetChannelListCommand.handleResponse channelSize maxChannels channels
        reply).value.2.reported = some count → 0 ≤ count ∧ count ≤ maxChannels

/-- Every count has four bytes; the last one, and any in effect at a list, is one of a
signed number; a list holds the channels that the count and the capacity allow. -/
def ChannelAttrsFit (channelSize maxChannels : Nat) (mem : Octets) (attrs : List Nat) : Prop :=
  (∀ before attr after, attrs = before ++ attr :: after →
    (Netlink.attrType mem attr = wifiAttributeNumChannels → 4 ≤ Netlink.payloadLen mem attr) ∧
    (Netlink.attrType mem attr = wifiAttributeChannelList →
      announced mem wifiAttributeNumChannels before < 2 ^ 31 ∧
        channelSize * min (announced mem wifiAttributeNumChannels before) maxChannels ≤
          Netlink.payloadLen mem attr)) ∧
  announced mem wifiAttributeNumChannels attrs < 2 ^ 31

def ChannelListFits (channelSize maxChannels : Nat) (reply : VendorMessage) : Prop :=
  ∀ mem len, reply.Holds mem len →
    ChannelAttrsFit channelSize maxChannels mem (Netlink.attrs mem 0 len)

section ChannelList

variable {channelSize maxChannels : Nat} {mem : Octets} {len : Nat}

theorem takeChannelAttr_counts (channelSize maxChannels : Nat) (mem : Octets) (len : Nat)
    (channels : List UInt8) (attrs : List Nat) :
    let state := (Traced.foldl (takeChannelAttr channelSize maxChannels mem len)
      (ChannelListState.initial channels) attrs).value
    let count := announced mem wifiAttributeNumChannels attrs
    state.numChannels = clampAbove (signedWord 4 count) maxChannels ∧
      (state.reported = none ∧ count = 0 ∨ state.reported = some state.numChannels) := by
  induction attrs using List.reverseRecOn with
  | nil => simp [ChannelListState.initial, clampAbove_of_small]
  | append_singleton attrs attr ih =>
      simp only [Traced.value_foldl, List.foldl_append, List.foldl_cons, List.foldl_nil,
        announced_snoc] at ih ⊢
      generalize attrs.foldl _ _ = state at ih ⊢
      simp only [takeChannelAttr, Traced.value_bind, getType_value]
      by_cases count : Netlink.attrType mem attr = wifiAttributeNumChannels
      · simp [count]
      · rw [if_neg count, if_neg count]
        split
        · exact ih
        · exact ih

theorem takeChannelAttr_safe {state : ChannelListState} {attr : Nat} {mem' : Octets}
    (visited : attr ∈ Netlink.attrs mem 0 len) :
    Safe mem' (takeChannelAttr channelSize maxChannels mem len state attr) ↔
      (Netlink.attrType mem attr = wifiAttributeNumChannels →
        4 ≤ Netlink.payloadLen mem attr) ∧
      (Netlink.attrType mem attr = wifiAttributeChannelList → state.numChannels ≠ 0 →
        0 ≤ state.numChannels ∧ state.numChannels ≤ maxChannels ∧
          channelSize * state.numChannels ≤ Netlink.payloadLen mem attr) := by
  have header : Safe mem' (getType mem attr len) :=
    getType_safe visited (by simp : ((0 : Nat) : Int) + len ≤ len)
  simp only [takeChannelAttr, Traced.every_bind, header, true_and, getType_value]
  by_cases count : Netlink.attrType mem attr = wifiAttributeNumChannels
  · have other : wifiAttributeNumChannels ≠ wifiAttributeChannelList := by decide
    simp [count, other]
  · rw [if_neg count]
    by_cases list : Netlink.attrType mem attr = wifiAttributeChannelList ∧ state.numChannels ≠ 0
    · rw [if_pos list]
      have distinct : wifiAttributeChannelList ≠ wifiAttributeNumChannels := by decide
      have payload := Netlink.payloadLen_nonneg visited
      simp [list, distinct]
      constructor
      · rintro ⟨⟨-, whole⟩, natural, few⟩
        exact ⟨natural, by omega, by omega⟩
      · rintro ⟨natural, few, whole⟩
        exact ⟨⟨mul_nonneg (by omega) natural, fun _ => whole⟩, natural, fun _ => few⟩
    · rw [if_neg list]
      simp [count]
      tauto

theorem channelAttrs_safe_iff {channels : List UInt8} :
    Safe mem (Traced.foldl (takeChannelAttr channelSize maxChannels mem len)
        (ChannelListState.initial channels) (Netlink.attrs mem 0 len)) ↔
      ∀ before attr after, Netlink.attrs mem 0 len = before ++ attr :: after →
        (Netlink.attrType mem attr = wifiAttributeNumChannels →
          4 ≤ Netlink.payloadLen mem attr) ∧
        (Netlink.attrType mem attr = wifiAttributeChannelList →
          announced mem wifiAttributeNumChannels before < 2 ^ 31 ∧
            channelSize * min (announced mem wifiAttributeNumChannels before) maxChannels ≤
              Netlink.payloadLen mem attr) := by
  rw [Safe, Traced.every_foldl]
  refine forall_congr' fun before => forall_congr' fun attr => forall_congr' fun after =>
    forall_congr' fun split => ?_
  have visited : attr ∈ Netlink.attrs mem 0 len := by simp [split]
  have payload := Netlink.payloadLen_nonneg visited
  have count := (takeChannelAttr_counts channelSize maxChannels mem len channels before).1
  have fits := announced_lt mem wifiAttributeNumChannels before
  refine (takeChannelAttr_safe visited).trans ?_
  rw [count]
  refine and_congr_right fun _ => forall_congr' fun _ => ?_
  rcases Nat.lt_or_ge (announced mem wifiAttributeNumChannels before) (2 ^ 31) with small | large
  · rw [clampAbove_of_small small]
    constructor
    · intro all
      refine ⟨small, ?_⟩
      by_cases none : min (announced mem wifiAttributeNumChannels before) maxChannels = 0
      · rw [none]
        simpa using payload
      · exact (all (by omega)).2.2
    · rintro ⟨-, whole⟩ _
      exact ⟨by omega, by omega, whole⟩
  · have negative := clampAbove_of_large maxChannels large fits
    constructor
    · intro all
      have natural := (all (by omega)).1
      omega
    · rintro ⟨small, -⟩
      omega

theorem channelList_bounded_iff (channelSize maxChannels : Nat) (channels : List UInt8)
    (reply : VendorMessage) :
    ChannelListBounded channelSize maxChannels channels reply ↔
      ChannelListFits channelSize maxChannels reply := by
  by_cases holds : ∃ mem len, reply.Holds mem len
  · obtain ⟨mem, len, holds⟩ := holds
    have fits_iff : ChannelListFits channelSize maxChannels reply ↔
        ChannelAttrsFit channelSize maxChannels mem (Netlink.attrs mem 0 len) := by
      constructor
      · intro fits
        exact fits mem len holds
      · intro fits mem' len' there
        obtain ⟨rfl, rfl⟩ := holds.unique there
        exact fits
    obtain ⟨safe, value⟩ := decodeReply_of_holds (ChannelListState.initial channels)
      (takeChannelAttr channelSize maxChannels) holds
    have counts := takeChannelAttr_counts channelSize maxChannels mem len channels
      (Netlink.attrs mem 0 len)
    have fits := announced_lt mem wifiAttributeNumChannels (Netlink.attrs mem 0 len)
    rw [fits_iff, ChannelListBounded, GetChannelListCommand.handleResponse, safe, value,
      channelAttrs_safe_iff, ChannelAttrsFit]
    refine and_congr_right fun _ => ?_
    exact reported_within_iff counts fits
  · have refused : ∀ mem len, ¬ reply.Holds mem len := by
      simpa using holds
    obtain ⟨safe, value⟩ := decodeReply_of_not_holds
      (ChannelListState.initial channels) (takeChannelAttr channelSize maxChannels)
      (Or.inr refused : true = false ∨ _)
    constructor
    · intro _ mem len here
      exact absurd here (refused mem len)
    · intro _
      refine ⟨safe, fun count made => ?_⟩
      rw [GetChannelListCommand.handleResponse, value] at made
      cases made

end ChannelList

/-! ## The feature matrix against its capacity -/

/-- As `ChannelListBounded`, for the matrix. -/
def FeatureMatrixBounded (supplied : Bool) (setSizeMax : Nat) (matrix : List Nat)
    (reply : VendorMessage) : Prop :=
  Safe reply.octets (GetFeatureSetCommand.handleResponse supplied setSizeMax matrix reply) ∧
    ∀ count, (GetFeatureSetCommand.handleResponse supplied setSizeMax matrix
        reply).value.2.reported = some count → 0 ≤ count ∧ count ≤ setSizeMax

/-- The count in effect and the rows taken so far: one for each feature set that comes
while fewer were taken than the count allows. -/
def featureProgress (setSizeMax : Nat) (mem : Octets) (attrs : List Nat) : Nat × Nat :=
  attrs.foldl (fun (count, taken) attr =>
    if Netlink.attrType mem attr = wifiAttributeNumFeatureSet then
      (mem.word (Netlink.data attr) 4, taken)
    else if Netlink.attrType mem attr = wifiAttributeFeatureSet ∧
        (taken : Int) < featureLimit setSizeMax count then
      (count, taken + 1)
    else (count, taken)) (0, 0)

def rowsTaken (setSizeMax : Nat) (mem : Octets) (attrs : List Nat) : Nat :=
  (featureProgress setSizeMax mem attrs).2

/-- Every count and every feature set that is taken has four bytes; none is taken, and
none announced at the end, for a capacity of zero; the last count is a signed number. -/
def FeatureAttrsFit (setSizeMax : Nat) (mem : Octets) (attrs : List Nat) : Prop :=
  (∀ before attr after, attrs = before ++ attr :: after →
    (Netlink.attrType mem attr = wifiAttributeNumFeatureSet →
      4 ≤ Netlink.payloadLen mem attr) ∧
    (Netlink.attrType mem attr = wifiAttributeFeatureSet →
      (rowsTaken setSizeMax mem before : Int) <
          featureLimit setSizeMax (announced mem wifiAttributeNumFeatureSet before) →
        0 < setSizeMax ∧ 4 ≤ Netlink.payloadLen mem attr)) ∧
  announced mem wifiAttributeNumFeatureSet attrs < 2 ^ 31 ∧
    (setSizeMax = 0 → announced mem wifiAttributeNumFeatureSet attrs = 0)

def FeatureMatrixFits (supplied : Bool) (setSizeMax : Nat) (reply : VendorMessage) : Prop :=
  supplied = true → ∀ mem len, reply.Holds mem len →
    FeatureAttrsFit setSizeMax mem (Netlink.attrs mem 0 len)

section FeatureMatrix

variable {setSizeMax : Nat} {mem : Octets} {len : Nat}

theorem featureProgress_snoc (attrs : List Nat) (attr : Nat) :
    featureProgress setSizeMax mem (attrs ++ [attr]) =
      if Netlink.attrType mem attr = wifiAttributeNumFeatureSet then
        (mem.word (Netlink.data attr) 4, rowsTaken setSizeMax mem attrs)
      else if Netlink.attrType mem attr = wifiAttributeFeatureSet ∧
          (rowsTaken setSizeMax mem attrs : Int) <
            featureLimit setSizeMax (featureProgress setSizeMax mem attrs).1 then
        ((featureProgress setSizeMax mem attrs).1, rowsTaken setSizeMax mem attrs + 1)
      else featureProgress setSizeMax mem attrs := by
  simp [featureProgress, rowsTaken]

theorem featureProgress_count (attrs : List Nat) :
    (featureProgress setSizeMax mem attrs).1 =
      announced mem wifiAttributeNumFeatureSet attrs := by
  induction attrs using List.reverseRecOn with
  | nil => rfl
  | append_singleton attrs attr ih =>
      rw [featureProgress_snoc, announced_snoc]
      split
      · rfl
      · split
        · exact ih
        · exact ih

theorem rowsTaken_snoc (attrs : List Nat) (attr : Nat) :
    rowsTaken setSizeMax mem (attrs ++ [attr]) =
      if Netlink.attrType mem attr ≠ wifiAttributeNumFeatureSet ∧
          Netlink.attrType mem attr = wifiAttributeFeatureSet ∧
          (rowsTaken setSizeMax mem attrs : Int) <
            featureLimit setSizeMax (announced mem wifiAttributeNumFeatureSet attrs) then
        rowsTaken setSizeMax mem attrs + 1
      else rowsTaken setSizeMax mem attrs := by
  rw [rowsTaken, featureProgress_snoc, featureProgress_count]
  by_cases count : Netlink.attrType mem attr = wifiAttributeNumFeatureSet
  · simp [count]
  · rw [if_neg count]
    by_cases row : Netlink.attrType mem attr = wifiAttributeFeatureSet ∧
        (rowsTaken setSizeMax mem attrs : Int) <
          featureLimit setSizeMax (announced mem wifiAttributeNumFeatureSet attrs)
    · rw [if_pos row, if_pos ⟨count, row⟩]
    · rw [if_neg row, if_neg fun both => row both.2]
      rfl

theorem takeFeatureAttr_counts (setSizeMax : Nat) (mem : Octets) (len : Nat)
    (matrix : List Nat) (attrs : List Nat) :
    let state := (Traced.foldl (takeFeatureAttr setSizeMax mem len)
      (FeatureMatrixState.initial matrix) attrs).value
    let count := announced mem wifiAttributeNumFeatureSet attrs
    state.numFeaturesSet = featureLimit setSizeMax count ∧
      state.i = rowsTaken setSizeMax mem attrs ∧
      (state.reported = none ∧ count = 0 ∨ state.reported = some state.numFeaturesSet) := by
  induction attrs using List.reverseRecOn with
  | nil =>
      simp [FeatureMatrixState.initial, featureLimit, clampAbove, rowsTaken, featureProgress,
        signedWord]
  | append_singleton attrs attr ih =>
      simp only [Traced.value_foldl, List.foldl_append, List.foldl_cons, List.foldl_nil,
        announced_snoc, rowsTaken_snoc] at ih ⊢
      generalize attrs.foldl _ _ = state at ih ⊢
      obtain ⟨limit, rows, reported⟩ := ih
      simp only [takeFeatureAttr, Traced.value_bind, getType_value]
      by_cases count : Netlink.attrType mem attr = wifiAttributeNumFeatureSet
      · simp [count, rows]
      · rw [if_neg count, if_neg count, ← limit, ← rows]
        by_cases row : Netlink.attrType mem attr = wifiAttributeFeatureSet ∧
            (state.i : Int) < state.numFeaturesSet
        · rw [if_pos row, if_pos ⟨count, row⟩]
          exact ⟨rfl, rfl, reported⟩
        · rw [if_neg row, if_neg fun both => row both.2]
          exact ⟨rfl, rfl, reported⟩

theorem takeFeatureAttr_safe {state : FeatureMatrixState} {attr : Nat} {mem' : Octets}
    (visited : attr ∈ Netlink.attrs mem 0 len) :
    Safe mem' (takeFeatureAttr setSizeMax mem len state attr) ↔
      (Netlink.attrType mem attr = wifiAttributeNumFeatureSet →
        4 ≤ Netlink.payloadLen mem attr) ∧
      (Netlink.attrType mem attr = wifiAttributeFeatureSet →
        (state.i : Int) < state.numFeaturesSet →
          state.i < setSizeMax ∧ 4 ≤ Netlink.payloadLen mem attr) := by
  have header : Safe mem' (getType mem attr len) :=
    getType_safe visited (by simp : ((0 : Nat) : Int) + len ≤ len)
  simp only [takeFeatureAttr, Traced.every_bind, header, true_and, getType_value]
  by_cases count : Netlink.attrType mem attr = wifiAttributeNumFeatureSet
  · have other : wifiAttributeNumFeatureSet ≠ wifiAttributeFeatureSet := by decide
    simp [count, other]
  · rw [if_neg count]
    by_cases row : Netlink.attrType mem attr = wifiAttributeFeatureSet ∧
        (state.i : Int) < state.numFeaturesSet
    · rw [if_pos row]
      have distinct : wifiAttributeFeatureSet ≠ wifiAttributeNumFeatureSet := by decide
      simp [row, distinct]
      omega
    · rw [if_neg row]
      simp [count]
      tauto

theorem featureLimit_le (count : Nat) (bounded : setSizeMax ≠ 0) :
    featureLimit setSizeMax count ≤ setSizeMax := by
  rw [featureLimit, if_pos bounded, clampAbove]
  split <;> omega

theorem featureAttrs_safe_iff {matrix : List Nat} :
    Safe mem (Traced.foldl (takeFeatureAttr setSizeMax mem len)
        (FeatureMatrixState.initial matrix) (Netlink.attrs mem 0 len)) ↔
      ∀ before attr after, Netlink.attrs mem 0 len = before ++ attr :: after →
        (Netlink.attrType mem attr = wifiAttributeNumFeatureSet →
          4 ≤ Netlink.payloadLen mem attr) ∧
        (Netlink.attrType mem attr = wifiAttributeFeatureSet →
          (rowsTaken setSizeMax mem before : Int) <
              featureLimit setSizeMax (announced mem wifiAttributeNumFeatureSet before) →
            0 < setSizeMax ∧ 4 ≤ Netlink.payloadLen mem attr) := by
  rw [Safe, Traced.every_foldl]
  refine forall_congr' fun before => forall_congr' fun attr => forall_congr' fun after =>
    forall_congr' fun split => ?_
  have visited : attr ∈ Netlink.attrs mem 0 len := by simp [split]
  obtain ⟨limit, rows, -⟩ := takeFeatureAttr_counts setSizeMax mem len matrix before
  refine (takeFeatureAttr_safe visited).trans ?_
  rw [limit, rows]
  refine and_congr_right fun _ => forall_congr' fun _ => forall_congr' fun room => ?_
  refine and_congr_left fun _ => ?_
  constructor
  · intro inside
    omega
  · intro bounded
    have most := featureLimit_le (announced mem wifiAttributeNumFeatureSet before)
      (Nat.pos_iff_ne_zero.mp bounded)
    omega

theorem featureReported_within_iff {inEffect : Int} {reported : Option Int} {count : Nat}
    (clamped : inEffect = featureLimit setSizeMax count ∧
      (reported = none ∧ count = 0 ∨ reported = some inEffect)) (fits : count < 2 ^ 32) :
    (∀ value, reported = some value → 0 ≤ value ∧ value ≤ setSizeMax) ↔
      count < 2 ^ 31 ∧ (setSizeMax = 0 → count = 0) := by
  by_cases bounded : setSizeMax = 0
  · obtain ⟨rfl, ⟨rfl, rfl⟩ | rfl⟩ := clamped
    · simp
    · rw [featureLimit, if_neg (by simpa using bounded), bounded]
      rcases Nat.lt_or_ge count (2 ^ 31) with small | large
      · rw [signedWord_of_small (by omega)]
        simp
        omega
      · have negative : signedWord 4 count < 0 := (signedWord_neg_iff (by omega)).mpr (by omega)
        simp
        omega
  · rw [featureLimit, if_pos bounded] at clamped
    rw [reported_within_iff clamped fits]
    tauto

theorem featureMatrix_bounded_iff (supplied : Bool) (setSizeMax : Nat) (matrix : List Nat)
    (reply : VendorMessage) :
    FeatureMatrixBounded supplied setSizeMax matrix reply ↔
      FeatureMatrixFits supplied setSizeMax reply := by
  by_cases holds : supplied = true ∧ ∃ mem len, reply.Holds mem len
  · obtain ⟨rfl, mem, len, holds⟩ := holds
    have fits_iff : FeatureMatrixFits true setSizeMax reply ↔
        FeatureAttrsFit setSizeMax mem (Netlink.attrs mem 0 len) := by
      constructor
      · intro fits
        exact fits rfl mem len holds
      · intro fits _ mem' len' there
        obtain ⟨rfl, rfl⟩ := holds.unique there
        exact fits
    obtain ⟨safe, value⟩ := decodeReply_of_holds (FeatureMatrixState.initial matrix)
      (takeFeatureAttr setSizeMax) holds
    obtain ⟨limit, -, reported⟩ := takeFeatureAttr_counts setSizeMax mem len matrix
      (Netlink.attrs mem 0 len)
    have fits := announced_lt mem wifiAttributeNumFeatureSet (Netlink.attrs mem 0 len)
    rw [fits_iff, FeatureMatrixBounded, GetFeatureSetCommand.handleResponse, safe, value,
      featureAttrs_safe_iff, FeatureAttrsFit]
    refine and_congr_right fun _ => ?_
    exact featureReported_within_iff ⟨limit, reported⟩ fits
  · have refused : supplied = false ∨ ∀ mem len, ¬ reply.Holds mem len := by
      cases supplied with
      | false => exact .inl rfl
      | true => exact .inr (by simpa using holds)
    obtain ⟨safe, value⟩ := decodeReply_of_not_holds (FeatureMatrixState.initial matrix)
      (takeFeatureAttr setSizeMax) refused
    constructor
    · intro _ given mem len here
      exact absurd ⟨given, mem, len, here⟩ holds
    · intro _
      refine ⟨safe, fun count made => ?_⟩
      rw [GetFeatureSetCommand.handleResponse, value] at made
      cases made

end FeatureMatrix

/-! ## Both decoders -/

/-- Both decoders stay within the capacity and the attributes exactly when the counts
of the reply are signed numbers with four bytes each, the lists are as long as counted,
and nothing is counted for a matrix of no rows. -/
theorem countedReplies_bounded_iff (channelSize maxChannels : Nat) (channels : List UInt8)
    (supplied : Bool) (setSizeMax : Nat) (matrix : List Nat) (reply : VendorMessage) :
    (ChannelListBounded channelSize maxChannels channels reply ↔
      ChannelListFits channelSize maxChannels reply) ∧
    (FeatureMatrixBounded supplied setSizeMax matrix reply ↔
      FeatureMatrixFits supplied setSizeMax reply) :=
  ⟨channelList_bounded_iff channelSize maxChannels channels reply,
    featureMatrix_bounded_iff supplied setSizeMax matrix reply⟩

/-- One attribute: a count with its highest bit set. -/
def hugeCount (numType : UInt8) : VendorMessage :=
  { cmd := nl80211CmdVendor
    subcmd := 0
    vendorData := some ⟨Octets.ofList [8, 0, numType, 0, 0, 0, 0, 128], 8⟩ }

theorem countedReplies_not_bounded :
    ¬ ChannelListBounded 4 8 [] (hugeCount 2) ∧ ¬ FeatureMatrixBounded true 8 [] (hugeCount 4) := by
  constructor
  · rintro ⟨-, within⟩
    have natural := (within (-2147483648) (by decide)).1
    omega
  · rintro ⟨-, within⟩
    have natural := (within (-2147483648) (by decide)).1
    omega

end Mt6757.WifiHal
