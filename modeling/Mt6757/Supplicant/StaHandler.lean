import Mt6757.Lib.KeyedList
import Mt6757.Lib.Netlink
import Mt6757.Supplicant.StaStatistics

/-!
# What the driver reports on a station

`testmode_sta_statistics_handler` takes the attributes of the driver's answer over into
the record.
-/

set_option autoImplicit false

namespace Mt6757.Supplicant

/-- `enum nl80211_testmode_sta_link_statistics_attr`, from 1 on. -/
inductive StaAttr where
  | version
  | mac
  | linkScore
  | flag
  | per
  | rssi
  | phyMode
  | txRate
  | totalCnt
  | thresholdCnt
  | avgProcessTime
  | maxProcessTime
  | avgHifProcessTime
  | maxHifProcessTime
  | failCnt
  | timeoutCnt
  | avgAirTime
  | tcEmptyCntArray
  | tcQueLenArray
  | tcAvgQueLenArray
  | tcCurQueLenArray
  | enqueue
  | staEnqueue
  | dequeue
  | staDequeue
  | rbArray
  | noTcArray
  | tcUsedArray
  | tcWantedArray
  | irqIsrCnt
  | irqIsrPassCnt
  | irqTaskCnt
  | irqAbCnt
  | irqSwCnt
  | irqTxCnt
  | irqRxCnt
  | reservedArray
  deriving DecidableEq, Repr

namespace StaAttr

def number (attr : StaAttr) : Nat := attr.ctorIdx + 1

def all : List StaAttr :=
  [version, mac, linkScore, flag, per, rssi, phyMode, txRate, totalCnt, thresholdCnt,
    avgProcessTime, maxProcessTime, avgHifProcessTime, maxHifProcessTime, failCnt, timeoutCnt,
    avgAirTime, tcEmptyCntArray, tcQueLenArray, tcAvgQueLenArray, tcCurQueLenArray, enqueue,
    staEnqueue, dequeue, staDequeue, rbArray, noTcArray, tcUsedArray, tcWantedArray, irqIsrCnt,
    irqIsrPassCnt, irqTaskCnt, irqAbCnt, irqSwCnt, irqTxCnt, irqRxCnt, reservedArray]

example : all.map number = (List.range 37).map (· + 1) := by decide

theorem mem_all (attr : StaAttr) : attr ∈ all := by
  cases attr <;> decide

theorem nodup_all : all.Nodup := by decide

/-- How many bytes an attribute of its policy's type has at least. -/
def minlen : StaAttr → Nat
  | version | per | rssi => 1
  | txRate => 2
  | mac | tcEmptyCntArray | tcQueLenArray | tcAvgQueLenArray | tcCurQueLenArray | rbArray
  | noTcArray | tcUsedArray | tcWantedArray | reservedArray => 0
  | linkScore | flag | phyMode | failCnt | timeoutCnt | avgAirTime | totalCnt | thresholdCnt
  | avgProcessTime | maxProcessTime | avgHifProcessTime | maxHifProcessTime | enqueue
  | staEnqueue | dequeue | staDequeue | irqIsrCnt | irqIsrPassCnt | irqTaskCnt | irqAbCnt
  | irqSwCnt | irqTxCnt | irqRxCnt => 4

def policy (type : Nat) : Nat := ((all.find? fun attr => attr.number = type).map minlen).getD 0

def max : Nat := 37

end StaAttr

def StaStatistics.zero : StaStatistics where
  version := 0
  addr := .replicate 6 0
  flag := 0
  linkScore := 0
  per := 0
  rssi := 0
  phyMode := 0
  txRate := .zero
  txTotalCnt := 0
  enqueueTotalCnt := 0
  dequeueTotalCnt := 0
  enqueueStaTotalCnt := 0
  dequeueStaTotalCnt := 0
  txExcThresholdCnt := 0
  txAvgProcessTime := 0
  txMaxProcessTime := 0
  txAvgHifProcessTime := 0
  txMaxHifProcessTime := 0
  txFailCnt := 0
  txTimeoutCnt := 0
  txAvgAirTime := 0
  tcBufFullCnt := .replicate 4 0
  tcQueLen := .replicate 4 0
  tcBackCount := .replicate 4 0
  dequeueNoTcRes := .replicate 4 0
  tcWantedRes := .replicate 4 0
  tcUsedRes := .replicate 4 0
  isrCnt := 0
  isrPassCnt := 0
  isrTaskCnt := 0
  isrAbCnt := 0
  isrSwCnt := 0
  isrTxCnt := 0
  isrRxCnt := 0
  tcAvgQueLen := .replicate 4 0
  tcCurQueLen := .replicate 4 0
  reserved := .replicate 32 0

/-! ## Copies into arrays -/

section Copy
variable (msg : Octets) (nla : Nat)

def copyOctets {n : Nat} (dest : Vector UInt8 n) : Vector UInt8 n :=
  .ofFn fun i => (Netlink.memcpy msg nla dest.toList).getD i 0

def octetsOf (words : List UInt32) : List UInt8 := words.flatMap fun word => leBytes 4 word.toNat

def wordAt (octets : List UInt8) (i : Nat) : UInt32 :=
  UInt32.ofNat (leValue (slice octets (4 * i) 4))

def overlay (words : List UInt32) : List UInt32 :=
  (List.range words.length).map (wordAt (Netlink.memcpy msg nla (octetsOf words)))

def copyWords (dest : TcCounts) : TcCounts :=
  .ofFn fun i => wordAt (Netlink.memcpy msg nla (octetsOf dest.toList)) i

end Copy

/-! ## The handler -/

def storeAttr (msg : Octets) (nla : Nat) (attr : StaAttr) (stats : StaStatistics) :
    StaStatistics :=
  match attr with
  | .version => { stats with version := Netlink.getU8 msg nla }
  | .mac => { stats with addr := copyOctets msg nla stats.addr }
  | .linkScore => { stats with linkScore := Netlink.getU32 msg nla }
  | .flag => { stats with flag := Netlink.getU32 msg nla }
  | .per => { stats with per := Netlink.getU8 msg nla }
  | .rssi =>
      { stats with rssi := Int32.ofInt ((((Netlink.getU8 msg nla).toNat : Int) - 220).tdiv 2) }
  | .phyMode => { stats with phyMode := Netlink.getU32 msg nla }
  | .txRate => { stats with txRate := .half (Netlink.getU16 msg nla) }
  | .failCnt => { stats with txFailCnt := Netlink.getU32 msg nla }
  | .timeoutCnt => { stats with txTimeoutCnt := Netlink.getU32 msg nla }
  | .avgAirTime => { stats with txAvgAirTime := Netlink.getU32 msg nla }
  | .totalCnt => { stats with txTotalCnt := Netlink.getU32 msg nla }
  | .thresholdCnt => { stats with txExcThresholdCnt := Netlink.getU32 msg nla }
  | .avgProcessTime => { stats with txAvgProcessTime := Netlink.getU32 msg nla }
  | .maxProcessTime => { stats with txMaxProcessTime := Netlink.getU32 msg nla }
  | .avgHifProcessTime => { stats with txAvgHifProcessTime := Netlink.getU32 msg nla }
  | .maxHifProcessTime => { stats with txMaxHifProcessTime := Netlink.getU32 msg nla }
  | .tcEmptyCntArray => { stats with tcBufFullCnt := copyWords msg nla stats.tcBufFullCnt }
  | .tcQueLenArray => { stats with tcQueLen := copyWords msg nla stats.tcQueLen }
  | .tcAvgQueLenArray => { stats with tcAvgQueLen := copyWords msg nla stats.tcAvgQueLen }
  | .tcCurQueLenArray => { stats with tcCurQueLen := copyWords msg nla stats.tcCurQueLen }
  | .enqueue => { stats with enqueueTotalCnt := Netlink.getU32 msg nla }
  | .dequeue => { stats with dequeueTotalCnt := Netlink.getU32 msg nla }
  | .staEnqueue => { stats with enqueueStaTotalCnt := Netlink.getU32 msg nla }
  | .staDequeue => { stats with dequeueStaTotalCnt := Netlink.getU32 msg nla }
  | .irqIsrCnt => { stats with isrCnt := Netlink.getU32 msg nla }
  | .irqIsrPassCnt => { stats with isrPassCnt := Netlink.getU32 msg nla }
  | .irqTaskCnt => { stats with isrTaskCnt := Netlink.getU32 msg nla }
  | .irqAbCnt => { stats with isrAbCnt := Netlink.getU32 msg nla }
  | .irqSwCnt => { stats with isrSwCnt := Netlink.getU32 msg nla }
  | .irqTxCnt => { stats with isrTxCnt := Netlink.getU32 msg nla }
  | .irqRxCnt => { stats with isrRxCnt := Netlink.getU32 msg nla }
  | .noTcArray => { stats with dequeueNoTcRes := copyWords msg nla stats.dequeueNoTcRes }
  | .tcUsedArray => { stats with tcUsedRes := copyWords msg nla stats.tcUsedRes }
  | .tcWantedArray => { stats with tcWantedRes := copyWords msg nla stats.tcWantedRes }
  | .rbArray => { stats with tcBackCount := copyWords msg nla stats.tcBackCount }
  | .reservedArray => { stats with reserved := copyOctets msg nla stats.reserved }

def genlHeaders : Nat := 16 + 4

def attrTestdata : Nat := 69

/-- `sinfo`, unless the handler leaves before its loop. -/
def staInfo (msg : Octets) : Option (Nat → Option Nat) := do
  let attrlen : Int := msg.word 0 4 - genlHeaders
  let testdata ← Netlink.table msg genlHeaders attrlen attrTestdata
  Netlink.parse msg (Netlink.data testdata) (Netlink.payloadLen msg testdata) StaAttr.max
    StaAttr.policy

theorem policy_le {msg : Octets} {sinfo : Nat → Option Nat} {attr : StaAttr} {nla : Nat}
    (info : staInfo msg = some sinfo) (found : sinfo attr.number = some nla) :
    (StaAttr.policy attr.number : Int) ≤ Netlink.payloadLen msg nla := by
  obtain ⟨testdata, -, parsed⟩ := Option.bind_eq_some_iff.mp info
  have known : attr.number ≤ StaAttr.max := by
    cases attr <;> decide
  exact Netlink.minlen_of_parse msg _ parsed known found

def handleAttr (msg : Octets) (sinfo : Nat → Option Nat) (stats : StaStatistics)
    (attr : StaAttr) : StaStatistics :=
  match sinfo attr.number with
  | none => stats
  | some nla => storeAttr msg nla attr stats

/-- `testmode_sta_statistics_handler`, whose result is always `NL_SKIP`. -/
def testmodeStaStatisticsHandler (msg : Octets) (stats : StaStatistics) : StaStatistics :=
  match staInfo msg with
  | none => stats
  | some sinfo => StaAttr.all.foldl (handleAttr msg sinfo) stats

/-! ## Any netlink library -/

section Library
variable (reader : Netlink.Reader) {attrMax : Nat} {maxtype : Nat} {minlen : Nat → Nat}

/-- The table of the test data as the functions of a library give it; `attrMax` is
`NL80211_ATTR_MAX`. -/
def testdataTable (attrMax maxtype : Nat) (minlen : Nat → Nat) (msg : Octets) :
    Option (Nat → Option Nat) := do
  let attrlen : Int := msg.word 0 4 - genlHeaders
  let tb ← reader.parse msg genlHeaders attrlen attrMax fun _ => 0
  let testdata ← tb attrTestdata
  reader.parse msg (reader.data testdata) (reader.len msg testdata) maxtype minlen

/-- Without a policy nothing is refused, so what is left is the parse of the test data. -/
theorem testdataTable_eq (known : attrTestdata ≤ attrMax) (msg : Octets) :
    testdataTable reader attrMax maxtype minlen msg =
      (Netlink.table msg genlHeaders (msg.word 0 4 - genlHeaders) attrTestdata).bind
        fun testdata => reader.parse msg (Netlink.data testdata)
          (Netlink.payloadLen msg testdata) maxtype minlen := by
  rw [testdataTable]
  cases parsed : reader.parse msg genlHeaders (msg.word 0 4 - genlHeaders) attrMax fun _ => 0 with
  | none =>
      obtain ⟨attr, visited, -, short⟩ := (reader.parse_none _ _ _ _ _).mp parsed
      have whole := Netlink.payloadLen_nonneg visited
      exact absurd short (by omega)
  | some tb =>
      have last := reader.parse_last _ _ _ _ _ _ parsed attrTestdata known
      simp only [Option.bind_eq_bind, Option.bind_some, last, reader.data_eq, reader.len_eq]

/-- With any library the table is refused or not, and below `maxtype` it is the same. -/
theorem testdataTable_agrees (known : attrTestdata ≤ attrMax) (msg : Octets) :
    let plain := (Netlink.table msg genlHeaders (msg.word 0 4 - genlHeaders) attrTestdata).bind
      fun testdata => Netlink.parse msg (Netlink.data testdata) (Netlink.payloadLen msg testdata)
        maxtype minlen
    (testdataTable reader attrMax maxtype minlen msg = none ∧ plain = none) ∨
      ∃ tb, testdataTable reader attrMax maxtype minlen msg = some tb ∧
        ∃ tb', plain = some tb' ∧ ∀ type ≤ maxtype, tb type = tb' type := by
  intro plain
  rw [testdataTable_eq reader known]
  cases found : Netlink.table msg genlHeaders (msg.word 0 4 - genlHeaders) attrTestdata with
  | none => exact .inl ⟨rfl, by simp only [plain, found, Option.bind_none]⟩
  | some testdata =>
      simp only [plain, found, Option.bind_some]
      exact reader.parse_eq msg _ _ maxtype minlen

/-- The handler stores the same with any library. -/
theorem testmodeStaStatisticsHandler_reader (known : attrTestdata ≤ attrMax) (msg : Octets)
    (stats : StaStatistics) :
    testmodeStaStatisticsHandler msg stats =
      match testdataTable reader attrMax StaAttr.max StaAttr.policy msg with
      | none => stats
      | some sinfo => StaAttr.all.foldl (handleAttr msg sinfo) stats := by
  rw [testmodeStaStatisticsHandler]
  rcases testdataTable_agrees reader known msg with ⟨refused, plain⟩ | ⟨tb, found, tb', plain, same⟩
  · rw [refused, show staInfo msg = none from plain]
  · rw [found, show staInfo msg = some tb' from plain]
    refine (StaAttr.all.foldl_ext _ _ _ fun stats attr _ => ?_).symm
    have known : attr.number ≤ StaAttr.max := by cases attr <;> decide
    rw [handleAttr, handleAttr, same _ known]

end Library

end Mt6757.Supplicant
