import Mt6757.Supplicant.StaHandler

/-!
# The counters of a report

The counters go from attributes into the record and from there, under other names, into the
report.  A count that is too large for an `int` is printed as a negative number.
-/

set_option autoImplicit false

namespace Mt6757.Supplicant

open CString (ascii)
open KeyValue (Entry OneLine)
open Printer

/-- The lines of the report that have counters on them. -/
inductive StaCounter where
  | linkScore
  | totalCnt
  | thresholdCnt
  | failCnt
  | timeoutCnt
  | apt
  | aat
  | tcBufFullCnt
  | tcStaQueLen
  | tcAvgQueLen
  | tcCurQueLen
  deriving DecidableEq, Repr

namespace StaCounter

def key : StaCounter → CString
  | linkScore => ascii "link_score"
  | totalCnt => ascii "total_cnt"
  | thresholdCnt => ascii "threshold_cnt"
  | failCnt => ascii "fail_cnt"
  | timeoutCnt => ascii "timeout_cnt"
  | apt => ascii "apt"
  | aat => ascii "aat"
  | tcBufFullCnt => ascii "TC_buf_full_cnt"
  | tcStaQueLen => ascii "TC_sta_que_len"
  | tcAvgQueLen => ascii "TC_avg_que_len"
  | tcCurQueLen => ascii "TC_cur_que_len"

/-- The attribute in which the driver reports the counters. -/
def attr : StaCounter → StaAttr
  | linkScore => .linkScore
  | totalCnt => .totalCnt
  | thresholdCnt => .thresholdCnt
  | failCnt => .failCnt
  | timeoutCnt => .timeoutCnt
  | apt => .avgProcessTime
  | aat => .avgAirTime
  | tcBufFullCnt => .tcEmptyCntArray
  | tcStaQueLen => .tcQueLenArray
  | tcAvgQueLen => .tcAvgQueLenArray
  | tcCurQueLen => .tcCurQueLenArray

def counts (stats : StaStatistics) : StaCounter → List UInt32
  | linkScore => [stats.linkScore]
  | totalCnt => [stats.txTotalCnt]
  | thresholdCnt => [stats.txExcThresholdCnt]
  | failCnt => [stats.txFailCnt]
  | timeoutCnt => [stats.txTimeoutCnt]
  | apt => [stats.txAvgProcessTime]
  | aat => [stats.txAvgAirTime]
  | tcBufFullCnt => stats.tcBufFullCnt.toList
  | tcStaQueLen => stats.tcQueLen.toList
  | tcAvgQueLen => stats.tcAvgQueLen.toList
  | tcCurQueLen => stats.tcCurQueLen.toList

/-- The counters that the driver's answer gives: what its attribute brings, over what the
record had before. -/
def sent (msg : Octets) (initial : StaStatistics) (counter : StaCounter) : List UInt32 :=
  match (staInfo msg).bind fun sinfo => sinfo counter.attr.number with
  | none => counter.counts initial
  | some nla => overlay msg nla (counter.counts initial)

end StaCounter

/-! ## From the attributes into the record -/

section Handler
variable {msg : Octets} {nla : Nat} {stats : StaStatistics} {counter : StaCounter} {attr : StaAttr}

theorem length_octetsOf (words : List UInt32) : (octetsOf words).length = 4 * words.length := by
  induction words with
  | nil => rfl
  | cons word words ih =>
      rw [octetsOf, List.flatMap_cons, List.length_append, leBytes_length, List.length_cons]
      rw [octetsOf] at ih
      omega

theorem toList_copyWords (dest : TcCounts) :
    (copyWords msg nla dest).toList = overlay msg nla dest.toList := by
  apply List.ext_getElem
  · rw [Vector.length_toList, overlay, List.length_map, List.length_range, Vector.length_toList]
  · intro i here there
    simp only [overlay, copyWords, Vector.getElem_toList, Vector.getElem_ofFn, List.getElem_map,
      List.getElem_range]

theorem getU32_eq (whole : 4 ≤ Netlink.payloadLen msg nla) (count : UInt32) :
    [Netlink.getU32 msg nla] = overlay msg nla [count] := by
  have length : (octetsOf [count]).length = 4 := length_octetsOf [count]
  have copied : Netlink.memcpy msg nla (octetsOf [count]) = msg.fetch (Netlink.data nla) 4 := by
    rw [Netlink.memcpy_of_le msg nla (by rw [length]; exact whole), length]
  have word : slice (msg.fetch (Netlink.data nla) 4) (4 * 0) 4 =
      msg.fetch (Netlink.data nla + 4 * 0) 4 := Octets.slice_fetch msg (by decide)
  rw [overlay, copied, List.length_singleton, List.range_one, List.map_singleton, wordAt, word,
    Netlink.getU32, Octets.word, Nat.mul_zero, Nat.add_zero]

theorem counts_storeAttr_of_ne (other : attr ≠ counter.attr) :
    counter.counts (storeAttr msg nla attr stats) = counter.counts stats := by
  cases counter <;> cases attr <;>
    first
    | exact absurd rfl other
    | simp only [storeAttr, StaCounter.counts]

theorem counts_storeAttr
    (whole : (StaAttr.policy counter.attr.number : Int) ≤ Netlink.payloadLen msg nla) :
    counter.counts (storeAttr msg nla counter.attr stats) =
      overlay msg nla (counter.counts stats) := by
  cases counter with
  | tcBufFullCnt | tcStaQueLen | tcAvgQueLen | tcCurQueLen => exact toList_copyWords _
  | _ => exact getU32_eq whole _

theorem counts_handler (msg : Octets) (initial : StaStatistics) (counter : StaCounter) :
    counter.counts (testmodeStaStatisticsHandler msg initial) = counter.sent msg initial := by
  rw [testmodeStaStatisticsHandler, StaCounter.sent]
  cases info : staInfo msg with
  | none => rfl
  | some sinfo =>
      have frame : ∀ stats attr, attr ≠ counter.attr →
          counter.counts (handleAttr msg sinfo stats attr) = counter.counts stats := by
        intro stats attr other
        rw [handleAttr]
        split
        · rfl
        · exact counts_storeAttr_of_ne other
      rw [Option.bind_some]
      cases found : sinfo counter.attr.number with
      | none =>
          have decides : ∀ stats, counter.counts (handleAttr msg sinfo stats counter.attr) =
              id (counter.counts stats) := by
            intro stats
            rw [handleAttr, found]
            rfl
          exact @KeyedList.view_foldl _ _ _ (fun stats => counter.counts stats) _ _ _ _ frame
            decides (StaAttr.mem_all _) StaAttr.nodup_all initial
      | some nla =>
          have whole := policy_le info found
          have decides : ∀ stats, counter.counts (handleAttr msg sinfo stats counter.attr) =
              overlay msg nla (counter.counts stats) := by
            intro stats
            rw [handleAttr, found]
            exact counts_storeAttr whole
          exact @KeyedList.view_foldl _ _ _ (fun stats => counter.counts stats) _ _ _ _ frame
            decides (StaAttr.mem_all _) StaAttr.nodup_all initial

end Handler

/-! ## From the record into the report -/

/-- The numbers on the line with a key, as a reader finds them. -/
def readNumbers (text key : CString) : Option (List Int) :=
  (KeyValue.lookup text key).map fun value =>
    (value.splitOn 58).map fun number => (CString.strtol 64 number 10).1

section Report
variable (stats : StaStatistics) (counter : StaCounter)

theorem colon_not_mem_signed (count : UInt32) : 58 ∉ signed count := by
  have digit : ¬ CString.isDigit 10 58 = true := by decide
  intro here
  rw [signed, CString.printInt] at here
  split at here
  · rcases List.mem_cons.mp here with minus | inDigits
    · exact absurd minus (by decide)
    · exact digit (CString.isDigit_of_mem_decimal inDigits)
  · exact digit (CString.isDigit_of_mem_decimal here)

/-- What is printed of a count is read as the `int` that it is for `printf`. -/
theorem strtol_signed (count : UInt32) :
    (CString.strtol 64 (signed count) 10).1 = count.toInt32.toInt := by
  have read : (CString.strtol 64 (signed count ++ []) 10).1 =
      CString.clampLong 64 count.toInt32.toInt := CString.strtol_printInt rfl
  have lower := count.toInt32.le_toInt
  have upper := count.toInt32.toInt_lt
  rw [List.append_nil] at read
  rw [read, CString.clampLong]
  omega

theorem counter_entry : ⟨counter.key, [58].intercalate ((counter.counts stats).map signed)⟩ ∈
    reportEntries stats := by
  cases counter <;> simp [reportEntries, StaCounter.key, StaCounter.counts, fourSigned]

theorem counts_ne_nil : counter.counts stats ≠ [] := by
  have array : ∀ counts : TcCounts, counts.toList ≠ [] := by
    intro counts nothing
    have length := counts.length_toList
    rw [nothing] at length
    cases length
  cases counter with
  | tcBufFullCnt | tcStaQueLen | tcAvgQueLen | tcCurQueLen => exact array _
  | _ => exact List.cons_ne_nil _ _

theorem readNumbers_report : readNumbers (report stats) counter.key =
    some ((counter.counts stats).map fun count => count.toInt32.toInt) := by
  have plain : ∀ entry ∈ reportEntries stats, entry.Plain := fun entry here =>
    .of_oneLine (oneLine_key stats entry here).1 (oneLine_key stats entry here).2
      (oneLine_value stats entry here)
  have distinct : ((reportEntries stats).map Entry.key).Nodup := by
    rw [map_key_reportEntries]
    decide
  have found := KeyValue.lookup_of_mem plain distinct (counter_entry stats counter)
    (ascii "====\n")
  have separate : ∀ text ∈ (counter.counts stats).map signed, 58 ∉ text := by
    intro text here
    obtain ⟨count, -, rfl⟩ := List.mem_map.mp here
    exact colon_not_mem_signed count
  have nonempty : (counter.counts stats).map signed ≠ [] := by
    rw [Ne, List.map_eq_nil_iff]
    exact counts_ne_nil stats counter
  rw [readNumbers, report, found, Option.map_some, List.splitOn_intercalate 58 separate nonempty,
    List.map_map]
  congr 2
  funext count
  exact strtol_signed count

end Report

/-! ## The whole way -/

/-- The text that a buffer holds after the report was printed into it. -/
def replyText {mem : Memory} (reply : Buffer mem) (stats : StaStatistics) : CString :=
  (printStaStatistics stats reply.start reply.size mem).2.mem.string reply.start

/-- The counters that the driver sent can be read from a text; no record with other counters
has this text, and no counter is negative in it. -/
structure CountersReported (msg : Octets) (initial : StaStatistics) (text : CString) : Prop where
  read : ∀ counter : StaCounter, readNumbers text counter.key =
    some ((counter.sent msg initial).map fun count => (count.toNat : Int))
  distinct : ∀ (stats' : StaStatistics) (mem' : Memory) (reply' : Buffer mem'),
    (report stats').length < reply'.size →
      (∃ counter : StaCounter, counter.counts stats' ≠ counter.sent msg initial) →
        replyText reply' stats' ≠ text
  nonneg : ∀ (counter : StaCounter) numbers, readNumbers text counter.key = some numbers →
    ∀ number ∈ numbers, 0 ≤ number

/-- Every counter that the driver sent fits into an `int`. -/
def CountersFit (msg : Octets) (initial : StaStatistics) : Prop :=
  ∀ counter : StaCounter, ∀ count ∈ counter.sent msg initial, count.toNat < 2 ^ 31

section Reported
variable {msg : Octets} {stats stats' : StaStatistics} {mem : Memory} {reply : Buffer mem}

theorem replyText_eq (sufficient : (report stats).length < reply.size) :
    replyText reply stats = report stats := by
  obtain ⟨outcome, ended, ran, printed⟩ := printStaStatistics_spec reply stats
  have size : room (reply.start.add reply.size) ⟨mem, reply.start, []⟩ = reply.size :=
    Nat.add_sub_cancel_left _ _
  have left := printed.mem
  rw [size] at left
  have bytes := Memory.bytes_snprintf reply.inside sufficient
  rw [← left] at bytes
  rw [replyText, ran]
  exact Memory.string_of_bytes (zero_not_mem_report stats) bytes

theorem toInt_toInt32 (count : UInt32) : count.toInt32.toInt =
    if count.toNat < 2 ^ 31 then (count.toNat : Int) else count.toNat - 2 ^ 32 := by
  have bits : count.toInt32.toInt = count.toBitVec.toInt := rfl
  have value : count.toBitVec.toNat = count.toNat := rfl
  rw [bits, BitVec.toInt_eq_toNat_cond, value]
  split
  · rw [if_pos (by omega)]
  · rw [if_neg (by omega)]
    rfl

theorem toInt_nonneg_iff (count : UInt32) : 0 ≤ count.toInt32.toInt ↔ count.toNat < 2 ^ 31 := by
  have bound := count.toNat_lt
  rw [toInt_toInt32]
  split <;> omega

theorem counts_eq_of_report (same : report stats' = report stats) (counter : StaCounter) :
    counter.counts stats' = counter.counts stats := by
  have read := readNumbers_report stats counter
  rw [← same, readNumbers_report stats' counter] at read
  have injective : Function.Injective fun count : UInt32 => count.toInt32.toInt := by
    intro count count' equal
    have bits : count.toInt32 = count'.toInt32 := Int32.toInt_inj.mp equal
    exact congrArg Int32.toUInt32 bits
  exact injective.list_map (Option.some.inj read)

theorem readNumbers_handler (msg : Octets) (initial : StaStatistics) (counter : StaCounter) :
    readNumbers (report (testmodeStaStatisticsHandler msg initial)) counter.key =
      some ((counter.sent msg initial).map fun count => count.toInt32.toInt) := by
  rw [readNumbers_report, counts_handler]

theorem countersFit_of_reported {initial : StaStatistics}
    (reported : CountersReported msg initial (report (testmodeStaStatisticsHandler msg initial))) :
    CountersFit msg initial := by
  intro counter count here
  have nonneg := reported.nonneg counter _ (readNumbers_handler msg initial counter) _
    (List.mem_map_of_mem here)
  exact (toInt_nonneg_iff count).mp nonneg

theorem readNumbers_of_fit {initial : StaStatistics} (fit : CountersFit msg initial)
    (counter : StaCounter) :
    readNumbers (report (testmodeStaStatisticsHandler msg initial)) counter.key =
      some ((counter.sent msg initial).map fun count => (count.toNat : Int)) := by
  rw [readNumbers_handler]
  congr 1
  refine List.map_congr_left fun count here => ?_
  rw [toInt_toInt32, if_pos (fit counter count here)]

/-- The driver's counters come out of the report as they went in, exactly if each fits into
an `int`. -/
theorem counters_reported_iff (msg : Octets) (initial : StaStatistics) (reply : Buffer mem)
    (sufficient : (report (testmodeStaStatisticsHandler msg initial)).length < reply.size) :
    CountersReported msg initial (replyText reply (testmodeStaStatisticsHandler msg initial)) ↔
      CountersFit msg initial := by
  rw [replyText_eq sufficient]
  refine ⟨countersFit_of_reported, fun fit => ?_⟩
  constructor
  · exact readNumbers_of_fit fit
  · intro stats' mem' reply' sufficient' differ same
    obtain ⟨counter, differ⟩ := differ
    rw [replyText_eq sufficient'] at same
    rw [← counts_handler] at differ
    exact differ (counts_eq_of_report same counter)
  · intro counter numbers read number here
    rw [readNumbers_of_fit fit] at read
    obtain rfl := Option.some.inj read
    obtain ⟨count, -, rfl⟩ := List.mem_map.mp here
    exact Int.natCast_nonneg _

end Reported

def linkScoreAnswer (score : UInt32) : Octets :=
  .ofList ([32, 0, 0, 0] ++ List.replicate 16 0 ++ [12, 0, 69, 0] ++ [8, 0, 3, 0] ++
    leBytes 4 score.toNat)

def wideReply : Buffer fun _ => List.replicate 6400 0 where
  start := ⟨0, 0⟩
  size := 6400
  inside := by rw [List.length_replicate]

theorem counters_reported_five :
    CountersReported (linkScoreAnswer 5) .zero
      (replyText wideReply (testmodeStaStatisticsHandler (linkScoreAnswer 5) .zero)) := by
  have small : ∀ counter : StaCounter, ((counter.sent (linkScoreAnswer 5) .zero).all
      fun count => count.toNat < 2 ^ 31) = true := by
    intro counter
    cases counter <;> decide +kernel
  refine (counters_reported_iff _ _ wideReply (length_report_lt _)).mpr fun counter count here => ?_
  exact of_decide_eq_true (List.all_eq_true.mp (small counter) count here)

/-- A link score that does not fit into an `int` is reported as a negative number. -/
theorem counters_not_reported :
    ¬ ∀ (msg : Octets) (initial : StaStatistics) (mem : Memory) (reply : Buffer mem),
      (report (testmodeStaStatisticsHandler msg initial)).length < reply.size →
        CountersReported msg initial
          (replyText reply (testmodeStaStatisticsHandler msg initial)) := by
  intro all
  have sufficient := length_report_lt (testmodeStaStatisticsHandler (linkScoreAnswer 0x80000000) .zero)
  have reported := all _ _ _ wideReply sufficient
  rw [replyText_eq sufficient] at reported
  have sent : StaCounter.linkScore.sent (linkScoreAnswer 0x80000000) .zero = [0x80000000] := by
    decide +kernel
  exact absurd (countersFit_of_reported reported .linkScore 0x80000000
    (sent ▸ List.mem_cons_self)) (by decide)

end Mt6757.Supplicant
