import Mt6757.Lib.Double
import Mt6757.Lib.KeyValue
import Mt6757.Lib.Printer
import Mt6757.Supplicant.Driver

/-!
# The report on a station

What the driver tells about a station, and `print_sta_statistics`, which makes lines of
keys and values of it.
-/

set_option autoImplicit false

namespace Mt6757.Supplicant

open CString (ascii)
open KeyValue (Entry OneLine)
open Printer

abbrev TcCounts := Vector UInt32 4

/-- `struct wpa_driver_sta_statistics_s`. -/
structure StaStatistics where
  version : UInt8
  addr : Vector UInt8 6
  flag : UInt32
  linkScore : UInt32
  per : UInt8
  rssi : Int32
  phyMode : UInt32
  txRate : Double
  txTotalCnt : UInt32
  enqueueTotalCnt : UInt32
  dequeueTotalCnt : UInt32
  enqueueStaTotalCnt : UInt32
  dequeueStaTotalCnt : UInt32
  txExcThresholdCnt : UInt32
  txAvgProcessTime : UInt32
  txMaxProcessTime : UInt32
  txAvgHifProcessTime : UInt32
  txMaxHifProcessTime : UInt32
  txFailCnt : UInt32
  txTimeoutCnt : UInt32
  txAvgAirTime : UInt32
  tcBufFullCnt : TcCounts
  tcQueLen : TcCounts
  tcBackCount : TcCounts
  dequeueNoTcRes : TcCounts
  tcWantedRes : TcCounts
  tcUsedRes : TcCounts
  isrCnt : UInt32
  isrPassCnt : UInt32
  isrTaskCnt : UInt32
  isrAbCnt : UInt32
  isrSwCnt : UInt32
  isrTxCnt : UInt32
  isrRxCnt : UInt32
  tcAvgQueLen : TcCounts
  tcCurQueLen : TcCounts
  reserved : Vector UInt8 32

/-! ## Printing it -/

/-- `%d` of a `u32`, which `printf` takes for an `int`. -/
def signed (count : UInt32) : CString := CString.printInt count.toInt32.toInt

def fourSigned (counts : TcCounts) : CString := [58].intercalate (counts.toList.map signed)

/-- `0x%08X`. -/
def hexWord (word : UInt32) : CString := ascii "0x" ++ CString.upperHex 8 word.toNat

def lowIndices : List (Fin 32) := (List.finRange 32).take 16

def highIndices : List (Fin 32) := (List.finRange 32).drop 16

def printReserved (stop : CharPtr) (reserved : Vector UInt8 32) (indices : List (Fin 32)) :
    Printer Unit :=
  indices.forM fun i => do
    print stop (CString.upperHex 2 reserved[i].toNat)
    if (i.val + 1) % 4 = 0 then print stop (ascii " ") else pure ()

def keyLine (key : String) (value : CString) : CString := Entry.line ⟨ascii key, value⟩

/-- The body of `print_sta_statistics`, up to `return pos - buf`. -/
def staReport (stop : CharPtr) (stats : StaStatistics) : Printer Unit := do
  print stop (keyLine "sta_addr" (macStr stats.addr.toList))
  print stop (keyLine "link_score" (signed stats.linkScore))
  print stop (keyLine "per" (CString.printInt stats.per.toNat))
  print stop (keyLine "rssi" (CString.printInt stats.rssi.toInt))
  print stop (keyLine "phy" (hexWord stats.phyMode))
  print stop (keyLine "rate" stats.txRate.oneDecimal)
  print stop (keyLine "total_cnt" (signed stats.txTotalCnt))
  print stop (keyLine "threshold_cnt" (signed stats.txExcThresholdCnt))
  print stop (keyLine "fail_cnt" (signed stats.txFailCnt))
  print stop (keyLine "timeout_cnt" (signed stats.txTimeoutCnt))
  print stop (keyLine "apt" (signed stats.txAvgProcessTime))
  print stop (keyLine "aat" (signed stats.txAvgAirTime))
  print stop (keyLine "TC_buf_full_cnt" (fourSigned stats.tcBufFullCnt))
  print stop (keyLine "TC_sta_que_len" (fourSigned stats.tcQueLen))
  print stop (keyLine "TC_avg_que_len" (fourSigned stats.tcAvgQueLen))
  print stop (keyLine "TC_cur_que_len" (fourSigned stats.tcCurQueLen))
  print stop (keyLine "flag" (hexWord stats.flag))
  print stop (ascii "reserved0=")
  printReserved stop stats.reserved lowIndices
  print stop (ascii "\n")
  print stop (ascii "reserved1=")
  printReserved stop stats.reserved highIndices
  print stop (ascii "\n")
  print stop (ascii "====\n")

/-- `return 0`, or `return pos - buf`. -/
def returned (buf : CharPtr) : Option Unit × PrintState → Int32 × PrintState
  | (none, ended) => (0, ended)
  | (some (), ended) => (Int32.ofInt ((ended.pos.offset : Int) - buf.offset), ended)

/-- `print_sta_statistics`: its result, and what it did on the way. -/
def printStaStatistics (stats : StaStatistics) (buf : CharPtr) (buflen : Nat) (mem : Memory) :
    Int32 × PrintState :=
  returned buf (staReport (buf.add buflen) stats ⟨mem, buf, []⟩)

/-! ## The report -/

/-- Octets in groups of four, each with a blank behind it. -/
def reservedText (reserved : Vector UInt8 32) (indices : List (Fin 32)) : CString :=
  indices.flatMap fun i => CString.upperHex 2 reserved[i].toNat ++
    if (i.val + 1) % 4 = 0 then ascii " " else []

def reportEntries (stats : StaStatistics) : List Entry :=
  [⟨ascii "sta_addr", macStr stats.addr.toList⟩,
    ⟨ascii "link_score", signed stats.linkScore⟩,
    ⟨ascii "per", CString.printInt stats.per.toNat⟩,
    ⟨ascii "rssi", CString.printInt stats.rssi.toInt⟩,
    ⟨ascii "phy", hexWord stats.phyMode⟩,
    ⟨ascii "rate", stats.txRate.oneDecimal⟩,
    ⟨ascii "total_cnt", signed stats.txTotalCnt⟩,
    ⟨ascii "threshold_cnt", signed stats.txExcThresholdCnt⟩,
    ⟨ascii "fail_cnt", signed stats.txFailCnt⟩,
    ⟨ascii "timeout_cnt", signed stats.txTimeoutCnt⟩,
    ⟨ascii "apt", signed stats.txAvgProcessTime⟩,
    ⟨ascii "aat", signed stats.txAvgAirTime⟩,
    ⟨ascii "TC_buf_full_cnt", fourSigned stats.tcBufFullCnt⟩,
    ⟨ascii "TC_sta_que_len", fourSigned stats.tcQueLen⟩,
    ⟨ascii "TC_avg_que_len", fourSigned stats.tcAvgQueLen⟩,
    ⟨ascii "TC_cur_que_len", fourSigned stats.tcCurQueLen⟩,
    ⟨ascii "flag", hexWord stats.flag⟩,
    ⟨ascii "reserved0", reservedText stats.reserved lowIndices⟩,
    ⟨ascii "reserved1", reservedText stats.reserved highIndices⟩]

def report (stats : StaStatistics) : CString :=
  (reportEntries stats).flatMap Entry.line ++ ascii "====\n"

section Print
variable (stop : CharPtr) (stats : StaStatistics)

theorem writes_printReserved (reserved : Vector UInt8 32) (indices : List (Fin 32)) :
    Writes stop (printReserved stop reserved indices) (reservedText reserved indices) :=
  writes_forM (fun _ => (writes_print _).bind (.ite (writes_print _) writes_nothing)) indices

theorem writes_staReport : Writes stop (staReport stop stats) (report stats) := by
  have low := writes_printReserved stop stats.reserved lowIndices
  have high := writes_printReserved stop stats.reserved highIndices
  have body : Writes stop (staReport stop stats) _ :=
    (writes_print _).bind <| (writes_print _).bind <| (writes_print _).bind <|
    (writes_print _).bind <| (writes_print _).bind <| (writes_print _).bind <|
    (writes_print _).bind <| (writes_print _).bind <| (writes_print _).bind <|
    (writes_print _).bind <| (writes_print _).bind <| (writes_print _).bind <|
    (writes_print _).bind <| (writes_print _).bind <| (writes_print _).bind <|
    (writes_print _).bind <| (writes_print _).bind <|
    (writes_print _).bind <| low.bind <| (writes_print _).bind <|
    (writes_print _).bind <| high.bind <| (writes_print _).bind <|
    writes_print _
  have equals : ascii "reserved0=" = ascii "reserved0" ++ [61] ∧
      ascii "reserved1=" = ascii "reserved1" ++ [61] := ⟨rfl, rfl⟩
  have newline : ascii "\n" = [10] := rfl
  rw [equals.1, equals.2, newline] at body
  simpa only [report, reportEntries, List.flatMap_cons, List.flatMap_nil, keyLine, Entry.line,
    Entry.text, List.append_assoc, List.append_nil, List.cons_append, List.nil_append] using body

end Print

/-! ## What its text is made of -/

section Text

theorem oneLine_upperHex (width n : Nat) : OneLine width (CString.upperHex width n) := by
  have digit : ∀ digit : Fin 16, OneLine 1 [CString.upperHexDigit digit] := by decide
  induction width generalizing n with
  | zero => exact .nil
  | succ width ih => exact (ih (n / 16)).append (digit ⟨n % 16, Nat.mod_lt n (by decide)⟩)

theorem oneLine_hexByte (byte : UInt8) : OneLine 2 (CString.hexByte byte) := by
  have digit : ∀ digit : Fin 16, OneLine 1 [CString.hexDigit digit] := by decide
  have high := byte.toNat_lt
  exact (digit ⟨byte.toNat / 16, by omega⟩).append (digit ⟨byte.toNat % 16, by omega⟩)

theorem oneLine_macStr (addr : Vector UInt8 6) : OneLine 18 (macStr addr.toList) := by
  have octets : ∀ text ∈ addr.toList.map CString.hexByte, OneLine 2 text := by
    intro text here
    obtain ⟨byte, -, rfl⟩ := List.mem_map.mp here
    exact oneLine_hexByte byte
  have joined : OneLine _ (macStr addr.toList) := OneLine.intercalate octets (by decide)
  rw [List.length_map, Vector.length_toList] at joined
  exact joined

theorem oneLine_printInt (value : Int32) : OneLine 11 (CString.printInt value.toInt) :=
  ⟨CString.length_printInt_le value, fun _ here =>
    let plain := CString.printInt_plain here
    ⟨plain.1, plain.2.1⟩⟩

theorem oneLine_signed (count : UInt32) : OneLine 11 (signed count) := oneLine_printInt _

theorem oneLine_fourSigned (counts : TcCounts) : OneLine 48 (fourSigned counts) := by
  have numbers : ∀ text ∈ counts.toList.map signed, OneLine 11 text := by
    intro text here
    obtain ⟨count, -, rfl⟩ := List.mem_map.mp here
    exact oneLine_signed count
  have joined : OneLine _ (fourSigned counts) := OneLine.intercalate numbers (by decide)
  rw [List.length_map, Vector.length_toList] at joined
  exact joined

theorem oneLine_hexWord (word : UInt32) : OneLine 10 (hexWord word) := by
  have front : OneLine 2 (ascii "0x") := by decide
  exact front.append (oneLine_upperHex 8 word.toNat)

theorem oneLine_decimal {n digits : Nat} (positive : 0 < digits) (small : n < 10 ^ digits) :
    OneLine digits (CString.decimal n) := by
  refine ⟨CString.length_decimal_le positive small, fun byte here => ?_⟩
  obtain ⟨-, -, -, zero, newline, -⟩ :=
    CString.isDigit_ten_plain (CString.isDigit_of_mem_decimal here)
  exact ⟨zero, newline⟩

theorem oneLine_per (per : UInt8) : OneLine 3 (CString.printInt per.toNat) := by
  have small := per.toNat_lt
  rw [CString.printInt, if_neg (by omega), Int.natAbs_natCast]
  exact oneLine_decimal (by decide) (by omega)

theorem oneLine_oneDecimal (rate : Double) : OneLine 315 rate.oneDecimal := by
  refine ⟨rate.length_oneDecimal_le, ?_⟩
  have sign : ∀ negative, OneLine 1 (Double.sign negative) := by decide
  cases rate with
  | finite negative mantissa exponent fits bounded =>
      have last : ∀ digit : Fin 10, OneLine 2 [46, CString.digitByte digit] := by decide
      intro byte here
      rcases List.mem_append.mp here with front | back
      · rcases List.mem_append.mp front with minus | digit
        · exact (sign negative).plain byte minus
        · obtain ⟨-, -, -, zero, newline, -⟩ :=
            CString.isDigit_ten_plain (CString.isDigit_of_mem_decimal digit)
          exact ⟨zero, newline⟩
      · exact (last ⟨_, Nat.mod_lt _ (by decide)⟩).plain byte back
  | infinite negative =>
      have name : OneLine 3 (ascii "inf") := by decide
      exact ((sign negative).append name).plain
  | nan =>
      have name : OneLine 3 (ascii "nan") := by decide
      exact name.plain

theorem oneLine_reservedText (reserved : Vector UInt8 32) {indices : List (Fin 32)}
    (half : indices.length = 16) : OneLine 48 (reservedText reserved indices) := by
  have turn : ∀ i : Fin 32, OneLine 3 (CString.upperHex 2 reserved[i].toNat ++
      if (i.val + 1) % 4 = 0 then ascii " " else []) := by
    intro i
    have blank : OneLine 1 (if (i.val + 1) % 4 = 0 then ascii " " else []) := by
      split
      · decide
      · decide
    exact (oneLine_upperHex 2 _).append blank
  have text := OneLine.flatMap turn indices
  rw [half] at text
  exact text

theorem map_key_reportEntries (stats : StaStatistics) :
    (reportEntries stats).map Entry.key = ["sta_addr", "link_score", "per", "rssi", "phy", "rate",
      "total_cnt", "threshold_cnt", "fail_cnt", "timeout_cnt", "apt", "aat", "TC_buf_full_cnt",
      "TC_sta_que_len", "TC_avg_que_len", "TC_cur_que_len", "flag", "reserved0",
      "reserved1"].map ascii := rfl

theorem oneLine_key (stats : StaStatistics) :
    ∀ entry ∈ reportEntries stats, OneLine 15 entry.key ∧ 61 ∉ entry.key := by
  intro entry here
  have listed := List.mem_map_of_mem (f := Entry.key) here
  rw [map_key_reportEntries] at listed
  revert listed
  generalize entry.key = key
  revert key
  decide

theorem oneLine_value (stats : StaStatistics) :
    ∀ entry ∈ reportEntries stats, OneLine 315 entry.value := by
  have count : ∀ count, OneLine 315 (signed count) :=
    fun count => (oneLine_signed count).mono (by omega)
  have counts : ∀ counts, OneLine 315 (fourSigned counts) :=
    fun counts => (oneLine_fourSigned counts).mono (by omega)
  have word : ∀ word, OneLine 315 (hexWord word) := fun word => (oneLine_hexWord word).mono (by omega)
  have addr := (oneLine_macStr stats.addr).mono (by omega : 18 ≤ 315)
  have per := (oneLine_per stats.per).mono (by omega : 3 ≤ 315)
  have rssi := (oneLine_printInt stats.rssi).mono (by omega : 11 ≤ 315)
  have low : OneLine 48 (reservedText stats.reserved lowIndices) := oneLine_reservedText _ (by decide)
  have high : OneLine 48 (reservedText stats.reserved highIndices) :=
    oneLine_reservedText _ (by decide)
  simp only [reportEntries, List.forall_mem_cons]
  exact ⟨addr, count _, per, rssi, word _, oneLine_oneDecimal _, count _, count _, count _, count _,
    count _, count _, counts _, counts _, counts _, counts _, word _, low.mono (by omega),
    high.mono (by omega), fun _ here => nomatch here⟩

theorem length_report_lt (stats : StaStatistics) : (report stats).length < 6400 := by
  have lines := (KeyValue.lines_bounded fun entry here =>
    ⟨(oneLine_key stats entry here).1, oneLine_value stats entry here⟩).1
  have short : ((reportEntries stats).flatMap Entry.line).length ≤ 19 * (15 + (1 + 315) + 1) :=
    lines
  have last : (ascii "====\n").length = 5 := by decide
  rw [report, List.length_append, last]
  omega

theorem zero_not_mem_report (stats : StaStatistics) : 0 ∉ report stats := by
  obtain ⟨-, whole⟩ := KeyValue.lines_bounded fun entry here =>
    ⟨(oneLine_key stats entry here).1, oneLine_value stats entry here⟩
  have last : 0 ∉ ascii "====\n" := by decide
  rw [report, List.mem_append]
  exact fun either => either.elim whole last

theorem report_ne_nil (stats : StaStatistics) : report stats ≠ [] :=
  List.append_ne_nil_of_right_ne_nil _ (by decide)

end Text

/-! ## What the function leaves -/

/-- The whole text is in the buffer with its terminator and the result is its length, or
the result is 0, and that exactly if there is no room for both. -/
structure ReportsWhole {mem : Memory} (reply : Buffer mem) (text : CString)
    (run : Int32 × PrintState) : Prop where
  within : ∀ store ∈ run.2.stores, store.Within reply.start reply.size
  stored : run.2.mem = run.2.stores.foldl Memory.store mem
  whole : run.1 ≠ 0 → run.1.toInt = text.length ∧
    (∃ rest, run.2.mem.bytes reply.start = text ++ 0 :: rest) ∧ run.2.mem.string reply.start = text
  zero_iff : run.1 = 0 ↔ reply.size < text.length + 1

section Reply
variable {mem : Memory} (reply : Buffer mem) (stats : StaStatistics)

theorem staReport_printed :
    Printed (reply.start.add reply.size) (report stats) ⟨mem, reply.start, []⟩
      (staReport (reply.start.add reply.size) stats ⟨mem, reply.start, []⟩) := by
  have short := length_report_lt stats
  have ready : Ready (reply.start.add reply.size) ⟨mem, reply.start, []⟩ :=
    ⟨Nat.le_add_right _ _, reply.inside⟩
  exact (writes_staReport _ stats).printed (report_ne_nil stats) (by omega) ready

/-- The result, and the memory, which is what one `snprintf` of the report leaves. -/
theorem printStaStatistics_spec :
    ∃ outcome ended,
      printStaStatistics stats reply.start reply.size mem =
        (if (report stats).length < reply.size then Int32.ofInt (report stats).length else 0,
          ended) ∧
      Printed (reply.start.add reply.size) (report stats) ⟨mem, reply.start, []⟩
        (outcome, ended) := by
  have printed := staReport_printed reply stats
  have size : room (reply.start.add reply.size) ⟨mem, reply.start, []⟩ = reply.size :=
    Nat.add_sub_cancel_left _ _
  cases ran : staReport (reply.start.add reply.size) stats ⟨mem, reply.start, []⟩ with
  | mk outcome ended =>
      rw [ran] at printed
      have fits := printed.fits
      rw [size] at fits
      refine ⟨outcome, ended, ?_, printed⟩
      cases outcome with
      | none =>
          have long : ¬ (report stats).length < reply.size :=
            fun here => nomatch fits.mpr here
          rw [printStaStatistics, ran, returned, if_neg long]
      | some done =>
          have pos : ended.pos.offset = reply.start.offset + (report stats).length := by
            rw [printed.pos rfl]
            rfl
          rw [printStaStatistics, ran, returned, if_pos (fits.mp rfl), pos]
          congr 2
          omega

theorem toInt_ofInt_length {n : Nat} (small : n < 2 ^ 31) : (Int32.ofInt n).toInt = n := by
  exact Int32.toInt_ofInt_of_le (by omega) (by omega)

/-- For every record and every buffer, the report is there as a whole or the result is 0. -/
theorem sta_report_whole_or_zero :
    ReportsWhole reply (report stats) (printStaStatistics stats reply.start reply.size mem) := by
  obtain ⟨outcome, ended, ran, printed⟩ := printStaStatistics_spec reply stats
  have short := length_report_lt stats
  have size : room (reply.start.add reply.size) ⟨mem, reply.start, []⟩ = reply.size :=
    Nat.add_sub_cancel_left _ _
  have positive := List.length_pos_of_ne_nil (report_ne_nil stats)
  have left := printed.mem
  obtain ⟨stores, grown, within, stored⟩ := printed.stores
  rw [size] at left within
  rw [List.nil_append] at grown
  rw [ran]
  have zero_iff : (if (report stats).length < reply.size then Int32.ofInt (report stats).length
      else 0) = 0 ↔ reply.size < (report stats).length + 1 := by
    split
    · next fits =>
      refine ⟨fun zero => ?_, fun long => absurd fits (by omega)⟩
      have value := toInt_ofInt_length (by omega : (report stats).length < 2 ^ 31)
      rw [zero] at value
      have none : ((report stats).length : Int) = 0 := value.symm.trans Int32.toInt_zero
      omega
    · next long => exact ⟨fun _ => by omega, fun _ => rfl⟩
  constructor
  · rw [grown]
    exact within
  · rw [grown]
    exact stored
  · intro nonzero
    have fits : (report stats).length < reply.size := by
      have room := zero_iff.not.mp nonzero
      omega
    have bytes := Memory.bytes_snprintf reply.inside fits
    rw [← left] at bytes
    refine ⟨?_, ⟨_, bytes⟩, Memory.string_of_bytes (zero_not_mem_report stats) bytes⟩
    rw [if_pos fits, toInt_ofInt_length (by omega : (report stats).length < 2 ^ 31)]
  · exact zero_iff

/-! ## The command -/

/-- What the function does to a buffer of some length, as a command sees it. -/
def reportAnswer (stats : StaStatistics) (bufLen : Nat) : List UInt8 × Int :=
  (if bufLen = 0 then [] else (report stats).take (bufLen - 1) ++ [0],
    if (report stats).length < bufLen then (report stats).length else 0)

theorem reportAnswer_eq :
    mem.write reply.start (reportAnswer stats reply.size).1 =
        (printStaStatistics stats reply.start reply.size mem).2.mem ∧
      (reportAnswer stats reply.size).2 =
        (printStaStatistics stats reply.start reply.size mem).1.toInt := by
  obtain ⟨outcome, ended, ran, printed⟩ := printStaStatistics_spec reply stats
  have short := length_report_lt stats
  have size : room (reply.start.add reply.size) ⟨mem, reply.start, []⟩ = reply.size :=
    Nat.add_sub_cancel_left _ _
  have left := printed.mem
  rw [size] at left
  rw [ran]
  constructor
  · rw [left, Memory.snprintf, reportAnswer]
    split
    · exact Memory.write_nil
    · rfl
  · simp only [reportAnswer]
    by_cases fits : (report stats).length < reply.size
    · rw [if_pos fits, if_pos fits, toInt_ofInt_length (by omega)]
    · rw [if_neg fits, if_neg fits, Int32.toInt_zero]

/-- In an environment that prints a record, `GET_STA_STATISTICS` leaves the record's report. -/
theorem getStaStatistics_prints {config : Config} {env : Env} {wpaS : WpaSupplicant}
    {addr : CString} {staAddr : MacAddr} {state : DriverState} (reply : Buffer state.mem)
    (prints : env.printStaStatistics = reportAnswer stats)
    (valid : env.hwaddrAton addr = some staAddr)
    (answered : 0 ≤ (env.testmode state.trace).ret) :
    ∃ trace, getStaStatistics config env wpaS addr reply.start reply.size state =
      .ok ((printStaStatistics stats reply.start reply.size state.mem).1.toInt,
        { state with
          mem := (printStaStatistics stats reply.start reply.size state.mem).2.mem
          trace := trace }) := by
  obtain ⟨written, result⟩ := reportAnswer_eq reply stats
  simp only [getStaStatistics, getStaStatisticsRequest, valid, run_bind, run_testmode,
    except_bind_ok, prints, ← written, ← result]
  rw [if_neg (by omega)]
  exact ⟨_, rfl⟩

end Reply

end Mt6757.Supplicant
