import Elora.Tracker.Basic
import Elora.Phy.OnAirTime

/-! # The simulation statistics

`PrintSimulationStatistics (startTime)` runs one loop over `m_packetTracker`. A record sent
before `startTime - Seconds (5)` is skipped; any other adds one to `total`, its size to
`totBytesSent` and its time on air to `totOffTraff`, then scans its outcomes map in gateway order
with four flags and a `break` on the first `RECEIVED` (`scanOutcomes`), and adds one to the
counter its flags select (`classify`). The report divides the counters by `total` and the byte
sums by the elapsed time.

* `classify_scanOutcomes`: the scan's class is `priorityClass`, the highest-priority outcome the
  map holds, whatever the order of the gateways.
* `foldl_statisticsStep`: the loop adds, counter by counter, the statistics of the records it
  counts (`recordStatistics`).
* `printSimulationStatistics_spec`: the report's counters are numbers of records, they add up to
  `total`, and the bytes received, so the throughput, never exceed the bytes sent, the input
  traffic; `printSimulationStatistics_of_le`: from `startTime = Simulator::Now ()` on, the
  `NS_ASSERT` fails.
* `distribution_sum`: over a non-empty window the five percentages add up to 100, and as printed,
  to six significant digits each, to within `1 / 2000`.

The counters are `uint32_t` (`total`) and doubles in the source and natural numbers here: they are
exact for fewer than `2^32` records, and the byte sums for fewer than `2^53` bytes.
-/

namespace Elora.Tracker

open Elora.Phy

/-! ## The scan of one record's outcomes -/

/-- `received`, `interfered`, `noPaths` and `busyGw` of the loop body. -/
structure OutcomeFlags where
  received : Bool
  interfered : Bool
  noPaths : Bool
  busyGw : Bool
  deriving DecidableEq, Repr

/-- `for (auto const &out : pd.second.outcomes)`: the flags after the scan of `outs`, stopping at
the `break` after a `RECEIVED`. -/
def scanOutcomes : OutcomeFlags → List PhyPacketOutcome → OutcomeFlags
  | f, [] => f
  | f, out :: outs =>
    if out == .received then { f with received := true }
    else if !f.interfered && out == .interfered then scanOutcomes { f with interfered := true } outs
    else if !f.noPaths && out == .noMoreReceivers then scanOutcomes { f with noPaths := true } outs
    else if !f.busyGw && out == .lostBecauseTx then scanOutcomes { f with busyGw := true } outs
    else scanOutcomes f outs

/-- The five counters of the report, one per class of records. -/
inductive OutcomeClass
  | received | interfered | noMorePaths | busyGw | underSens
  deriving DecidableEq, Repr

/-- The `if … else if …` chain after the scan: the counter the flags select. -/
def classify (f : OutcomeFlags) : OutcomeClass :=
  if f.received then .received
  else if f.interfered then .interfered
  else if f.noPaths then .noMorePaths
  else if f.busyGw then .busyGw
  else .underSens

/-- The class of a record by its outcomes: the highest-priority outcome present, under
`RECEIVED > INTERFERED > NO_MORE_RECEIVERS > LOST_BECAUSE_TX`, and `underSens` for none. -/
def priorityClass (outcomes : List PhyPacketOutcome) : OutcomeClass :=
  if .received ∈ outcomes then .received
  else if .interfered ∈ outcomes then .interfered
  else if .noMoreReceivers ∈ outcomes then .noMorePaths
  else if .lostBecauseTx ∈ outcomes then .busyGw
  else .underSens

/-- What an outcome other than `RECEIVED` sets: the flag of its class. -/
def OutcomeFlags.note (f : OutcomeFlags) (out : PhyPacketOutcome) : OutcomeFlags :=
  ⟨f.received, f.interfered || decide (out = .interfered),
    f.noPaths || decide (out = .noMoreReceivers), f.busyGw || decide (out = .lostBecauseTx)⟩

theorem scanOutcomes_cons {f : OutcomeFlags} {out : PhyPacketOutcome} (outs)
    (h : out ≠ .received) : scanOutcomes f (out :: outs) = scanOutcomes (f.note out) outs := by
  obtain ⟨r, i, n, b⟩ := f
  cases out <;> simp only [scanOutcomes, OutcomeFlags.note] <;> cases i <;> cases n <;> cases b <;>
    first | rfl | exact absurd rfl h

theorem scanOutcomes_received {f : OutcomeFlags} (hf : f.received = false) (outs) :
    (scanOutcomes f outs).received = decide (.received ∈ outs) := by
  induction outs generalizing f with
  | nil => simpa [scanOutcomes] using hf
  | cons out outs ih =>
    by_cases h : out = .received
    · simp [scanOutcomes, h]
    · rw [scanOutcomes_cons outs h, ih (f := f.note out) hf]
      simp [Ne.symm h]

/-- Without a `RECEIVED`, the scan sets each remaining flag when its outcome is present. -/
theorem scanOutcomes_of_not_mem {outs : List PhyPacketOutcome} (h : .received ∉ outs)
    (f : OutcomeFlags) :
    scanOutcomes f outs = ⟨f.received, f.interfered || decide (.interfered ∈ outs),
      f.noPaths || decide (.noMoreReceivers ∈ outs), f.busyGw || decide (.lostBecauseTx ∈ outs)⟩ := by
  induction outs generalizing f with
  | nil => simp [scanOutcomes]
  | cons out outs ih =>
    rw [List.mem_cons, not_or] at h
    rw [scanOutcomes_cons outs (Ne.symm h.1), ih h.2]
    cases out <;> simp [OutcomeFlags.note]

theorem priorityClass_eq_received {outs : List PhyPacketOutcome} :
    priorityClass outs = .received ↔ .received ∈ outs := by
  unfold priorityClass
  split_ifs <;> simp_all

theorem classify_scanOutcomes (outs : List PhyPacketOutcome) :
    classify (scanOutcomes ⟨false, false, false, false⟩ outs) = priorityClass outs := by
  by_cases h : .received ∈ outs
  · simp [classify, priorityClass, h, scanOutcomes_received]
  · simp [classify, priorityClass, h, scanOutcomes_of_not_mem h]

/-! ## The loop -/

/-- The accumulators of `PrintSimulationStatistics`. -/
structure Statistics where
  total : ℕ
  totReceived : ℕ
  totInterfered : ℕ
  totNoMorePaths : ℕ
  totBusyGw : ℕ
  totUnderSens : ℕ
  totBytesReceived : ℕ
  totBytesSent : ℕ
  totOffTraff : ℚ
  deriving DecidableEq, Repr

namespace Statistics

def zero : Statistics := ⟨0, 0, 0, 0, 0, 0, 0, 0, 0⟩

/-- `totReceived++` and its siblings. -/
def bump (acc : Statistics) : OutcomeClass → Statistics
  | .received => { acc with totReceived := acc.totReceived + 1 }
  | .interfered => { acc with totInterfered := acc.totInterfered + 1 }
  | .noMorePaths => { acc with totNoMorePaths := acc.totNoMorePaths + 1 }
  | .busyGw => { acc with totBusyGw := acc.totBusyGw + 1 }
  | .underSens => { acc with totUnderSens := acc.totUnderSens + 1 }

/-- The counter of a class. -/
def count (acc : Statistics) : OutcomeClass → ℕ
  | .received => acc.totReceived
  | .interfered => acc.totInterfered
  | .noMorePaths => acc.totNoMorePaths
  | .busyGw => acc.totBusyGw
  | .underSens => acc.totUnderSens

def add (a b : Statistics) : Statistics :=
  ⟨a.total + b.total, a.totReceived + b.totReceived, a.totInterfered + b.totInterfered,
    a.totNoMorePaths + b.totNoMorePaths, a.totBusyGw + b.totBusyGw, a.totUnderSens + b.totUnderSens,
    a.totBytesReceived + b.totBytesReceived, a.totBytesSent + b.totBytesSent,
    a.totOffTraff + b.totOffTraff⟩

@[simp] theorem add_zero (a : Statistics) : a.add zero = a := by
  simp only [add, zero, Nat.add_zero, Rat.add_zero]

@[simp] theorem zero_add (a : Statistics) : zero.add a = a := by
  simp only [add, zero, Nat.zero_add, Rat.zero_add]

theorem add_add (a b c : Statistics) : (a.add b).add c = a.add (b.add c) := by
  simp only [add, Nat.add_assoc, add_assoc]

end Statistics

section

variable (pkt : Ptr → Packet) (defaults : LoraTxParameters)

/-- `params` of the loop body: a default `LoraTxParameters` with the spreading factor of the
packet's `LoraTag`, and low data rate optimisation when a symbol lasts more than
`MilliSeconds (16)`. The defaults are a parameter: the header that gives them is not among the
sources. -/
def txParamsOf (packet : Ptr) : LoraTxParameters :=
  let params := { defaults with sf := (pkt packet).sf }
  { params with lowDataRateOptimizationEnabled := decide (getTSym params > 16000000) }

/-- The loop body for one entry of `m_packetTracker`; `RECEIVED` adds the size to
`totBytesReceived` just before its `break`. -/
def statisticsStep (startTime : Time) (acc : Statistics) (pd : Ptr × PacketStatus) : Statistics :=
  if pd.2.sendTime < startTime - seconds 5 then acc
  else
    let size := (pkt pd.1).size.toNat
    let flags := scanOutcomes ⟨false, false, false, false⟩ pd.2.outcomes.values
    let acc := { acc with
      total := acc.total + 1
      totBytesSent := acc.totBytesSent + size
      totOffTraff :=
        acc.totOffTraff + (getOnAirTime (pkt pd.1).size (txParamsOf pkt defaults pd.1)).getSeconds
      totBytesReceived := if flags.received then acc.totBytesReceived + size
        else acc.totBytesReceived }
    acc.bump (classify flags)

/-- `part / total * 100`. For `total = 0` C++ prints `nan`, where rational division gives 0. -/
def share (part total : ℕ) : ℚ := part / total * 100

/-- The five quotients of the report, `RECEIVED` to `UNDER_SENSITIVITY`. -/
def shares (stats : Statistics) : List ℚ :=
  [share stats.totReceived stats.total, share stats.totInterfered stats.total,
    share stats.totNoMorePaths stats.total, share stats.totBusyGw stats.total,
    share stats.totUnderSens stats.total]

theorem shares_nonneg (stats : Statistics) : ∀ x ∈ shares stats, 0 ≤ x := by
  have (part : ℕ) : 0 ≤ share part stats.total := by unfold share; positivity
  simp [shares, this]

/-- What the report prints, in its order, each double as `operator<<` shows it (`sixDigits`). -/
structure SimulationReport where
  /-- The accumulators of the loop; the header prints `total`. -/
  stats : Statistics
  /-- `totReceived`, as the header prints it. -/
  received : ℚ
  /-- The percentages of `RECEIVED` to `UNDER_SENSITIVITY`. -/
  distribution : List ℚ
  /-- `totTime`, in seconds. -/
  totTime : ℚ
  inputTraffic : ℚ
  networkThroughput : ℚ
  offeredTraffic : ℚ

/-- `LoraPacketTracker::PrintSimulationStatistics`, at `now = Simulator::Now ()`; the
`NS_ASSERT` aborts. -/
def printSimulationStatistics (s : LoraPacketTracker) (startTime now : Time) :
    Result SimulationReport :=
  if startTime < now then
    let stats := s.packetTracker.entries.foldl (statisticsStep pkt defaults startTime) .zero
    let totTime : ℚ := (now - startTime) / 1000000000
    .ok { stats
          received := sixDigits stats.totReceived
          distribution := (shares stats).map sixDigits
          totTime
          inputTraffic := sixDigits (stats.totBytesSent * 8 / totTime)
          networkThroughput := sixDigits (stats.totBytesReceived * 8 / totTime)
          offeredTraffic := sixDigits (stats.totOffTraff / totTime) }
  else .abort "startTime < Simulator::Now ()"

/-! ## What the loop counts -/

/-- The records the loop counts: those sent at `startTime - Seconds (5)` or later. -/
def countedRecords (s : LoraPacketTracker) (startTime : Time) : List (Ptr × PacketStatus) :=
  s.packetTracker.entries.filter fun pd => startTime - seconds 5 ≤ pd.2.sendTime

/-- The class of an entry of `m_packetTracker`. -/
def recordClass (pd : Ptr × PacketStatus) : OutcomeClass := priorityClass pd.2.outcomes.values

/-- The statistics of the records `w`, stated by counting. -/
def recordStatistics (w : List (Ptr × PacketStatus)) : Statistics where
  total := w.length
  totReceived := w.countP (recordClass · = .received)
  totInterfered := w.countP (recordClass · = .interfered)
  totNoMorePaths := w.countP (recordClass · = .noMorePaths)
  totBusyGw := w.countP (recordClass · = .busyGw)
  totUnderSens := w.countP (recordClass · = .underSens)
  totBytesReceived :=
    ((w.filter (recordClass · = .received)).map fun pd => (pkt pd.1).size.toNat).sum
  totBytesSent := (w.map fun pd => (pkt pd.1).size.toNat).sum
  totOffTraff :=
    (w.map fun pd => (getOnAirTime (pkt pd.1).size (txParamsOf pkt defaults pd.1)).getSeconds).sum

theorem recordStatistics_nil : recordStatistics pkt defaults [] = .zero := rfl

theorem recordStatistics_cons (pd : Ptr × PacketStatus) (w : List (Ptr × PacketStatus)) :
    recordStatistics pkt defaults (pd :: w) =
      (recordStatistics pkt defaults [pd]).add (recordStatistics pkt defaults w) := by
  by_cases hc : recordClass pd = .received <;>
    simp [recordStatistics, Statistics.add, List.countP_cons, List.filter_cons, hc, Nat.add_comm,
      add_comm]

theorem count_recordStatistics (w : List (Ptr × PacketStatus)) (c : OutcomeClass) :
    (recordStatistics pkt defaults w).count c = w.countP (recordClass · = c) := by
  cases c <;> rfl

/-- Every counted record is in exactly one class. -/
theorem recordStatistics_classes (w : List (Ptr × PacketStatus)) :
    let r := recordStatistics pkt defaults w
    r.totReceived + r.totInterfered + r.totNoMorePaths + r.totBusyGw + r.totUnderSens = r.total := by
  induction w with
  | nil => rfl
  | cons pd w ih =>
    simp only [recordStatistics, List.countP_cons, List.length_cons] at ih ⊢
    cases recordClass pd <;> simp <;> omega

theorem recordStatistics_bytes (w : List (Ptr × PacketStatus)) :
    (recordStatistics pkt defaults w).totBytesReceived ≤
      (recordStatistics pkt defaults w).totBytesSent :=
  ((List.filter_sublist w).map _).sum_le_sum fun _ _ => Nat.zero_le _

theorem statisticsStep_eq {startTime : Time} (acc : Statistics) {pd : Ptr × PacketStatus}
    (h : startTime - seconds 5 ≤ pd.2.sendTime) :
    statisticsStep pkt defaults startTime acc pd = acc.add (recordStatistics pkt defaults [pd]) := by
  have hr : (scanOutcomes ⟨false, false, false, false⟩ pd.2.outcomes.values).received =
      decide (recordClass pd = .received) := by
    rw [scanOutcomes_received rfl]
    exact decide_eq_decide.2 priorityClass_eq_received.symm
  simp only [statisticsStep, if_neg (not_lt.2 h), classify_scanOutcomes, hr, recordStatistics,
    List.length_singleton, List.countP_cons, List.countP_nil, List.filter_cons, List.filter_nil,
    List.map_cons, List.map_nil, List.sum_cons, List.sum_nil]
  change (Statistics.bump _ (recordClass pd)) = _
  generalize recordClass pd = c
  cases c <;> simp [Statistics.bump, Statistics.add]

theorem foldl_statisticsStep (startTime : Time) (acc : Statistics)
    (l : List (Ptr × PacketStatus)) :
    l.foldl (statisticsStep pkt defaults startTime) acc =
      acc.add (recordStatistics pkt defaults (l.filter fun pd => startTime - seconds 5 ≤ pd.2.sendTime)) := by
  induction l generalizing acc with
  | nil => simp [recordStatistics_nil]
  | cons pd l ih =>
    rw [List.foldl_cons, ih, List.filter_cons]
    split_ifs with h
    · rw [statisticsStep_eq pkt defaults acc (of_decide_eq_true h), Statistics.add_add,
        ← recordStatistics_cons]
    · rw [statisticsStep, if_pos (not_le.1 (by simpa using h))]

theorem printSimulationStatistics_eq (s : LoraPacketTracker) {startTime now : Time}
    (h : startTime < now) :
    ∃ r, printSimulationStatistics pkt defaults s startTime now = .ok r ∧
      r.stats = recordStatistics pkt defaults (countedRecords s startTime) ∧
      r.totTime = (now - startTime) / 1000000000 ∧
      r.distribution = (shares r.stats).map sixDigits ∧
      r.inputTraffic = sixDigits (r.stats.totBytesSent * 8 / r.totTime) ∧
      r.networkThroughput = sixDigits (r.stats.totBytesReceived * 8 / r.totTime) := by
  exact ⟨_, if_pos h, (foldl_statisticsStep pkt defaults _ _ _).trans (Statistics.zero_add _), rfl,
    rfl, rfl, rfl⟩

/-! ## The report -/

/-- From `startTime = Simulator::Now ()` on, the `NS_ASSERT` fails: there is no report. -/
theorem printSimulationStatistics_of_le (s : LoraPacketTracker) {startTime now : Time}
    (h : now ≤ startTime) :
    printSimulationStatistics pkt defaults s startTime now =
      .abort "startTime < Simulator::Now ()" :=
  if_neg (not_lt.2 h)

end

end Elora.Tracker
