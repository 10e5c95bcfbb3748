import Elora.Tracker.Reference
import Elora.Tracker.Counting
import Elora.Tracker.Statistics

/-!
# The counters after a run

The counting functions read the tracker's maps; the reference `firstWins` reads the events. A
causal run from the empty tracker ends in a state whose view is the reference (`run_view`), and a
count over a map's traversal is a count over any duplicate-free list that holds its keys
(`OrdMap.countP_values`), here the packets the events are about (`packets`). So every number the
tracker reports after a run is a number of packets of the run, read off the events.

* `run_countPhyPacketsPerGw`: `CountPhyPacketsPerGw` counts the uplink packets whose first
  transmission falls in the window, then those among them whose first report from the gateway was
  each outcome.
* `run_countMacPacketsGlobally`: `CountMacPacketsGlobally` and `PrintDevicePackets` count the
  uplink packets whose first MAC transmission falls in the window (from the device), then those
  among them that some gateway received.
* `run_countMacPacketsGloballyCpsr`: `CountMacPacketsGloballyCpsr` counts the packets whose first
  retransmission summary has its first attempt in the window, then those of them that succeeded.
* `run_printSimulationStatistics`: `PrintSimulationStatistics` counts the uplink packets first
  transmitted since `startTime - Seconds (5)`, each in the class of the first reports of the
  gateways (`traceClass`); `run_printSimulationStatistics_bytes`: it adds up their sizes as bytes
  sent, the sizes of those in class `RECEIVED` as bytes received, and their times on air as
  offered traffic (`OrdMap.sum_filter_entries`).
-/

namespace Elora.Tracker

/-- The packet an event is about. -/
def TrackerEvent.packet : TrackerEvent → Ptr
  | .transmission packet _ | .phy _ packet _ | .macTransmission packet | .macGwReception packet
  | .requiredTransmissions _ _ _ packet => packet

/-- The packets the events of `es` are about, each once. -/
def packets (es : List TimedEvent) : List Ptr := (es.map (·.event.packet)).dedup

theorem mem_packets {α : Type} {es : List TimedEvent} {p : Ptr} {f : TimedEvent → Option α}
    (hf : ∀ e a, f e = some a → e.event.packet = p) (h : (es.filterMap f).head?.isSome) :
    p ∈ packets es := by
  obtain ⟨a, ha⟩ := List.exists_mem_of_ne_nil _ (List.head?_isSome.1 h)
  obtain ⟨e, he, hfe⟩ := List.mem_filterMap.1 ha
  exact List.mem_dedup.2 (List.mem_map.2 ⟨e, he, hf e a hfe⟩)

theorem transmissionOf_packet {p : Ptr} {e : TimedEvent} {a : Time × Nat}
    (h : transmissionOf p e = some a) : e.event.packet = p := by
  obtain ⟨now, context, ev⟩ := e
  cases ev <;> simp_all [transmissionOf, TrackerEvent.packet]

theorem macTransmissionOf_packet {p : Ptr} {e : TimedEvent} {a : Time × Nat}
    (h : macTransmissionOf p e = some a) : e.event.packet = p := by
  obtain ⟨now, context, ev⟩ := e
  cases ev <;> simp_all [macTransmissionOf, TrackerEvent.packet]

theorem retransmissionOf_packet {p : Ptr} {e : TimedEvent} {a : RetransmissionStatus}
    (h : retransmissionOf p e = some a) : e.event.packet = p := by
  obtain ⟨now, context, ev⟩ := e
  cases ev <;> simp_all [retransmissionOf, TrackerEvent.packet]

theorem any_map_eq {α β : Type} (o : Option α) (g : α → β) (f : β → Bool) :
    (o.map g).any f = o.any fun a => f (g a) := by
  cases o <;> rfl

/-- A count over a map whose lookups the reference gives, through `view`, is a count over the
packets of the run. -/
theorem countP_values_ref {ν ρ : Type} {m : OrdMap Ptr ν} {view : ν → ρ}
    {ref : Ptr → Option ρ} {es : List TimedEvent} (href : ∀ p, (m.find? p).map view = ref p)
    (hsub : ∀ p, (ref p).isSome → p ∈ packets es) (f : ρ → Bool) :
    m.values.countP (fun v => f (view v)) = (packets es).countP fun p => (ref p).any f := by
  rw [OrdMap.countP_values (List.nodup_dedup _) fun p hp => hsub p (by rw [← href]; simpa using hp)]
  exact List.countP_congr fun p _ => by rw [← href]; cases m.find? p <;> rfl

/-- A MAC record has a reception exactly when some gateway's reception is among the events. -/
theorem MacPacketStatus.received_eq {st : MacPacketStatus} {l : List (Nat × Time)}
    (h : st.receptionTimes.find? = fun g => lookup g l) :
    decide (st.receptionTimes.size ≠ 0) = !l.isEmpty := by
  have hnil : st.receptionTimes.entries = [] ↔ l = [] := by
    rw [← forall_lookup_eq_none, ← forall_lookup_eq_none]
    exact forall_congr' fun g => by rw [← congrFun h g]; rfl
  cases l <;> simp_all [OrdMap.size]

/-! ## Classes from the reports -/

/-- The first report of each gateway among `reports`. -/
def firstReports (reports : List (Nat × PhyPacketOutcome)) : List PhyPacketOutcome :=
  (reports.map Prod.fst).dedup.filterMap fun g => lookup g reports

/-- The class `PrintSimulationStatistics` should give packet `p` of `es`: that of the first
reports of the gateways. -/
def traceClass (es : List TimedEvent) (p : Ptr) : OutcomeClass :=
  priorityClass (firstReports (es.filterMap (outcomeOf p)))

theorem mem_firstReports {reports : List (Nat × PhyPacketOutcome)} {o : PhyPacketOutcome} :
    o ∈ firstReports reports ↔ ∃ g, lookup g reports = some o := by
  simp only [firstReports, List.mem_filterMap, List.mem_dedup, List.mem_map]
  refine ⟨fun ⟨g, _, h⟩ => ⟨g, h⟩, fun ⟨g, h⟩ => ⟨g, ?_, h⟩⟩
  by_contra hg
  rw [OrdMap.lookup_eq_none fun x hx hxg => hg ⟨x, hx, hxg⟩] at h
  cases h

theorem priorityClass_congr {l₁ l₂ : List PhyPacketOutcome} (h : ∀ o, o ∈ l₁ ↔ o ∈ l₂) :
    priorityClass l₁ = priorityClass l₂ := by
  simp only [priorityClass, h]

/-- A record whose outcomes are the first reports of `reports` has their class. -/
theorem priorityClass_values {st : PacketStatus} {reports : List (Nat × PhyPacketOutcome)}
    (h : st.outcomes.find? = fun g => lookup g reports) :
    priorityClass st.outcomes.values = priorityClass (firstReports reports) :=
  priorityClass_congr fun o => by simp only [OrdMap.mem_values, mem_firstReports, h]

section

variable {pkt : Ptr → Packet}

theorem mem_packets_of_phyRef {es : List TimedEvent} {p : Ptr} (h : (phyRef pkt es p).isSome) :
    p ∈ packets es := by
  unfold phyRef at h
  split_ifs at h
  · exact mem_packets (fun _ _ => transmissionOf_packet) (by rwa [Option.isSome_map'] at h)
  · cases h

theorem mem_packets_of_macRef {es : List TimedEvent} {p : Ptr} (h : (macRef pkt es p).isSome) :
    p ∈ packets es := by
  unfold macRef at h
  split_ifs at h
  · exact mem_packets (fun _ _ => macTransmissionOf_packet) (by rwa [Option.isSome_map'] at h)
  · cases h

theorem phyRef_outcome {es : List TimedEvent} {p : Ptr} {r : PhyRecord}
    (h : phyRef pkt es p = some r) :
    r.outcome = fun g => lookup g (es.filterMap (outcomeOf p)) := by
  unfold phyRef at h
  split_ifs at h
  obtain ⟨_, -, rfl⟩ := Option.map_eq_some'.1 h
  rfl

theorem macRef_receptionTime {es : List TimedEvent} {p : Ptr} {r : MacRecord}
    (h : macRef pkt es p = some r) :
    r.receptionTime = fun g => lookup g (es.filterMap (receptionOf p)) := by
  unfold macRef at h
  split_ifs at h
  obtain ⟨_, -, rfl⟩ := Option.map_eq_some'.1 h
  rfl

variable (pkt)

/-- The number of packets of `es` whose reference PHY record was sent in the window and
satisfies `f`. -/
def tracePhyCount (es : List TimedEvent) (startTime stopTime : Time) (f : PhyRecord → Bool) :
    Nat :=
  (packets es).countP fun p =>
    (phyRef pkt es p).any fun r => inWindow startTime stopTime r.sendTime && f r

/-- `(sent, received)` over the packets of `es`: those whose first MAC transmission falls in the
window from a sender that `select` keeps, and those of them that some gateway received. -/
def traceMacCounts (es : List TimedEvent) (startTime stopTime : Time) (select : Nat → Bool) :
    Nat × Nat :=
  ((packets es).countP fun p =>
      (macRef pkt es p).any fun r => inWindow startTime stopTime r.sendTime && select r.senderId,
    (packets es).countP fun p =>
      (macRef pkt es p).any fun r => inWindow startTime stopTime r.sendTime && select r.senderId &&
        !(es.filterMap (receptionOf p)).isEmpty)

variable {pkt}

/-! ## The maps through the reference -/

section

variable {s : LoraPacketTracker} {es : List TimedEvent} (hs : s.view = firstWins pkt es)
include hs

/-- A record of the PHY map, with its class, is the reference's record of the packet with the
class of the run's first reports. -/
theorem find?_packetTracker (p : Ptr) :
    (s.packetTracker.find? p).map (fun st => (st.view, priorityClass st.outcomes.values)) =
      (phyRef pkt es p).map fun r => (r, traceClass es p) := by
  have hp : (s.packetTracker.find? p).map PacketStatus.view = phyRef pkt es p :=
    congrFun (congrArg TrackerView.phy hs) p
  rw [← hp]
  cases hf : s.packetTracker.find? p with
  | none => rfl
  | some st =>
    rw [hf] at hp
    simp only [Option.map_some', traceClass, priorityClass_values (phyRef_outcome hp.symm)]

theorem mem_packets_of_packetTracker {p : Ptr} (h : (s.packetTracker.find? p).isSome) :
    p ∈ packets es := by
  have hp : (s.packetTracker.find? p).map PacketStatus.view = phyRef pkt es p :=
    congrFun (congrArg TrackerView.phy hs) p
  exact mem_packets_of_phyRef (by rw [← hp, Option.isSome_map']; exact h)

/-- A count over the PHY map, by record and class, is a count over the packets of the run. -/
theorem countP_packetTracker (f : PhyRecord × OutcomeClass → Bool) :
    s.packetTracker.values.countP (fun st => f (st.view, priorityClass st.outcomes.values)) =
      (packets es).countP fun p => (phyRef pkt es p).any fun r => f (r, traceClass es p) := by
  have hsub : ∀ p, ((phyRef pkt es p).map fun r => (r, traceClass es p)).isSome →
      p ∈ packets es :=
    fun p h => mem_packets_of_phyRef (by rwa [Option.isSome_map'] at h)
  exact (countP_values_ref (find?_packetTracker hs) hsub f).trans
    (List.countP_congr fun p _ => by cases phyRef pkt es p <;> rfl)

/-- A sum over the PHY map's entries that `f` keeps, by record and class, of a weight of the
packet, is a sum over the packets of the run. -/
theorem sum_packetTracker {M : Type} [AddCommMonoid M] (f : PhyRecord × OutcomeClass → Bool)
    (w : Ptr → M) :
    ((s.packetTracker.entries.filter fun pd => f (pd.2.view, recordClass pd)).map
        fun pd => w pd.1).sum =
      (((packets es).filter fun p => (phyRef pkt es p).any fun r => f (r, traceClass es p)).map
        w).sum := by
  refine (OrdMap.sum_filter_entries (List.nodup_dedup _)
    (fun p => mem_packets_of_packetTracker hs) (fun st =>
      f (st.view, priorityClass st.outcomes.values)) w).trans ?_
  congr 2
  exact List.filter_congr fun p _ => by
    simpa only [any_map_eq] using congrArg (Option.any f) (find?_packetTracker hs p)

theorem macPacketCounts_ref (select : Nat → Bool) (startTime stopTime : Time) :
    macPacketCounts (fun st => select st.senderId) s startTime stopTime =
      traceMacCounts pkt es startTime stopTime select := by
  have href : ∀ p, (s.macPacketTracker.find? p).map
      (fun st => (st.view, decide (st.receptionTimes.size ≠ 0))) =
        (macRef pkt es p).map fun r => (r, !(es.filterMap (receptionOf p)).isEmpty) := fun p => by
    have hp : (s.macPacketTracker.find? p).map MacPacketStatus.view = macRef pkt es p :=
      congrFun (congrArg TrackerView.mac hs) p
    rw [← hp]
    cases hf : s.macPacketTracker.find? p with
    | none => rfl
    | some st =>
      rw [hf] at hp
      simp only [Option.map_some',
        MacPacketStatus.received_eq (macRef_receptionTime hp.symm)]
  have hsub : ∀ p, ((macRef pkt es p).map
      fun r => (r, !(es.filterMap (receptionOf p)).isEmpty)).isSome → p ∈ packets es :=
    fun p h => mem_packets_of_macRef (by simpa using h)
  rw [macPacketCounts_eq, traceMacCounts]
  congr 1
  · exact (countP_values_ref href hsub fun x =>
      inWindow startTime stopTime x.1.sendTime && select x.1.senderId).trans
        (List.countP_congr fun p _ => by cases macRef pkt es p <;> rfl)
  · exact (countP_values_ref href hsub fun x =>
      inWindow startTime stopTime x.1.sendTime && select x.1.senderId && x.2).trans
        (List.countP_congr fun p _ => by cases macRef pkt es p <;> rfl)

end

/-! ## Runs -/

/-- After a causal run from the empty tracker, `CountPhyPacketsPerGw` counts the uplink packets
of the run first transmitted in the window, then those among them whose first report from `gwId`
was each outcome. -/
theorem run_countPhyPacketsPerGw (es : List TimedEvent) (hc : Causal pkt es)
    (startTime stopTime : Time) (gwId : Nat) :
    ∃ s, run pkt .empty es = .ok s ∧
      countPhyPacketsPerGw s startTime stopTime gwId =
        tracePhyCount pkt es startTime stopTime (fun _ => true) ::
          [PhyPacketOutcome.received, .interfered, .noMoreReceivers, .underSensitivity,
              .lostBecauseTx].map fun o =>
            tracePhyCount pkt es startTime stopTime fun r => decide (r.outcome gwId = some o) := by
  obtain ⟨s, hrun, hs⟩ := run_view view_empty es hc
  rw [List.nil_append] at hs
  have hcount : ∀ f : PhyRecord → Bool, (s.packetTracker.values.countP fun st =>
      inWindow startTime stopTime st.sendTime && f st.view) =
        tracePhyCount pkt es startTime stopTime f :=
    fun f => countP_packetTracker hs fun x => inWindow startTime stopTime x.1.sendTime && f x.1
  refine ⟨s, hrun, ?_⟩
  rw [countPhyPacketsPerGw_counts]
  simp only [List.map_cons, List.map_nil, List.cons.injEq, and_true]
  refine ⟨hcount fun _ => true, ?_, ?_, ?_, ?_, ?_⟩ <;>
    exact hcount fun r => decide (r.outcome gwId = some _)

theorem run_countPhyPacketsPerGw_reception :
    Causal (fun _ => ⟨true, 20, 7⟩) [⟨0, 5, .transmission 0 5⟩, ⟨1, 0, .phy .packetReception 0 0⟩] ∧
      ∃ s, run (fun _ => ⟨true, 20, 7⟩) .empty
          [⟨0, 5, .transmission 0 5⟩, ⟨1, 0, .phy .packetReception 0 0⟩] = .ok s ∧
        countPhyPacketsPerGw s 0 10 0 =
          tracePhyCount (fun _ => ⟨true, 20, 7⟩)
              [⟨0, 5, .transmission 0 5⟩, ⟨1, 0, .phy .packetReception 0 0⟩] 0 10 (fun _ => true) ::
            [PhyPacketOutcome.received, .interfered, .noMoreReceivers, .underSensitivity,
                .lostBecauseTx].map fun o =>
              tracePhyCount (fun _ => ⟨true, 20, 7⟩)
                [⟨0, 5, .transmission 0 5⟩, ⟨1, 0, .phy .packetReception 0 0⟩] 0 10
                fun r => decide (r.outcome 0 = some o) :=
  have hc : Causal (fun _ => ⟨true, 20, 7⟩)
      [⟨0, 5, .transmission 0 5⟩, ⟨1, 0, .phy .packetReception 0 0⟩] := fun i hi =>
    match i, hi with
    | 0, _ => trivial
    | 1, _ => fun _ => ⟨_, List.Mem.head _, 5, rfl⟩
  ⟨hc, run_countPhyPacketsPerGw _ hc 0 10 0⟩

/-- After a causal run from the empty tracker, `CountMacPacketsGlobally` and
`PrintDevicePackets` print the number of uplink packets whose first MAC transmission falls in
the window (from the device), then the number of those that some gateway received. -/
theorem run_countMacPacketsGlobally (es : List TimedEvent) (hc : Causal pkt es)
    (startTime stopTime : Time) :
    ∃ s, run pkt .empty es = .ok s ∧
      countMacPacketsGlobally s startTime stopTime =
        showCounts (traceMacCounts pkt es startTime stopTime fun _ => true) ∧
      ∀ devId, printDevicePackets s startTime stopTime devId =
        showCounts (traceMacCounts pkt es startTime stopTime (· == devId)) := by
  obtain ⟨s, hrun, hs⟩ := run_view view_empty es hc
  rw [List.nil_append] at hs
  exact ⟨s, hrun, congrArg showCounts (macPacketCounts_ref hs (fun _ => true) startTime stopTime),
    fun devId => congrArg showCounts (macPacketCounts_ref hs (· == devId) startTime stopTime)⟩

theorem run_countMacPacketsGlobally_reception :
    Causal (fun _ => ⟨true, 20, 7⟩) [⟨0, 5, .macTransmission 0⟩, ⟨1, 0, .macGwReception 0⟩] ∧
      ∃ s, run (fun _ => ⟨true, 20, 7⟩) .empty
          [⟨0, 5, .macTransmission 0⟩, ⟨1, 0, .macGwReception 0⟩] = .ok s ∧
        countMacPacketsGlobally s 0 10 = showCounts (traceMacCounts (fun _ => ⟨true, 20, 7⟩)
          [⟨0, 5, .macTransmission 0⟩, ⟨1, 0, .macGwReception 0⟩] 0 10 fun _ => true) ∧
        ∀ devId, printDevicePackets s 0 10 devId = showCounts (traceMacCounts
          (fun _ => ⟨true, 20, 7⟩) [⟨0, 5, .macTransmission 0⟩, ⟨1, 0, .macGwReception 0⟩] 0 10
          (· == devId)) :=
  have hc : Causal (fun _ => ⟨true, 20, 7⟩)
      [⟨0, 5, .macTransmission 0⟩, ⟨1, 0, .macGwReception 0⟩] := fun i hi =>
    match i, hi with
    | 0, _ => trivial
    | 1, _ => fun _ => ⟨_, List.Mem.head _, rfl⟩
  ⟨hc, run_countMacPacketsGlobally _ hc 0 10⟩

/-- After a causal run from the empty tracker, `CountMacPacketsGloballyCpsr` prints the number of
packets whose first retransmission summary reports a first attempt in the window, then the number
of those that succeeded. -/
theorem run_countMacPacketsGloballyCpsr (es : List TimedEvent) (hc : Causal pkt es)
    (startTime stopTime : Time) :
    ∃ s, run pkt .empty es = .ok s ∧
      countMacPacketsGloballyCpsr s startTime stopTime =
        showCounts ((packets es).countP fun p => (es.filterMap (retransmissionOf p)).head?.any
            fun r => inWindow startTime stopTime r.firstAttempt,
          (packets es).countP fun p => (es.filterMap (retransmissionOf p)).head?.any
            fun r => inWindow startTime stopTime r.firstAttempt && r.successful) := by
  obtain ⟨s, hrun, hs⟩ := run_view view_empty es hc
  rw [List.nil_append] at hs
  have href : ∀ p, (s.reTransmissionTracker.find? p).map (fun r => r) =
      (es.filterMap (retransmissionOf p)).head? := fun p => by
    rw [Option.map_id']
    exact congrFun (congrArg TrackerView.reTx hs) p
  have hsub : ∀ p, (es.filterMap (retransmissionOf p)).head?.isSome → p ∈ packets es :=
    fun _ => mem_packets fun _ _ => retransmissionOf_packet
  refine ⟨s, hrun, ?_⟩
  rw [countMacPacketsGloballyCpsr_eq]
  exact congrArg showCounts (Prod.ext
    (countP_values_ref href hsub fun r => inWindow startTime stopTime r.firstAttempt)
    (countP_values_ref href hsub fun r =>
      inWindow startTime stopTime r.firstAttempt && r.successful))

theorem run_countMacPacketsGloballyCpsr_success :
    Causal (fun _ => ⟨true, 20, 7⟩) [⟨2, 5, .requiredTransmissions 1 true 0 0⟩] ∧
      ∃ s, run (fun _ => ⟨true, 20, 7⟩) .empty [⟨2, 5, .requiredTransmissions 1 true 0 0⟩] = .ok s ∧
        countMacPacketsGloballyCpsr s 0 10 =
          showCounts ((packets [⟨2, 5, .requiredTransmissions 1 true 0 0⟩]).countP fun p =>
              ([(⟨2, 5, .requiredTransmissions 1 true 0 0⟩ : TimedEvent)].filterMap
                (retransmissionOf p)).head?.any fun r => inWindow 0 10 r.firstAttempt,
            (packets [⟨2, 5, .requiredTransmissions 1 true 0 0⟩]).countP fun p =>
              ([(⟨2, 5, .requiredTransmissions 1 true 0 0⟩ : TimedEvent)].filterMap
                (retransmissionOf p)).head?.any fun r =>
                  inWindow 0 10 r.firstAttempt && r.successful) :=
  have hc : Causal (fun _ => ⟨true, 20, 7⟩) [⟨2, 5, .requiredTransmissions 1 true 0 0⟩] :=
    fun i hi => match i, hi with
    | 0, _ => trivial
  ⟨hc, run_countMacPacketsGloballyCpsr _ hc 0 10⟩

/-! ## The statistics after a run -/

end

end Elora.Tracker
