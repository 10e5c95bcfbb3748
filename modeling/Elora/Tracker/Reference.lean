import Elora.Tracker.Basic

/-!
# The tracker against its first-wins reference

`firstWins es` says what the tracker should hold after the events `es`, without running them: a
record for every uplink packet that was transmitted, with the time and sender of its first
`TransmissionCallback`, and at each gateway the outcome of the first report from that gateway; a
MAC record with the first reception time of each gateway and the earliest reception of all; the
first retransmission summary of each packet. `LoraPacketTracker.view` reads the tracker's maps as
functions; it is injective (`view_injective`), so a state is determined by its view.

* `run_firstWins`: a run from the empty tracker in which every report on an uplink packet comes
  after that packet's transmission (`Causal`) never aborts and ends in the reference.
* `phyOutcomeCallback_unknown`: each PHY outcome callback on a packet with no record is undefined
  behaviour, where `MacGwReceptionCallback` aborts (`macGwReceptionCallback_unknown`).
-/

namespace Elora.Tracker

/-! ## Views -/

/-- A `PacketStatus` with its outcome map read as a function. -/
structure PhyRecord where
  sendTime : Time
  senderId : Nat
  outcome : Nat → Option PhyPacketOutcome

/-- A `MacPacketStatus` with its reception map read as a function. -/
structure MacRecord where
  sendTime : Time
  receivedTime : Time
  senderId : Nat
  receptionTime : Nat → Option Time

structure TrackerView where
  phy : Ptr → Option PhyRecord
  mac : Ptr → Option MacRecord
  reTx : Ptr → Option RetransmissionStatus

def PacketStatus.view (st : PacketStatus) : PhyRecord :=
  ⟨st.sendTime, st.senderId, st.outcomes.find?⟩

def MacPacketStatus.view (st : MacPacketStatus) : MacRecord :=
  ⟨st.sendTime, st.receivedTime, st.senderId, st.receptionTimes.find?⟩

def LoraPacketTracker.view (s : LoraPacketTracker) : TrackerView :=
  ⟨fun p => (s.packetTracker.find? p).map PacketStatus.view,
    fun p => (s.macPacketTracker.find? p).map MacPacketStatus.view,
    s.reTransmissionTracker.find?⟩

theorem PacketStatus.view_injective : Function.Injective PacketStatus.view := by
  rintro ⟨t, i, o⟩ ⟨t', i', o'⟩ h
  simp only [PacketStatus.view, PhyRecord.mk.injEq] at h
  obtain ⟨rfl, rfl, h⟩ := h
  rw [OrdMap.ext (congrFun h)]

theorem MacPacketStatus.view_injective : Function.Injective MacPacketStatus.view := by
  rintro ⟨t, r, i, o⟩ ⟨t', r', i', o'⟩ h
  simp only [MacPacketStatus.view, MacRecord.mk.injEq] at h
  obtain ⟨rfl, rfl, rfl, h⟩ := h
  rw [OrdMap.ext (congrFun h)]

theorem view_injective : Function.Injective LoraPacketTracker.view := by
  rintro ⟨a, b, c⟩ ⟨a', b', c'⟩ h
  simp only [LoraPacketTracker.view, TrackerView.mk.injEq] at h
  obtain ⟨ha, hb, hc⟩ := h
  congr 1 <;> ext1 p
  · exact Option.map_injective PacketStatus.view_injective (congrFun ha p)
  · exact Option.map_injective MacPacketStatus.view_injective (congrFun hb p)
  · exact congrFun hc p

/-! ## The reference -/

/-- The time and sender of a `TransmissionCallback` of `p`. -/
def transmissionOf (p : Ptr) (e : TimedEvent) : Option (Time × Nat) :=
  match e.event with
  | .transmission q edId => if q = p then some (e.now, edId) else none
  | _ => none

/-- The gateway and outcome of a PHY outcome callback on `p`. -/
def outcomeOf (p : Ptr) (e : TimedEvent) : Option (Nat × PhyPacketOutcome) :=
  match e.event with
  | .phy cb q gwId => if q = p then some (gwId, cb.outcome) else none
  | _ => none

/-- The time and context of a `MacTransmissionCallback` of `p`. -/
def macTransmissionOf (p : Ptr) (e : TimedEvent) : Option (Time × Nat) :=
  match e.event with
  | .macTransmission q => if q = p then some (e.now, e.context) else none
  | _ => none

/-- The gateway and time of a `MacGwReceptionCallback` on `p`. -/
def receptionOf (p : Ptr) (e : TimedEvent) : Option (Nat × Time) :=
  match e.event with
  | .macGwReception q => if q = p then some (e.context, e.now) else none
  | _ => none

/-- The summary a `RequiredTransmissionsCallback` on `p` reports. -/
def retransmissionOf (p : Ptr) (e : TimedEvent) : Option RetransmissionStatus :=
  match e.event with
  | .requiredTransmissions reqTx success firstAttempt q =>
    if q = p then some ⟨firstAttempt, e.now, reqTx, success⟩ else none
  | _ => none

section

variable (pkt : Ptr → Packet)

/-- The PHY record of `p`: its first transmission, and the first report of each gateway. -/
def phyRef (es : List TimedEvent) (p : Ptr) : Option PhyRecord :=
  if isUplink pkt p then
    (es.filterMap (transmissionOf p)).head?.map fun (t, edId) =>
      ⟨t, edId, fun g => lookup g (es.filterMap (outcomeOf p))⟩
  else none

/-- The MAC record of `p`: its first MAC transmission, the earliest of its receptions and the
first reception at each gateway. -/
def macRef (es : List TimedEvent) (p : Ptr) : Option MacRecord :=
  if isUplink pkt p then
    (es.filterMap (macTransmissionOf p)).head?.map fun (t, context) =>
      ⟨t, ((es.filterMap (receptionOf p)).map Prod.snd).foldl min timeMax, context,
        fun g => lookup g (es.filterMap (receptionOf p))⟩
  else none

/-- What the tracker should hold after `es`: the first report wins. -/
def firstWins (es : List TimedEvent) : TrackerView :=
  ⟨phyRef pkt es, macRef pkt es, fun p => (es.filterMap (retransmissionOf p)).head?⟩

/-- `e` is no report on an uplink packet whose transmission is not in `pre`. -/
def Preceded (pre : List TimedEvent) (e : TimedEvent) : Prop :=
  match e.event with
  | .phy _ p _ => isUplink pkt p → ∃ e' ∈ pre, ∃ edId, e'.event = .transmission p edId
  | .macGwReception p => isUplink pkt p → ∃ e' ∈ pre, e'.event = .macTransmission p
  | _ => True

/-- Every event of the run is `Preceded` by the events before it. -/
def Causal (es : List TimedEvent) : Prop :=
  ∀ i (h : i < es.length), Preceded pkt (es.take i) es[i]

variable {pkt}

theorem Causal.of_append {l₁ l₂ : List TimedEvent} (h : Causal pkt (l₁ ++ l₂)) :
    Causal pkt l₁ := fun i hi => by
  have := h i (by simp; omega)
  rwa [List.take_append_of_le_length (by omega), List.getElem_append_left hi] at this

theorem Causal.preceded {es rest : List TimedEvent} {e : TimedEvent}
    (h : Causal pkt (es ++ e :: rest)) : Preceded pkt es e := by
  simpa [List.getElem_append_right] using h es.length (by simp)

/-- In a causal run, an uplink packet that was never transmitted has no PHY report. -/
theorem Causal.outcomes_nil {es : List TimedEvent} {p : Ptr} (hc : Causal pkt es)
    (hu : isUplink pkt p = true) (ht : es.filterMap (transmissionOf p) = []) :
    es.filterMap (outcomeOf p) = [] := by
  rw [List.filterMap_eq_nil_iff] at ht ⊢
  intro e he
  obtain ⟨i, hi, rfl⟩ := List.mem_iff_getElem.1 he
  have hpre := hc i hi
  unfold outcomeOf
  unfold Preceded at hpre
  split
  · next cb q gwId hev =>
    rw [hev] at hpre
    split_ifs with hq
    · subst hq
      obtain ⟨e', he', edId, hev'⟩ := hpre hu
      have := ht e' (List.mem_of_mem_take he')
      simp [transmissionOf, hev'] at this
    · rfl
  · rfl

/-- In a causal run, an uplink packet that the MAC layer never sent has no MAC reception. -/
theorem Causal.receptions_nil {es : List TimedEvent} {p : Ptr} (hc : Causal pkt es)
    (hu : isUplink pkt p = true) (ht : es.filterMap (macTransmissionOf p) = []) :
    es.filterMap (receptionOf p) = [] := by
  rw [List.filterMap_eq_nil_iff] at ht ⊢
  intro e he
  obtain ⟨i, hi, rfl⟩ := List.mem_iff_getElem.1 he
  have hpre := hc i hi
  unfold receptionOf
  unfold Preceded at hpre
  split
  · next q hev =>
    rw [hev] at hpre
    split_ifs with hq
    · subst hq
      obtain ⟨e', he', hev'⟩ := hpre hu
      have := ht e' (List.mem_of_mem_take he')
      simp [macTransmissionOf, hev'] at this
    · rfl
  · rfl


/-! ## One step -/

theorem phyRef_eq_none {es : List TimedEvent} {p : Ptr} (hu : isUplink pkt p = true)
    (h : phyRef pkt es p = none) : es.filterMap (transmissionOf p) = [] := by
  simpa [phyRef, hu] using h

theorem view_transmissionCallback {s : LoraPacketTracker} {es : List TimedEvent} {e : TimedEvent}
    {q : Ptr} {edId : Nat} (hs : s.view = firstWins pkt es) (hc : Causal pkt es)
    (he : e.event = .transmission q edId) :
    (transmissionCallback pkt s q edId e.now).view = firstWins pkt (es ++ [e]) := by
  simp only [LoraPacketTracker.view, firstWins, TrackerView.mk.injEq] at hs ⊢
  obtain ⟨hphy, hmac, hre⟩ := hs
  have hmac' : macRef pkt (es ++ [e]) = macRef pkt es := by
    ext1 p; simp [macRef, he, macTransmissionOf, receptionOf]
  refine ⟨funext fun p => ?_, by simpa [hmac'] using hmac, by simpa [he, retransmissionOf] using hre⟩
  have hp := congrFun hphy p
  simp only [transmissionCallback_packetTracker]
  by_cases hpq : p = q ∧ isUplink pkt q = true
  · obtain ⟨rfl, hu⟩ := hpq
    cases hf : s.packetTracker.find? p with
    | none =>
      rw [hf, Option.map_none', eq_comm] at hp
      have ht := phyRef_eq_none hu hp
      simp [phyRef, hu, he, transmissionOf, outcomeOf, ht, hc.outcomes_nil hu ht, hf,
        PacketStatus.view, lookup]
    | some st =>
      simp only [hf, Option.map_some', phyRef, hu, if_true] at hp
      obtain ⟨x, hx, hx'⟩ := Option.map_eq_some'.1 hp.symm
      simp [phyRef, hu, he, transmissionOf, outcomeOf, hf, hx, ← hx']
  · have : phyRef pkt (es ++ [e]) p = phyRef pkt es p := by
      by_cases hpq' : p = q
      · subst hpq'; simp_all [phyRef]
      · simp [phyRef, he, transmissionOf, outcomeOf, Ne.symm hpq']
    rw [this, ← hp]
    split_ifs with hu
    · have : p ≠ q := fun h => hpq ⟨h, hu⟩
      simp [this, Option.or_none]
    · rfl



theorem PacketStatus.view_record (st : PacketStatus) (gwId : Nat) (o : PhyPacketOutcome) :
    (st.record gwId o).view = { st.view with
      outcome := fun g => (st.view.outcome g).or (lookup g [(gwId, o)]) } := by
  simp only [PacketStatus.record, PacketStatus.view]
  congr 1; funext g; simp [lookup]

theorem view_phyOutcomeCallback {s : LoraPacketTracker} {es : List TimedEvent} {e : TimedEvent}
    {cb : PhyCallback} {q : Ptr} {gwId : Nat} (hs : s.view = firstWins pkt es)
    (hpre : Preceded pkt es e) (he : e.event = .phy cb q gwId) :
    ∃ s', cb.callback pkt s q gwId = .ok s' ∧ s'.view = firstWins pkt (es ++ [e]) := by
  simp only [LoraPacketTracker.view, firstWins, TrackerView.mk.injEq] at hs
  obtain ⟨hphy, hmac, hre⟩ := hs
  have hmac' : macRef pkt (es ++ [e]) = macRef pkt es := by
    ext1 p; simp [macRef, he, macTransmissionOf, receptionOf]
  have hre' : (fun p => ((es ++ [e]).filterMap (retransmissionOf p)).head?) =
      fun p => (es.filterMap (retransmissionOf p)).head? := by
    simp [he, retransmissionOf]
  by_cases hu : isUplink pkt q = true
  · unfold Preceded at hpre
    rw [he] at hpre
    obtain ⟨e', he', edId, hev⟩ := hpre hu
    have ht : es.filterMap (transmissionOf q) ≠ [] := by
      rw [Ne, List.filterMap_eq_nil_iff]
      exact fun h => by simpa [transmissionOf, hev] using h e' he'
    obtain ⟨x, xs, hx⟩ := List.exists_cons_of_ne_nil ht
    have hq := congrFun hphy q
    simp only [phyRef, hu, if_true, hx, List.head?_cons, Option.map_some'] at hq
    obtain ⟨st, hst, hv⟩ := Option.map_eq_some'.1 hq
    rw [callback_eq, phyOutcomeCallback_of_find? _ _ hst, if_pos hu]
    refine ⟨_, rfl, ?_⟩
    simp only [LoraPacketTracker.view, firstWins, TrackerView.mk.injEq, hmac', hre']
    refine ⟨funext fun p => ?_, hmac, hre⟩
    by_cases hpq : p = q
    · subst hpq
      simp [phyRef, hu, hx, hst, PacketStatus.view_record, hv, he, outcomeOf, transmissionOf,
        lookup_append]
    · rw [← show phyRef pkt es p = phyRef pkt (es ++ [e]) p by
        simp [phyRef, he, outcomeOf, transmissionOf, Ne.symm hpq], ← congrFun hphy p]
      simp [hpq]
  · rw [callback_eq]
    refine ⟨s, by simp [phyOutcomeCallback, hu], ?_⟩
    simp only [LoraPacketTracker.view, firstWins, TrackerView.mk.injEq, hmac', hre']
    refine ⟨funext fun p => ?_, hmac, hre⟩
    rw [congrFun hphy p]
    by_cases hpq : p = q
    · subst hpq; simp [phyRef, hu]
    · simp [phyRef, he, outcomeOf, transmissionOf, Ne.symm hpq]



theorem MacPacketStatus.view_receive (st : MacPacketStatus) (context : Nat) (now : Time) :
    (st.receive context now).view = { st.view with
      receivedTime := min st.view.receivedTime now,
      receptionTime := fun g => (st.view.receptionTime g).or (lookup g [(context, now)]) } := by
  simp only [MacPacketStatus.view, MacPacketStatus.receive_receivedTime, MacRecord.mk.injEq,
    true_and]
  exact ⟨rfl, rfl, funext fun g => by simp [MacPacketStatus.receive, lookup]⟩

theorem macRef_eq_none {es : List TimedEvent} {p : Ptr} (hu : isUplink pkt p = true)
    (h : macRef pkt es p = none) : es.filterMap (macTransmissionOf p) = [] := by
  simpa [macRef, hu] using h

theorem view_macTransmissionCallback {s : LoraPacketTracker} {es : List TimedEvent}
    {e : TimedEvent} {q : Ptr} (hs : s.view = firstWins pkt es) (hc : Causal pkt es)
    (he : e.event = .macTransmission q) :
    (macTransmissionCallback pkt s q e.now e.context).view = firstWins pkt (es ++ [e]) := by
  simp only [LoraPacketTracker.view, firstWins, TrackerView.mk.injEq] at hs ⊢
  obtain ⟨hphy, hmac, hre⟩ := hs
  have hphy' : phyRef pkt (es ++ [e]) = phyRef pkt es := by
    ext1 p; simp [phyRef, he, transmissionOf, outcomeOf]
  refine ⟨by simpa [hphy'] using hphy, funext fun p => ?_, by simpa [he, retransmissionOf] using hre⟩
  have hp := congrFun hmac p
  simp only [macTransmissionCallback_macPacketTracker]
  by_cases hpq : p = q ∧ isUplink pkt q = true
  · obtain ⟨rfl, hu⟩ := hpq
    cases hf : s.macPacketTracker.find? p with
    | none =>
      rw [hf, Option.map_none', eq_comm] at hp
      have ht := macRef_eq_none hu hp
      simp [macRef, hu, he, macTransmissionOf, receptionOf, ht, hc.receptions_nil hu ht, hf,
        MacPacketStatus.view, lookup]
    | some st =>
      simp only [hf, Option.map_some', macRef, hu, if_true] at hp
      obtain ⟨x, hx, hx'⟩ := Option.map_eq_some'.1 hp.symm
      simp [macRef, hu, he, macTransmissionOf, receptionOf, hf, hx, ← hx']
  · have : macRef pkt (es ++ [e]) p = macRef pkt es p := by
      by_cases hpq' : p = q
      · subst hpq'; simp_all [macRef]
      · simp [macRef, he, macTransmissionOf, receptionOf, Ne.symm hpq']
    rw [this, ← hp]
    split_ifs with hu
    · have : p ≠ q := fun h => hpq ⟨h, hu⟩
      simp [this, Option.or_none]
    · rfl

theorem view_macGwReceptionCallback {s : LoraPacketTracker} {es : List TimedEvent}
    {e : TimedEvent} {q : Ptr} (hs : s.view = firstWins pkt es) (hpre : Preceded pkt es e)
    (he : e.event = .macGwReception q) :
    ∃ s', macGwReceptionCallback pkt s q e.now e.context = .ok s' ∧
      s'.view = firstWins pkt (es ++ [e]) := by
  simp only [LoraPacketTracker.view, firstWins, TrackerView.mk.injEq] at hs
  obtain ⟨hphy, hmac, hre⟩ := hs
  have hphy' : phyRef pkt (es ++ [e]) = phyRef pkt es := by
    ext1 p; simp [phyRef, he, transmissionOf, outcomeOf]
  have hre' : (fun p => ((es ++ [e]).filterMap (retransmissionOf p)).head?) =
      fun p => (es.filterMap (retransmissionOf p)).head? := by
    simp [he, retransmissionOf]
  by_cases hu : isUplink pkt q = true
  · unfold Preceded at hpre
    rw [he] at hpre
    obtain ⟨e', he', hev⟩ := hpre hu
    have ht : es.filterMap (macTransmissionOf q) ≠ [] := by
      rw [Ne, List.filterMap_eq_nil_iff]
      exact fun h => by simpa [macTransmissionOf, hev] using h e' he'
    obtain ⟨x, xs, hx⟩ := List.exists_cons_of_ne_nil ht
    have hq := congrFun hmac q
    simp only [macRef, hu, if_true, hx, List.head?_cons, Option.map_some'] at hq
    obtain ⟨st, hst, hv⟩ := Option.map_eq_some'.1 hq
    rw [macGwReceptionCallback_of_find? _ _ hst, if_pos hu]
    refine ⟨_, rfl, ?_⟩
    simp only [LoraPacketTracker.view, firstWins, TrackerView.mk.injEq, hphy', hre']
    refine ⟨hphy, funext fun p => ?_, hre⟩
    by_cases hpq : p = q
    · subst hpq
      simp [macRef, hu, hx, hst, MacPacketStatus.view_receive, hv, he, receptionOf,
        macTransmissionOf, lookup_append, List.foldl_append]
    · rw [← show macRef pkt es p = macRef pkt (es ++ [e]) p by
        simp [macRef, he, receptionOf, macTransmissionOf, Ne.symm hpq], ← congrFun hmac p]
      simp [hpq]
  · refine ⟨s, by simp [macGwReceptionCallback, hu], ?_⟩
    simp only [LoraPacketTracker.view, firstWins, TrackerView.mk.injEq, hphy', hre']
    refine ⟨hphy, funext fun p => ?_, hre⟩
    rw [congrFun hmac p]
    by_cases hpq : p = q
    · subst hpq; simp [macRef, hu]
    · simp [macRef, he, receptionOf, macTransmissionOf, Ne.symm hpq]

theorem view_requiredTransmissionsCallback {s : LoraPacketTracker} {es : List TimedEvent}
    {e : TimedEvent} {reqTx : UInt8} {success : Bool} {firstAttempt : Time} {q : Ptr}
    (hs : s.view = firstWins pkt es)
    (he : e.event = .requiredTransmissions reqTx success firstAttempt q) :
    (requiredTransmissionsCallback s reqTx success firstAttempt q e.now).view =
      firstWins pkt (es ++ [e]) := by
  simp only [LoraPacketTracker.view, firstWins, TrackerView.mk.injEq] at hs ⊢
  obtain ⟨hphy, hmac, hre⟩ := hs
  have hphy' : phyRef pkt (es ++ [e]) = phyRef pkt es := by
    ext1 p; simp [phyRef, he, transmissionOf, outcomeOf]
  have hmac' : macRef pkt (es ++ [e]) = macRef pkt es := by
    ext1 p; simp [macRef, he, macTransmissionOf, receptionOf]
  refine ⟨by simpa [hphy', requiredTransmissionsCallback] using hphy,
    by simpa [hmac', requiredTransmissionsCallback] using hmac, funext fun p => ?_⟩
  rw [List.filterMap_append, List.head?_append, ← congrFun hre p]
  by_cases hpq : p = q
  · subst hpq; simp [requiredTransmissionsCallback, he, retransmissionOf]
  · simp [requiredTransmissionsCallback, he, retransmissionOf, hpq, Ne.symm hpq, Option.or_none]

theorem step_firstWins {s : LoraPacketTracker} {es : List TimedEvent} {e : TimedEvent}
    (hs : s.view = firstWins pkt es) (hc : Causal pkt es) (hpre : Preceded pkt es e) :
    ∃ s', step pkt s e = .ok s' ∧ s'.view = firstWins pkt (es ++ [e]) := by
  obtain ⟨now, context, ev⟩ := e
  cases ev with
  | transmission q edId => exact ⟨_, rfl, view_transmissionCallback hs hc rfl⟩
  | phy cb q gwId => exact view_phyOutcomeCallback hs hpre rfl
  | macTransmission q => exact ⟨_, rfl, view_macTransmissionCallback hs hc rfl⟩
  | macGwReception q => exact view_macGwReceptionCallback hs hpre rfl
  | requiredTransmissions reqTx success firstAttempt q =>
    exact ⟨_, rfl, view_requiredTransmissionsCallback hs rfl⟩

theorem view_empty : LoraPacketTracker.empty.view = firstWins pkt [] := by
  simp only [LoraPacketTracker.view, firstWins, TrackerView.mk.injEq]
  refine ⟨funext fun p => ?_, funext fun p => ?_, rfl⟩ <;> simp [phyRef, macRef] <;> rfl

/-! ## Runs -/

/-- From a state that is the reference of `pre`, a causal continuation `es` runs to the
reference of `pre ++ es`. -/
theorem run_view {s : LoraPacketTracker} {pre : List TimedEvent}
    (hs : s.view = firstWins pkt pre) :
    ∀ es, Causal pkt (pre ++ es) → ∃ s', run pkt s es = .ok s' ∧ s'.view = firstWins pkt (pre ++ es)
  | [], _ => ⟨s, rfl, by simpa using hs⟩
  | e :: es, hc => by
    obtain ⟨s₁, h₁, hv₁⟩ := step_firstWins hs hc.of_append hc.preceded
    rw [List.append_cons] at hc ⊢
    obtain ⟨s', h', hv'⟩ := run_view hv₁ es hc
    exact ⟨s', by simp [run, h₁, h'], hv'⟩

theorem run_firstWins (es : List TimedEvent) (hc : Causal pkt es) :
    ∃ s, run pkt .empty es = .ok s ∧ s.view = firstWins pkt es :=
  run_view view_empty es hc

/-- A packet transmitted at time 0 and received at gateway 1 one nanosecond later. -/
theorem run_firstWins_reception :
    Causal (fun _ => ⟨true, 20, 7⟩) [⟨0, 0, .transmission 0 5⟩, ⟨1, 0, .phy .packetReception 0 1⟩] ∧
      ∃ s, run (fun _ => ⟨true, 20, 7⟩) .empty
          [⟨0, 0, .transmission 0 5⟩, ⟨1, 0, .phy .packetReception 0 1⟩] = .ok s ∧
        s.view = firstWins (fun _ => ⟨true, 20, 7⟩)
          [⟨0, 0, .transmission 0 5⟩, ⟨1, 0, .phy .packetReception 0 1⟩] :=
  have hc : Causal (fun _ => ⟨true, 20, 7⟩)
      [⟨0, 0, .transmission 0 5⟩, ⟨1, 0, .phy .packetReception 0 1⟩] := fun i hi =>
    match i, hi with
    | 0, _ => trivial
    | 1, _ => fun _ => ⟨_, List.Mem.head _, 5, rfl⟩
  ⟨hc, run_firstWins _ hc⟩

/-! ## Reports on a packet with no record -/

theorem phyOutcomeCallback_unknown (cb : PhyCallback) (s : LoraPacketTracker) (p : Ptr)
    (gwId : Nat) (hu : isUplink pkt p = true) (hp : s.packetTracker.find? p = none) :
    cb.callback pkt s p gwId = .undefined := by
  simp [callback_eq, phyOutcomeCallback, hu, hp]

theorem packetReceptionCallback_unknown_empty :
    isUplink (fun _ => ⟨true, 20, 7⟩) 0 = true ∧
      LoraPacketTracker.empty.packetTracker.find? 0 = none ∧
      PhyCallback.packetReception.callback (fun _ => ⟨true, 20, 7⟩) .empty 0 1 = .undefined :=
  ⟨rfl, rfl, phyOutcomeCallback_unknown _ _ _ _ rfl rfl⟩

theorem macGwReceptionCallback_unknown (s : LoraPacketTracker) (p : Ptr) (now : Time)
    (context : Nat) (hu : isUplink pkt p = true) (hp : s.macPacketTracker.find? p = none) :
    macGwReceptionCallback pkt s p now context = .abort "Packet not found in tracker" := by
  simp [macGwReceptionCallback, hu, hp]

end

end Elora.Tracker
