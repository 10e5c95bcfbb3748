import Elora.Tracker.Basic

/-!
# The counting functions

`CountPhyPacketsPerGw` and `PrintPhyPacketsPerGw` run one loop over `m_packetTracker`: every
record sent in the window adds one to counter 0 and, through a `switch` on its outcome at the
gateway, one to a counter from 1 to 5. The two switches differ: `PrintPhyPacketsPerGw` sends
`LOST_BECAUSE_TX` to counter 4 and `UNDER_SENSITIVITY` to counter 5, the other way round from
`CountPhyPacketsPerGw` and from the comment both functions carry. `phyPacketCounts` is the loop
with the switch as a parameter (`countSlot`, `printSlot`).

`CountMacPacketsGlobally` and `PrintDevicePackets` run one loop over `m_macPacketTracker`,
`PrintDevicePackets` keeping only one sender's records (`macPacketCounts`).

* `phyPacketCounts_eq`: the loop's six counters are numbers of records, whatever the switch.
* `countPhyPacketsPerGw_eq`: the counters of `CountPhyPacketsPerGw`, and how they add up.
* `printPhyPacketsPerGw_eq`: `PrintPhyPacketsPerGw` prints those counters with the last two
  swapped.
* `devicePacketCounts_sum`: the per-device MAC counters add up to the global ones.

The counters are `int` in the source and natural numbers here: they are exact for fewer than
`2^31` records, which the tracker's maps, one record per packet, do not reach in a simulation.
-/

namespace Elora.Tracker

/-! ## PHY counters -/

/-- `sendTime >= startTime && sendTime <= stopTime`. -/
def inWindow (startTime stopTime sendTime : Time) : Bool :=
  decide (startTime ≤ sendTime) && decide (sendTime ≤ stopTime)

/-- `packetCounts.at (i)++`. -/
def incr (packetCounts : List Nat) (i : Nat) : List Nat := packetCounts.modify (· + 1) i

/-- The `switch` of `CountPhyPacketsPerGw`: the counter each outcome adds to. -/
def countSlot : PhyPacketOutcome → Option Nat
  | .received => some 1
  | .interfered => some 2
  | .noMoreReceivers => some 3
  | .underSensitivity => some 4
  | .lostBecauseTx => some 5
  | .unset => none

/-- The `switch` of `PrintPhyPacketsPerGw`. -/
def printSlot : PhyPacketOutcome → Option Nat
  | .received => some 1
  | .interfered => some 2
  | .noMoreReceivers => some 3
  | .lostBecauseTx => some 4
  | .underSensitivity => some 5
  | .unset => none

/-- One iteration of the loop over `m_packetTracker`, with the switch `slot`. -/
def phyCountStep (slot : PhyPacketOutcome → Option Nat) (startTime stopTime : Time) (gwId : Nat)
    (packetCounts : List Nat) (st : PacketStatus) : List Nat :=
  if inWindow startTime stopTime st.sendTime then
    let packetCounts := incr packetCounts 0
    match st.outcomes.find? gwId with
    | some outcome =>
      match slot outcome with
      | some i => incr packetCounts i
      | none => packetCounts
    | none => packetCounts
  else packetCounts

def phyPacketCounts (slot : PhyPacketOutcome → Option Nat) (s : LoraPacketTracker)
    (startTime stopTime : Time) (gwId : Nat) : List Nat :=
  s.packetTracker.values.foldl (phyCountStep slot startTime stopTime gwId) (List.replicate 6 0)

def countPhyPacketsPerGw (s : LoraPacketTracker) (startTime stopTime : Time) (gwId : Nat) :
    List Nat :=
  phyPacketCounts countSlot s startTime stopTime gwId

/-- `std::to_string (packetCounts.at (i)) + " "` for each counter in turn. -/
def render (packetCounts : List Nat) : String :=
  String.join (packetCounts.map fun c => toString c ++ " ")

def printPhyPacketsPerGw (s : LoraPacketTracker) (startTime stopTime : Time) (gwId : Nat) :
    String :=
  render (phyPacketCounts printSlot s startTime stopTime gwId)

/-- The number of records sent in the window that satisfy `p`. -/
def windowCount (s : LoraPacketTracker) (startTime stopTime : Time) (p : PacketStatus → Prop)
    [DecidablePred p] : Nat :=
  s.packetTracker.values.countP fun st => inWindow startTime stopTime st.sendTime && decide (p st)

/-- The number of records sent in the window whose outcome at `gwId` is `o`. -/
def outcomeCount (s : LoraPacketTracker) (startTime stopTime : Time) (gwId : Nat)
    (o : PhyPacketOutcome) : Nat :=
  windowCount s startTime stopTime fun st => st.outcomes.find? gwId = some o

theorem windowCount_congr {s : LoraPacketTracker} {startTime stopTime : Time}
    {p q : PacketStatus → Prop} [DecidablePred p] [DecidablePred q] (h : ∀ st, p st ↔ q st) :
    windowCount s startTime stopTime p = windowCount s startTime stopTime q := by
  simp only [windowCount, h]

section

variable {slot : PhyPacketOutcome → Option Nat} (hslot : ∀ o i, slot o = some i → 1 ≤ i ∧ i ≤ 5)
include hslot

theorem incr_six (x₀ x₁ x₂ x₃ x₄ x₅ : Nat) {o : PhyPacketOutcome} {i : Nat} (h : slot o = some i) :
    incr [x₀, x₁, x₂, x₃, x₄, x₅] i =
      [x₀, x₁ + if i = 1 then 1 else 0, x₂ + if i = 2 then 1 else 0, x₃ + if i = 3 then 1 else 0,
        x₄ + if i = 4 then 1 else 0, x₅ + if i = 5 then 1 else 0] := by
  obtain ⟨h₁, h₅⟩ := hslot o i h
  interval_cases i <;> rfl

theorem phyCountStep_eq (startTime stopTime : Time) (gwId : Nat) (x₀ x₁ x₂ x₃ x₄ x₅ : Nat)
    (st : PacketStatus) :
    phyCountStep slot startTime stopTime gwId [x₀, x₁, x₂, x₃, x₄, x₅] st =
      let hit (j : Nat) : Nat := if inWindow startTime stopTime st.sendTime &&
        decide ((st.outcomes.find? gwId).bind slot = some j) then 1 else 0
      [x₀ + if inWindow startTime stopTime st.sendTime then 1 else 0, x₁ + hit 1, x₂ + hit 2,
        x₃ + hit 3, x₄ + hit 4, x₅ + hit 5] := by
  unfold phyCountStep
  cases hw : inWindow startTime stopTime st.sendTime
  · simp
  · cases hf : st.outcomes.find? gwId with
    | none => simp [incr]
    | some o =>
      cases hs : slot o with
      | none => simp [incr, hs]
      | some i =>
        have h₀ : incr [x₀, x₁, x₂, x₃, x₄, x₅] 0 = [x₀ + 1, x₁, x₂, x₃, x₄, x₅] := rfl
        simp [h₀, hs, incr_six hslot _ _ _ _ _ _ hs]

theorem foldl_phyCountStep (startTime stopTime : Time) (gwId : Nat) :
    ∀ (l : List PacketStatus) (x₀ x₁ x₂ x₃ x₄ x₅ : Nat),
      l.foldl (phyCountStep slot startTime stopTime gwId) [x₀, x₁, x₂, x₃, x₄, x₅] =
        let n (j : Nat) : Nat := l.countP fun st => inWindow startTime stopTime st.sendTime &&
          decide ((st.outcomes.find? gwId).bind slot = some j)
        [x₀ + l.countP fun st => inWindow startTime stopTime st.sendTime, x₁ + n 1, x₂ + n 2,
          x₃ + n 3, x₄ + n 4, x₅ + n 5]
  | [], _, _, _, _, _, _ => rfl
  | st :: l, x₀, x₁, x₂, x₃, x₄, x₅ => by
    rw [List.foldl_cons, phyCountStep_eq hslot, foldl_phyCountStep]
    simp only [List.countP_cons, List.cons.injEq, and_true]
    omega

/-- The six counters of the loop are numbers of records sent in the window: all of them, then
those whose outcome at `gwId` the switch sends to counter 1 to 5. -/
theorem phyPacketCounts_eq (s : LoraPacketTracker) (startTime stopTime : Time) (gwId : Nat) :
    phyPacketCounts slot s startTime stopTime gwId =
      [windowCount s startTime stopTime fun _ => True,
        windowCount s startTime stopTime fun st => (st.outcomes.find? gwId).bind slot = some 1,
        windowCount s startTime stopTime fun st => (st.outcomes.find? gwId).bind slot = some 2,
        windowCount s startTime stopTime fun st => (st.outcomes.find? gwId).bind slot = some 3,
        windowCount s startTime stopTime fun st => (st.outcomes.find? gwId).bind slot = some 4,
        windowCount s startTime stopTime fun st =>
          (st.outcomes.find? gwId).bind slot = some 5] := by
  simp [phyPacketCounts, List.replicate, foldl_phyCountStep hslot, windowCount]

end

theorem outcome_indicators (w : Bool) (x : Option PhyPacketOutcome) :
    ((if (w && decide (x = some .received)) = true then 1 else 0) +
        (if (w && decide (x = some .interfered)) = true then 1 else 0) +
        (if (w && decide (x = some .noMoreReceivers)) = true then 1 else 0) +
        (if (w && decide (x = some .underSensitivity)) = true then 1 else 0) +
        (if (w && decide (x = some .lostBecauseTx)) = true then 1 else 0) +
        if (w && decide (x = none ∨ x = some .unset)) = true then 1 else 0) =
      if (w && decide True) = true then 1 else 0 := by
  cases w <;> rcases x with _ | ⟨_ | _ | _ | _ | _ | _⟩ <;> rfl

/-- Every record sent in the window has exactly one of six outcomes at a gateway: one of the five
that are counted, or none (no entry, or `UNSET`). -/
theorem outcomeCount_add (s : LoraPacketTracker) (startTime stopTime : Time) (gwId : Nat) :
    outcomeCount s startTime stopTime gwId .received +
        outcomeCount s startTime stopTime gwId .interfered +
        outcomeCount s startTime stopTime gwId .noMoreReceivers +
        outcomeCount s startTime stopTime gwId .underSensitivity +
        outcomeCount s startTime stopTime gwId .lostBecauseTx +
        windowCount s startTime stopTime
          (fun st => st.outcomes.find? gwId = none ∨ st.outcomes.find? gwId = some .unset) =
      windowCount s startTime stopTime fun _ => True := by
  simp only [outcomeCount, windowCount]
  induction s.packetTracker.values with
  | nil => rfl
  | cons st l ih =>
    have := outcome_indicators (inWindow startTime stopTime st.sendTime) (st.outcomes.find? gwId)
    simp only [List.countP_cons]
    omega

theorem countSlot_bounds (o : PhyPacketOutcome) (i : Nat) (h : countSlot o = some i) :
    1 ≤ i ∧ i ≤ 5 := by
  cases o <;> simp only [countSlot, Option.some.injEq, reduceCtorEq] at h <;> omega

theorem printSlot_bounds (o : PhyPacketOutcome) (i : Nat) (h : printSlot o = some i) :
    1 ≤ i ∧ i ≤ 5 := by
  cases o <;> simp only [printSlot, Option.some.injEq, reduceCtorEq] at h <;> omega

theorem windowCount_slot {slot : PhyPacketOutcome → Option Nat} {o : PhyPacketOutcome} {i : Nat}
    (hslot : ∀ o', slot o' = some i ↔ o' = o) (s : LoraPacketTracker) (startTime stopTime : Time)
    (gwId : Nat) :
    (windowCount s startTime stopTime fun st => (st.outcomes.find? gwId).bind slot = some i) =
      outcomeCount s startTime stopTime gwId o :=
  windowCount_congr fun st => by cases st.outcomes.find? gwId <;> simp [hslot]

/-- The counters `CountPhyPacketsPerGw` returns: the records sent in the window, then how many of
them have each outcome at `gwId`. -/
theorem countPhyPacketsPerGw_counts (s : LoraPacketTracker) (startTime stopTime : Time)
    (gwId : Nat) :
    countPhyPacketsPerGw s startTime stopTime gwId =
      [windowCount s startTime stopTime fun _ => True,
        outcomeCount s startTime stopTime gwId .received,
        outcomeCount s startTime stopTime gwId .interfered,
        outcomeCount s startTime stopTime gwId .noMoreReceivers,
        outcomeCount s startTime stopTime gwId .underSensitivity,
        outcomeCount s startTime stopTime gwId .lostBecauseTx] := by
  rw [countPhyPacketsPerGw, phyPacketCounts_eq countSlot_bounds]
  simp only [List.cons.injEq, and_true, true_and]
  refine ⟨?_, ?_, ?_, ?_, ?_⟩ <;>
    exact windowCount_slot (fun o' => by cases o' <;> simp [countSlot]) _ _ _ _

/-- `CountPhyPacketsPerGw` returns the number of records sent in the window, then how many of them
have each outcome at `gwId`; with the records that have none, these add up to the first. -/
theorem countPhyPacketsPerGw_eq (s : LoraPacketTracker) (startTime stopTime : Time) (gwId : Nat) :
    countPhyPacketsPerGw s startTime stopTime gwId =
        [windowCount s startTime stopTime fun _ => True,
          outcomeCount s startTime stopTime gwId .received,
          outcomeCount s startTime stopTime gwId .interfered,
          outcomeCount s startTime stopTime gwId .noMoreReceivers,
          outcomeCount s startTime stopTime gwId .underSensitivity,
          outcomeCount s startTime stopTime gwId .lostBecauseTx] ∧
      outcomeCount s startTime stopTime gwId .received +
          outcomeCount s startTime stopTime gwId .interfered +
          outcomeCount s startTime stopTime gwId .noMoreReceivers +
          outcomeCount s startTime stopTime gwId .underSensitivity +
          outcomeCount s startTime stopTime gwId .lostBecauseTx +
          windowCount s startTime stopTime
            (fun st => st.outcomes.find? gwId = none ∨ st.outcomes.find? gwId = some .unset) =
        windowCount s startTime stopTime fun _ => True :=
  ⟨countPhyPacketsPerGw_counts s startTime stopTime gwId,
    outcomeCount_add s startTime stopTime gwId⟩

/-- The counters `PrintPhyPacketsPerGw` prints. -/
theorem printPhyPacketsPerGw_counts (s : LoraPacketTracker) (startTime stopTime : Time)
    (gwId : Nat) :
    printPhyPacketsPerGw s startTime stopTime gwId =
      render [windowCount s startTime stopTime fun _ => True,
        outcomeCount s startTime stopTime gwId .received,
        outcomeCount s startTime stopTime gwId .interfered,
        outcomeCount s startTime stopTime gwId .noMoreReceivers,
        outcomeCount s startTime stopTime gwId .lostBecauseTx,
        outcomeCount s startTime stopTime gwId .underSensitivity] := by
  rw [printPhyPacketsPerGw, phyPacketCounts_eq printSlot_bounds]
  congr 1
  simp only [List.cons.injEq, and_true, true_and]
  refine ⟨?_, ?_, ?_, ?_, ?_⟩ <;>
    exact windowCount_slot (fun o' => by cases o' <;> simp [printSlot]) _ _ _ _

/-- `PrintPhyPacketsPerGw` prints the six counters `CountPhyPacketsPerGw` returns, with the
`UNDER_SENSITIVITY` and `LOST_BECAUSE_TX` counters swapped. -/
theorem printPhyPacketsPerGw_eq (s : LoraPacketTracker) (startTime stopTime : Time) (gwId : Nat) :
    ∃ x₀ x₁ x₂ x₃ x₄ x₅, countPhyPacketsPerGw s startTime stopTime gwId = [x₀, x₁, x₂, x₃, x₄, x₅] ∧
      printPhyPacketsPerGw s startTime stopTime gwId = render [x₀, x₁, x₂, x₃, x₅, x₄] :=
  ⟨_, _, _, _, _, _, countPhyPacketsPerGw_counts s startTime stopTime gwId,
    printPhyPacketsPerGw_counts s startTime stopTime gwId⟩

/-- A packet sent at time 0 that gateway 0 hears under its sensitivity: the two functions
disagree on counters 4 and 5. -/
theorem printPhyPacketsPerGw_underSensitivity :
    ∃ s, run (fun _ => ⟨true, 20, 7⟩) .empty
        [⟨0, 0, .transmission 0 5⟩, ⟨0, 0, .phy .underSensitivity 0 0⟩] = .ok s ∧
      printPhyPacketsPerGw s 0 0 0 = "1 0 0 0 0 1 " ∧
      render (countPhyPacketsPerGw s 0 0 0) = "1 0 0 0 1 0 " :=
  ⟨_, rfl, by decide, by decide⟩

/-! ## MAC counters -/

/-- The loop of `CountMacPacketsGlobally` and `PrintDevicePackets`: `(sent, received)` over the
records sent in the window that `select` keeps, a record counting as received when some gateway
received it. -/
def macPacketCounts (select : MacPacketStatus → Bool) (s : LoraPacketTracker)
    (startTime stopTime : Time) : Nat × Nat :=
  s.macPacketTracker.values.foldl (fun counts st =>
    if inWindow startTime stopTime st.sendTime && select st then
      (counts.1 + 1, if st.receptionTimes.size ≠ 0 then counts.2 + 1 else counts.2)
    else counts) (0, 0)

/-- `std::to_string (sent) + " " + std::to_string (received)`. -/
def showCounts (counts : Nat × Nat) : String := toString counts.1 ++ " " ++ toString counts.2

def countMacPacketsGlobally (s : LoraPacketTracker) (startTime stopTime : Time) : String :=
  showCounts (macPacketCounts (fun _ => true) s startTime stopTime)

def printDevicePackets (s : LoraPacketTracker) (startTime stopTime : Time) (devId : Nat) :
    String :=
  showCounts (macPacketCounts (·.senderId == devId) s startTime stopTime)

/-- `CountMacPacketsGloballyCpsr`: `(sent, received)` over the retransmission summaries whose
first attempt is in the window, a summary counting as received when it was successful. -/
def countMacPacketsGloballyCpsr (s : LoraPacketTracker) (startTime stopTime : Time) : String :=
  showCounts (s.reTransmissionTracker.values.foldl (fun counts entry =>
    if inWindow startTime stopTime entry.firstAttempt then
      (counts.1 + 1, if entry.successful then counts.2 + 1 else counts.2)
    else counts) (0, 0))

/-- The loop shape of the MAC counters: `(sent, received)` over the elements `sent` keeps,
`received` counting those of them that satisfy `recv`. -/
theorem foldl_pairCounts {α : Type} (sent : α → Bool) (recv : α → Prop) [DecidablePred recv] :
    ∀ (l : List α) (a b : Nat), l.foldl (fun counts x =>
        if sent x then (counts.1 + 1, if recv x then counts.2 + 1 else counts.2) else counts)
        (a, b) =
      (a + l.countP sent, b + l.countP fun x => sent x && decide (recv x))
  | [], _, _ => rfl
  | x :: l, a, b => by
    rw [List.foldl_cons, List.countP_cons, List.countP_cons]
    cases hs : sent x <;> by_cases hr : recv x <;>
      simp only [hs, hr, if_true, if_false, Bool.false_eq_true, Bool.true_and, Bool.false_and,
        decide_True, decide_False, foldl_pairCounts sent recv l, Prod.mk.injEq] <;> omega

theorem macPacketCounts_eq (select : MacPacketStatus → Bool) (s : LoraPacketTracker)
    (startTime stopTime : Time) :
    macPacketCounts select s startTime stopTime =
      (s.macPacketTracker.values.countP fun st =>
          inWindow startTime stopTime st.sendTime && select st,
        s.macPacketTracker.values.countP fun st =>
          inWindow startTime stopTime st.sendTime && select st &&
            decide (st.receptionTimes.size ≠ 0)) := by
  simpa only [Nat.zero_add] using foldl_pairCounts
    (fun st => inWindow startTime stopTime st.sendTime && select st)
    (fun st => st.receptionTimes.size ≠ 0) s.macPacketTracker.values 0 0

theorem countMacPacketsGloballyCpsr_eq (s : LoraPacketTracker) (startTime stopTime : Time) :
    countMacPacketsGloballyCpsr s startTime stopTime =
      showCounts (s.reTransmissionTracker.values.countP fun entry =>
          inWindow startTime stopTime entry.firstAttempt,
        s.reTransmissionTracker.values.countP fun entry =>
          inWindow startTime stopTime entry.firstAttempt && entry.successful) := by
  rw [countMacPacketsGloballyCpsr]
  simpa only [Nat.zero_add, Bool.decide_eq_true] using congrArg showCounts (foldl_pairCounts
    (fun entry => inWindow startTime stopTime entry.firstAttempt)
    (fun entry => entry.successful = true) s.reTransmissionTracker.values 0 0)

/-- Counting, over the senders `S` of a list, the elements of each sender that satisfy `q` counts
every element that satisfies `q` once. -/
theorem sum_countP_sender {α : Type} (l : List α) (f : α → Nat) (S : Finset Nat)
    (hS : ∀ x ∈ l, f x ∈ S) (q : α → Bool) :
    ∑ d ∈ S, l.countP (fun x => q x && f x == d) = l.countP q := by
  induction l with
  | nil => simp
  | cons x l ih =>
    simp only [List.countP_cons, Finset.sum_add_distrib]
    rw [ih fun y hy => hS y (List.mem_cons_of_mem _ hy)]
    cases hq : q x
    · simp
    · simp [Finset.sum_ite_eq, hS x (List.mem_cons_self _ _)]

/-- `PrintDevicePackets` over every sender in the MAC map adds up to `CountMacPacketsGlobally`,
and no device has more packets received than sent. -/
theorem devicePacketCounts_sum (s : LoraPacketTracker) (startTime stopTime : Time) :
    ∑ d ∈ (s.macPacketTracker.values.map (·.senderId)).toFinset,
        macPacketCounts (·.senderId == d) s startTime stopTime =
      macPacketCounts (fun _ => true) s startTime stopTime ∧
    ∀ d, (macPacketCounts (·.senderId == d) s startTime stopTime).2 ≤
      (macPacketCounts (·.senderId == d) s startTime stopTime).1 := by
  have hS : ∀ st ∈ s.macPacketTracker.values,
      st.senderId ∈ (s.macPacketTracker.values.map (·.senderId)).toFinset :=
    fun st hst => List.mem_toFinset.2 (List.mem_map_of_mem _ hst)
  refine ⟨Prod.ext ?_ ?_, fun d => ?_⟩
  · simp only [Prod.fst_sum, macPacketCounts_eq, Bool.and_true]
    exact sum_countP_sender _ _ _ hS _
  · simp only [Prod.snd_sum, macPacketCounts_eq, Bool.and_true]
    rw [← sum_countP_sender _ _ _ hS]
    exact Finset.sum_congr rfl fun d _ => congrArg₂ _ (funext fun st => by
      cases inWindow startTime stopTime st.sendTime <;> cases st.senderId == d <;> simp) rfl
  · rw [macPacketCounts_eq]
    exact List.countP_mono_left fun st _ h => by simp_all

end Elora.Tracker
