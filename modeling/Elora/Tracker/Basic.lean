import Elora.Cxx

/-!
# The packet tracker and its callbacks

`LoraPacketTracker` (`helper/lora-packet-tracker.cc`) records, for every uplink packet, what the
PHY layer of each gateway did with it (`packetTracker`), when the network server's MAC layer got
it (`macPacketTracker`) and how its retransmissions ended (`reTransmissionTracker`). The maps are
keyed by the packet's address (`Ptr`); `pkt : Ptr → Packet` is the simulator's packet memory,
from which `IsUplink` and the statistics read a packet.

The trace callbacks are the tracker's only writers. `Simulator::Now ()` and
`Simulator::GetContext ()` are inputs: a `TimedEvent` carries both. `step` dispatches one event to
its callback and `run` plays a list of events from a state, stopping at the first abort or
undefined behaviour.
-/

namespace Elora.Tracker

/-- `Time::Max ()`. -/
def timeMax : Time := 2 ^ 63 - 1

/-- `Seconds (s)` for a whole number of seconds. -/
def seconds (s : Int) : Time := s * 1000000000

/-- The address of a packet object. -/
abbrev Ptr := Nat

/-- What the tracker reads of a packet object. -/
structure Packet where
  /-- `IsUplink`: the packet's `LorawanMacHeader` has an uplink message type. -/
  uplink : Bool
  /-- `Packet::GetSize ()`. -/
  size : UInt32
  /-- The spreading factor of the packet's `LoraTag`. -/
  sf : UInt8
  deriving DecidableEq, Repr

inductive PhyPacketOutcome
  | received | interfered | noMoreReceivers | underSensitivity | lostBecauseTx | unset
  deriving DecidableEq, Repr

structure PacketStatus where
  sendTime : Time
  senderId : Nat
  outcomes : OrdMap Nat PhyPacketOutcome
  deriving DecidableEq

structure MacPacketStatus where
  sendTime : Time
  receivedTime : Time
  senderId : Nat
  receptionTimes : OrdMap Nat Time
  deriving DecidableEq

structure RetransmissionStatus where
  firstAttempt : Time
  finishTime : Time
  reTxAttempts : UInt8
  successful : Bool
  deriving DecidableEq, Repr

structure LoraPacketTracker where
  packetTracker : OrdMap Ptr PacketStatus
  macPacketTracker : OrdMap Ptr MacPacketStatus
  reTransmissionTracker : OrdMap Ptr RetransmissionStatus
  deriving DecidableEq

def LoraPacketTracker.empty : LoraPacketTracker := ⟨.empty, .empty, .empty⟩

/-! ## Events -/

/-- The five PHY callbacks that report what a gateway did with a packet. -/
inductive PhyCallback
  | packetReception | interference | noMoreReceivers | underSensitivity | lostBecauseTx
  deriving DecidableEq, Repr

/-- The outcome each PHY callback records. -/
def PhyCallback.outcome : PhyCallback → PhyPacketOutcome
  | packetReception => .received
  | interference => .interfered
  | noMoreReceivers => .noMoreReceivers
  | underSensitivity => .underSensitivity
  | lostBecauseTx => .lostBecauseTx

inductive TrackerEvent
  | transmission (packet : Ptr) (edId : Nat)
  | phy (cb : PhyCallback) (packet : Ptr) (gwId : Nat)
  | macTransmission (packet : Ptr)
  | macGwReception (packet : Ptr)
  | requiredTransmissions (reqTx : UInt8) (success : Bool) (firstAttempt : Time) (packet : Ptr)
  deriving DecidableEq, Repr

/-- An event with the scheduler's `Simulator::Now ()` and `Simulator::GetContext ()`. -/
structure TimedEvent where
  now : Time
  context : Nat
  event : TrackerEvent
  deriving DecidableEq, Repr

/-! ## Callbacks -/

/-- The record after a MAC reception at gateway `context`: `receptionTimes.insert` keeps an
earlier time of the same gateway, `receivedTime` takes the earlier of the two. -/
def MacPacketStatus.receive (st : MacPacketStatus) (context : Nat) (now : Time) :
    MacPacketStatus :=
  { st with receptionTimes := st.receptionTimes.insert context now,
            receivedTime := if now < st.receivedTime then now else st.receivedTime }

theorem MacPacketStatus.receive_receivedTime (st : MacPacketStatus) (context : Nat) (now : Time) :
    (st.receive context now).receivedTime = min st.receivedTime now := by
  simp only [MacPacketStatus.receive]
  split_ifs with h
  · exact (min_eq_right (le_of_lt h)).symm
  · exact (min_eq_left (not_lt.1 h)).symm

/-- The record after `outcome` at gateway `gwId`; an outcome already there stays. -/
def PacketStatus.record (st : PacketStatus) (gwId : Nat) (outcome : PhyPacketOutcome) :
    PacketStatus :=
  { st with outcomes := st.outcomes.insert gwId outcome }

section

variable (pkt : Ptr → Packet)

def isUplink (packet : Ptr) : Bool := (pkt packet).uplink

def macTransmissionCallback (s : LoraPacketTracker) (packet : Ptr) (now : Time)
    (context : Nat) : LoraPacketTracker :=
  if isUplink pkt packet then
    { s with macPacketTracker := s.macPacketTracker.insert packet ⟨now, timeMax, context, .empty⟩ }
  else s

def requiredTransmissionsCallback (s : LoraPacketTracker) (reqTx : UInt8) (success : Bool)
    (firstAttempt : Time) (packet : Ptr) (now : Time) : LoraPacketTracker :=
  let entry : RetransmissionStatus := ⟨firstAttempt, now, reqTx, success⟩
  { s with reTransmissionTracker := s.reTransmissionTracker.insert packet entry }

def macGwReceptionCallback (s : LoraPacketTracker) (packet : Ptr) (now : Time) (context : Nat) :
    Result LoraPacketTracker :=
  if isUplink pkt packet then
    match s.macPacketTracker.find? packet with
    | some _ => .ok { s with macPacketTracker := s.macPacketTracker.modify packet (·.receive context now) }
    | none => .abort "Packet not found in tracker"
  else .ok s

def transmissionCallback (s : LoraPacketTracker) (packet : Ptr) (edId : Nat) (now : Time) :
    LoraPacketTracker :=
  if isUplink pkt packet then
    { s with packetTracker := s.packetTracker.insert packet ⟨now, edId, .empty⟩ }
  else s

/-- The body shared by the five PHY outcome callbacks. The iterator of `m_packetTracker.find`
is dereferenced without a comparison with `end ()`: a packet with no record is undefined
behaviour. -/
def phyOutcomeCallback (outcome : PhyPacketOutcome) (s : LoraPacketTracker) (packet : Ptr)
    (gwId : Nat) : Result LoraPacketTracker :=
  if isUplink pkt packet then
    match s.packetTracker.find? packet with
    | some _ => .ok { s with packetTracker := s.packetTracker.modify packet (·.record gwId outcome) }
    | none => .undefined
  else .ok s

def packetReceptionCallback := phyOutcomeCallback pkt .received
def interferenceCallback := phyOutcomeCallback pkt .interfered
def noMoreReceiversCallback := phyOutcomeCallback pkt .noMoreReceivers
def underSensitivityCallback := phyOutcomeCallback pkt .underSensitivity
def lostBecauseTxCallback := phyOutcomeCallback pkt .lostBecauseTx

/-- The callback a PHY trace source is connected to. -/
def PhyCallback.callback : PhyCallback → LoraPacketTracker → Ptr → Nat → Result LoraPacketTracker
  | .packetReception => packetReceptionCallback pkt
  | .interference => interferenceCallback pkt
  | .noMoreReceivers => noMoreReceiversCallback pkt
  | .underSensitivity => underSensitivityCallback pkt
  | .lostBecauseTx => lostBecauseTxCallback pkt

def step (s : LoraPacketTracker) (e : TimedEvent) : Result LoraPacketTracker :=
  match e.event with
  | .transmission packet edId => .ok (transmissionCallback pkt s packet edId e.now)
  | .phy cb packet gwId => cb.callback pkt s packet gwId
  | .macTransmission packet => .ok (macTransmissionCallback pkt s packet e.now e.context)
  | .macGwReception packet => macGwReceptionCallback pkt s packet e.now e.context
  | .requiredTransmissions reqTx success firstAttempt packet =>
    .ok (requiredTransmissionsCallback s reqTx success firstAttempt packet e.now)

def run (s : LoraPacketTracker) : List TimedEvent → Result LoraPacketTracker
  | [] => .ok s
  | e :: es => (step pkt s e).bind fun s' => run s' es

/-! ## One lemma per callback -/

theorem callback_eq (cb : PhyCallback) : cb.callback pkt = phyOutcomeCallback pkt cb.outcome := by
  cases cb <;> rfl

theorem run_append (s : LoraPacketTracker) (es : List TimedEvent) (e : TimedEvent) :
    run pkt s (es ++ [e]) = (run pkt s es).bind fun s' => step pkt s' e := by
  induction es generalizing s with
  | nil => cases h : step pkt s e <;> simp [run, Result.bind, h]
  | cons e' es ih =>
    simp only [List.cons_append, run]
    cases step pkt s e' <;> simp [Result.bind, ih]

variable {pkt}

@[simp] theorem transmissionCallback_packetTracker (s : LoraPacketTracker) (packet : Ptr)
    (edId : Nat) (now : Time) : (transmissionCallback pkt s packet edId now).packetTracker =
      if isUplink pkt packet then s.packetTracker.insert packet ⟨now, edId, .empty⟩
      else s.packetTracker := by
  unfold transmissionCallback; split <;> rfl

@[simp] theorem transmissionCallback_macPacketTracker (s : LoraPacketTracker) (packet : Ptr)
    (edId : Nat) (now : Time) :
    (transmissionCallback pkt s packet edId now).macPacketTracker = s.macPacketTracker := by
  unfold transmissionCallback; split <;> rfl

@[simp] theorem transmissionCallback_reTransmissionTracker (s : LoraPacketTracker) (packet : Ptr)
    (edId : Nat) (now : Time) : (transmissionCallback pkt s packet edId now).reTransmissionTracker =
      s.reTransmissionTracker := by
  unfold transmissionCallback; split <;> rfl

@[simp] theorem macTransmissionCallback_packetTracker (s : LoraPacketTracker) (packet : Ptr)
    (now : Time) (context : Nat) :
    (macTransmissionCallback pkt s packet now context).packetTracker = s.packetTracker := by
  unfold macTransmissionCallback; split <;> rfl

@[simp] theorem macTransmissionCallback_macPacketTracker (s : LoraPacketTracker) (packet : Ptr)
    (now : Time) (context : Nat) : (macTransmissionCallback pkt s packet now context).macPacketTracker =
      if isUplink pkt packet then s.macPacketTracker.insert packet ⟨now, timeMax, context, .empty⟩
      else s.macPacketTracker := by
  unfold macTransmissionCallback; split <;> rfl

@[simp] theorem macTransmissionCallback_reTransmissionTracker (s : LoraPacketTracker)
    (packet : Ptr) (now : Time) (context : Nat) :
    (macTransmissionCallback pkt s packet now context).reTransmissionTracker =
      s.reTransmissionTracker := by
  unfold macTransmissionCallback; split <;> rfl

theorem phyOutcomeCallback_of_find? {s : LoraPacketTracker} {packet : Ptr} {st : PacketStatus}
    (outcome : PhyPacketOutcome) (gwId : Nat) (h : s.packetTracker.find? packet = some st) :
    phyOutcomeCallback pkt outcome s packet gwId = .ok (if isUplink pkt packet then
      { s with packetTracker := s.packetTracker.modify packet (·.record gwId outcome) } else s) := by
  unfold phyOutcomeCallback
  split_ifs <;> simp [h]

theorem macGwReceptionCallback_of_find? {s : LoraPacketTracker} {packet : Ptr}
    {st : MacPacketStatus} (now : Time) (context : Nat)
    (h : s.macPacketTracker.find? packet = some st) :
    macGwReceptionCallback pkt s packet now context = .ok (if isUplink pkt packet then
      { s with macPacketTracker := s.macPacketTracker.modify packet (·.receive context now) }
      else s) := by
  unfold macGwReceptionCallback
  split_ifs <;> simp [h]

end

end Elora.Tracker
