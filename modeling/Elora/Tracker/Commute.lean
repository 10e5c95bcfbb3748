import Elora.Tracker.Basic

/-!
# Reports from different gateways commute

Two gateways' reports on one uplink can reach the tracker in either order. Every report updates
one entry of one map: the outcome of a (packet, gateway) pair in `packetTracker`, or the reception
of a (packet, gateway) pair in `macPacketTracker`. `TimedEvent.key` names that entry. Reports on
packets with a record (`HasRecord`) and on different keys commute: `step_comm` gives one state
for both orders, whatever the times of the two reports.
-/

namespace Elora.Tracker

/-- The entry a report updates: the layer (`false` for PHY, `true` for MAC), the packet and the
gateway. -/
def TimedEvent.key (e : TimedEvent) : Option (Bool × Ptr × Nat) :=
  match e.event with
  | .phy _ packet gwId => some (false, packet, gwId)
  | .macGwReception packet => some (true, packet, e.context)
  | _ => none

/-- `e` is a report on a packet that has a record in the map it updates. -/
def HasRecord (s : LoraPacketTracker) (e : TimedEvent) : Prop :=
  match e.event with
  | .phy _ packet _ => (s.packetTracker.find? packet).isSome
  | .macGwReception packet => (s.macPacketTracker.find? packet).isSome
  | _ => False

theorem PacketStatus.record_comm (st : PacketStatus) {g₁ g₂ : Nat} (h : g₁ ≠ g₂)
    (o₁ o₂ : PhyPacketOutcome) : (st.record g₁ o₁).record g₂ o₂ = (st.record g₂ o₂).record g₁ o₁ := by
  simp only [PacketStatus.record, st.outcomes.insert_comm h]

theorem MacPacketStatus.receive_comm (st : MacPacketStatus) {c₁ c₂ : Nat} (h : c₁ ≠ c₂)
    (t₁ t₂ : Time) : (st.receive c₁ t₁).receive c₂ t₂ = (st.receive c₂ t₂).receive c₁ t₁ := by
  have : ((st.receive c₁ t₁).receive c₂ t₂).receivedTime =
      ((st.receive c₂ t₂).receive c₁ t₁).receivedTime := by
    simp only [MacPacketStatus.receive_receivedTime, min_right_comm]
  revert this
  simp only [MacPacketStatus.receive, MacPacketStatus.mk.injEq, st.receptionTimes.insert_comm h,
    and_true, true_and, imp_self]

section

variable (pkt : Ptr → Packet)

/-- The state after a report on a packet with a record. -/
def TimedEvent.update (e : TimedEvent) (s : LoraPacketTracker) : LoraPacketTracker :=
  match e.event with
  | .phy cb packet gwId =>
    if isUplink pkt packet then
      { s with packetTracker := s.packetTracker.modify packet (·.record gwId cb.outcome) }
    else s
  | .macGwReception packet =>
    if isUplink pkt packet then
      { s with macPacketTracker := s.macPacketTracker.modify packet (·.receive e.context e.now) }
    else s
  | _ => s

variable {pkt}

theorem step_of_hasRecord {s : LoraPacketTracker} {e : TimedEvent} (h : HasRecord s e) :
    step pkt s e = .ok (e.update pkt s) := by
  obtain ⟨now, context, ev⟩ := e
  cases ev with
  | phy cb packet gwId =>
    obtain ⟨st, hst⟩ := Option.isSome_iff_exists.1 h
    simp only [step, callback_eq, phyOutcomeCallback_of_find? _ _ hst, TimedEvent.update]
  | macGwReception packet =>
    obtain ⟨st, hst⟩ := Option.isSome_iff_exists.1 h
    simp only [step, macGwReceptionCallback_of_find? _ _ hst, TimedEvent.update]
  | _ => exact h.elim

theorem update_isSome (e : TimedEvent) (s : LoraPacketTracker) (p : Ptr) :
    ((e.update pkt s).packetTracker.find? p).isSome = (s.packetTracker.find? p).isSome ∧
      ((e.update pkt s).macPacketTracker.find? p).isSome =
        (s.macPacketTracker.find? p).isSome := by
  unfold TimedEvent.update
  split <;> (try split_ifs) <;> simp only [OrdMap.find?_modify_isSome, and_self]

theorem hasRecord_update {s : LoraPacketTracker} {e₂ : TimedEvent} (e₁ : TimedEvent)
    (h : HasRecord s e₂) : HasRecord (e₁.update pkt s) e₂ := by
  obtain ⟨now, context, ev⟩ := e₂
  cases ev <;> simp only [HasRecord] at h ⊢
  · rwa [(update_isSome e₁ s _).1]
  · rwa [(update_isSome e₁ s _).2]

theorem update_comm {e₁ e₂ : TimedEvent} (hk : e₁.key ≠ e₂.key) (s : LoraPacketTracker) :
    e₂.update pkt (e₁.update pkt s) = e₁.update pkt (e₂.update pkt s) := by
  obtain ⟨t₁, c₁, ev₁⟩ := e₁
  obtain ⟨t₂, c₂, ev₂⟩ := e₂
  cases ev₁ <;> cases ev₂ <;> simp only [TimedEvent.update] <;> split_ifs <;>
    simp only [TimedEvent.key, ne_eq, Option.some.injEq, Prod.mk.injEq, true_and, not_and] at hk
  all_goals first
    | rfl
    | (congr 1; apply OrdMap.modify_comm; rintro rfl st
       exact PacketStatus.record_comm st (hk rfl) _ _)
    | (congr 1; apply OrdMap.modify_comm; rintro rfl st
       exact MacPacketStatus.receive_comm st (hk rfl) _ _)

/-- Two reports on packets with records, about different entries, give the same state in
either order. -/
theorem step_comm (s : LoraPacketTracker) (e₁ e₂ : TimedEvent) (h₁ : HasRecord s e₁)
    (h₂ : HasRecord s e₂) (hk : e₁.key ≠ e₂.key) :
    ∃ s', (step pkt s e₁).bind (step pkt · e₂) = .ok s' ∧
      (step pkt s e₂).bind (step pkt · e₁) = .ok s' :=
  ⟨e₂.update pkt (e₁.update pkt s),
    by rw [step_of_hasRecord h₁, Result.ok_bind, step_of_hasRecord (hasRecord_update e₁ h₂)],
    by rw [step_of_hasRecord h₂, Result.ok_bind, step_of_hasRecord (hasRecord_update e₂ h₁),
      update_comm hk]⟩

/-- Gateways 1 and 2 report on packet 0 in either order. -/
theorem step_comm_two_gateways :
    HasRecord (transmissionCallback (fun _ => ⟨true, 20, 7⟩) .empty 0 5 0)
        ⟨1, 0, .phy .packetReception 0 1⟩ ∧
      HasRecord (transmissionCallback (fun _ => ⟨true, 20, 7⟩) .empty 0 5 0)
        ⟨2, 0, .phy .interference 0 2⟩ ∧
      TimedEvent.key ⟨1, 0, .phy .packetReception 0 1⟩ ≠ TimedEvent.key ⟨2, 0, .phy .interference 0 2⟩ ∧
      ∃ s', (step (fun _ => ⟨true, 20, 7⟩) (transmissionCallback (fun _ => ⟨true, 20, 7⟩) .empty 0 5 0)
          ⟨1, 0, .phy .packetReception 0 1⟩).bind
            (step (fun _ => ⟨true, 20, 7⟩) · ⟨2, 0, .phy .interference 0 2⟩) = .ok s' ∧
        (step (fun _ => ⟨true, 20, 7⟩) (transmissionCallback (fun _ => ⟨true, 20, 7⟩) .empty 0 5 0)
          ⟨2, 0, .phy .interference 0 2⟩).bind
            (step (fun _ => ⟨true, 20, 7⟩) · ⟨1, 0, .phy .packetReception 0 1⟩) = .ok s' :=
  ⟨rfl, rfl, by decide, step_comm _ _ _ rfl rfl (by decide)⟩

end

end Elora.Tracker
