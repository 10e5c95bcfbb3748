import Elora.Tracker.Reference

/-!
# The MAC record invariant

`MacGwReceptionCallback` keeps two accounts of a packet's receptions: the first time of each
gateway (`receptionTimes`, where a later reception from the same gateway is dropped) and the
earliest time of all (`receivedTime`, compared with every reception). `MacPacketStatus.Consistent`
says that they agree: `receivedTime` is `Time::Max ()` exactly while no gateway received the
packet, and afterwards it is the least reception time, no earlier than the transmission.

It holds because event times never decrease and stay below `Time::Max ()`: `step_macConsistent`
is the step, `run_macConsistent` the run from the empty tracker.
-/

namespace Elora.Tracker

/-- `receivedTime` is the least reception time, or `Time::Max ()` before the first one. -/
structure MacPacketStatus.Consistent (st : MacPacketStatus) : Prop where
  max_iff : st.receivedTime = timeMax ↔ st.receptionTimes.entries = []
  min_mem : st.receptionTimes.entries ≠ [] → st.receivedTime ∈ st.receptionTimes.values
  min_le : ∀ t ∈ st.receptionTimes.values, st.receivedTime ≤ t
  send_le : st.receptionTimes.entries ≠ [] → st.sendTime ≤ st.receivedTime

/-- Every time a MAC record holds is at most `T`. -/
def MacPacketStatus.Bounded (T : Time) (st : MacPacketStatus) : Prop :=
  st.sendTime ≤ T ∧ ∀ t ∈ st.receptionTimes.values, t ≤ T

theorem MacPacketStatus.Bounded.mono {T T' : Time} {st : MacPacketStatus}
    (h : st.Bounded T) (hT : T ≤ T') : st.Bounded T' :=
  ⟨le_trans h.1 hT, fun t ht => le_trans (h.2 t ht) hT⟩

theorem MacPacketStatus.consistent_fresh (now : Time) (context : Nat) :
    (⟨now, timeMax, context, .empty⟩ : MacPacketStatus).Consistent where
  max_iff := iff_of_true rfl rfl
  min_mem h := absurd rfl h
  min_le _ ht := absurd ht (List.not_mem_nil _)
  send_le h := absurd rfl h

theorem MacPacketStatus.Consistent.receive {st : MacPacketStatus} {T now : Time} {context : Nat}
    (hc : st.Consistent) (hb : st.Bounded T) (hT : T ≤ now) (hmax : now < timeMax) :
    (st.receive context now).Consistent ∧ (st.receive context now).Bounded now := by
  have hvals : ∀ t, t ∈ (st.receive context now).receptionTimes.values ↔
      t ∈ st.receptionTimes.values ∨ st.receptionTimes.find? context = none ∧ t = now :=
    fun t => OrdMap.mem_values_insert
  have hne : (st.receive context now).receptionTimes.entries ≠ [] := by
    rw [Ne, ← OrdMap.values_eq_nil]
    cases hf : st.receptionTimes.find? context with
    | none => exact List.ne_nil_of_mem ((hvals now).2 (.inr ⟨hf, rfl⟩))
    | some t => exact List.ne_nil_of_mem ((hvals t).2 (.inl (OrdMap.mem_values.2 ⟨context, hf⟩)))
  have hmin := st.receive_receivedTime context now
  by_cases he : st.receptionTimes.entries = []
  · have hrt : st.receivedTime = timeMax := hc.max_iff.2 he
    have hnil : st.receptionTimes.values = [] := OrdMap.values_eq_nil.2 he
    have hr : (st.receive context now).receivedTime = now := by
      rw [hmin, hrt]; exact min_eq_right (le_of_lt hmax)
    have hv : ∀ t, t ∈ (st.receive context now).receptionTimes.values → t = now := fun t ht =>
      (((hvals t).1 ht).resolve_left (by simp [hnil])).2
    refine ⟨⟨iff_of_false (by rw [hr]; exact ne_of_lt hmax) hne, fun _ => ?_,
      fun t ht => by rw [hr, hv t ht], fun _ => by rw [hr]; exact le_trans hb.1 hT⟩,
      le_trans hb.1 hT, fun t ht => le_of_eq (hv t ht)⟩
    obtain ⟨t, ht⟩ := List.exists_mem_of_ne_nil _ (mt OrdMap.values_eq_nil.1 hne)
    obtain rfl := hv t ht
    rw [hr]; exact ht
  · have hle : st.receivedTime ≤ now := le_trans (hb.2 _ (hc.min_mem he)) hT
    have hr : (st.receive context now).receivedTime = st.receivedTime := by
      rw [hmin]; exact min_eq_left hle
    refine ⟨⟨iff_of_false (fun h => he (hc.max_iff.1 (hr ▸ h))) hne,
      fun _ => hr ▸ (hvals _).2 (.inl (hc.min_mem he)), fun t ht => ?_,
      fun _ => hr ▸ hc.send_le he⟩, le_trans hb.1 hT, fun t ht => ?_⟩
    · rcases (hvals t).1 ht with ht | ⟨-, rfl⟩
      · exact hr ▸ hc.min_le t ht
      · exact hr ▸ hle
    · rcases (hvals t).1 ht with ht | ⟨-, rfl⟩
      · exact le_trans (hb.2 t ht) hT
      · exact le_refl _

/-! ## Steps and runs -/

section

variable {pkt : Ptr → Packet}

/-- Everything a step can do to the MAC map: nothing, a fresh record for an uplink packet, or a
reception on a packet that has a record. -/
theorem step_macPacketTracker {s s' : LoraPacketTracker} {e : TimedEvent}
    (h : step pkt s e = .ok s') :
    s'.macPacketTracker = s.macPacketTracker ∨
      (∃ q, e.event = .macTransmission q ∧ isUplink pkt q = true ∧
        s'.macPacketTracker = s.macPacketTracker.insert q ⟨e.now, timeMax, e.context, .empty⟩) ∨
      ∃ q st, e.event = .macGwReception q ∧ s.macPacketTracker.find? q = some st ∧
        s'.macPacketTracker = s.macPacketTracker.modify q (·.receive e.context e.now) := by
  obtain ⟨now, context, ev⟩ := e
  cases ev with
  | transmission q edId => cases h; exact .inl (by simp)
  | phy cb q gwId =>
    simp only [step, callback_eq, phyOutcomeCallback] at h
    split_ifs at h
    · split at h
      · cases h; exact .inl rfl
      · cases h
    · cases h; exact .inl rfl
  | macTransmission q =>
    cases h
    by_cases hu : isUplink pkt q = true
    · exact .inr (.inl ⟨q, rfl, hu, by simp [hu]⟩)
    · exact .inl (by simp [hu])
  | macGwReception q =>
    simp only [step, macGwReceptionCallback] at h
    split_ifs at h
    · split at h
      · next st hst => cases h; exact .inr (.inr ⟨q, st, rfl, hst, rfl⟩)
      · cases h
    · cases h; exact .inl rfl
  | requiredTransmissions reqTx success firstAttempt q => cases h; exact .inl rfl

/-- Every MAC record is consistent and holds no time after `T`. -/
def MacConsistent (T : Time) (s : LoraPacketTracker) : Prop :=
  ∀ p st, s.macPacketTracker.find? p = some st → st.Consistent ∧ st.Bounded T

theorem step_macConsistent {s s' : LoraPacketTracker} {e : TimedEvent} {T : Time}
    (h : step pkt s e = .ok s') (hs : MacConsistent T s) (hT : T ≤ e.now)
    (hmax : e.now < timeMax) : MacConsistent e.now s' := by
  intro p st' hp
  rcases step_macPacketTracker h with h | ⟨q, -, -, h⟩ | ⟨q, st, -, hst, h⟩ <;> rw [h] at hp
  · exact (hs p st' hp).imp_right (·.mono hT)
  · cases hf : s.macPacketTracker.find? p with
    | some st =>
      simp only [OrdMap.find?_insert, hf, Option.or_some, Option.some.injEq] at hp
      subst hp
      exact (hs p _ hf).imp_right (·.mono hT)
    | none =>
      by_cases hpq : p = q
      · subst hpq
        simp only [OrdMap.find?_insert, hf, if_true, Option.none_or, Option.some.injEq] at hp
        subst hp
        exact ⟨MacPacketStatus.consistent_fresh _ _, le_refl _,
          fun t ht => absurd ht (List.not_mem_nil _)⟩
      · simp [hf, hpq] at hp
  · rw [OrdMap.find?_modify] at hp
    split_ifs at hp with hpq
    · subst hpq
      rw [hst] at hp
      cases hp
      exact (hs p st hst).1.receive (hs p st hst).2 hT hmax
    · exact (hs p st' hp).imp_right (·.mono hT)

theorem run_macConsistent_of {s s' : LoraPacketTracker} {T : Time} (hs : MacConsistent T s) :
    ∀ es : List TimedEvent, (∀ e ∈ es, T ≤ e.now ∧ e.now < timeMax) →
      (es.map TimedEvent.now).Sorted (· ≤ ·) → run pkt s es = .ok s' →
      ∀ p st, s'.macPacketTracker.find? p = some st → st.Consistent
  | [], _, _, h => by cases h; exact fun p st hp => (hs p st hp).1
  | e :: es, ht, hsort, h => by
    obtain ⟨s₁, h₁, h'⟩ := Result.bind_eq_ok.1 h
    rw [List.map_cons, List.sorted_cons] at hsort
    have ht₁ := ht e (List.mem_cons_self _ _)
    refine run_macConsistent_of (step_macConsistent h₁ hs ht₁.1 ht₁.2) es (fun e' he' => ?_)
      hsort.2 h'
    exact ⟨hsort.1 _ (List.mem_map_of_mem _ he'), (ht e' (List.mem_cons_of_mem _ he')).2⟩

/-- From the empty tracker, a causal run whose times never decrease and stay below
`Time::Max ()` never aborts, and every MAC record it leaves is consistent. -/
theorem run_macConsistent (es : List TimedEvent) (hc : Causal pkt es)
    (hsort : (es.map TimedEvent.now).Sorted (· ≤ ·)) (hmax : ∀ e ∈ es, e.now < timeMax) :
    ∃ s, run pkt .empty es = .ok s ∧
      ∀ p st, s.macPacketTracker.find? p = some st → st.Consistent := by
  obtain ⟨s, hs, -⟩ := run_view view_empty es hc
  refine ⟨s, hs, ?_⟩
  cases es with
  | nil => cases hs; intro p st hp; cases hp
  | cons e es =>
    refine run_macConsistent_of (T := e.now) (fun _ _ hp => by cases hp) _ (fun e' he' => ⟨?_,
      hmax e' he'⟩) hsort hs
    rcases List.mem_cons.1 he' with rfl | he'
    · exact le_refl _
    · exact (List.sorted_cons.1 hsort).1 _ (List.mem_map_of_mem _ he')

/-- A packet sent at time 0 and received twice by gateway 1. -/
theorem run_macConsistent_twice :
    Causal (fun _ => ⟨true, 20, 7⟩)
        [⟨0, 7, .macTransmission 0⟩, ⟨5, 1, .macGwReception 0⟩, ⟨6, 1, .macGwReception 0⟩] ∧
      List.Sorted (· ≤ ·) (List.map TimedEvent.now
        [⟨0, 7, .macTransmission 0⟩, ⟨5, 1, .macGwReception 0⟩, ⟨6, 1, .macGwReception 0⟩]) ∧
      (∀ e ∈ ([⟨0, 7, .macTransmission 0⟩, ⟨5, 1, .macGwReception 0⟩,
        ⟨6, 1, .macGwReception 0⟩] : List TimedEvent), e.now < timeMax) ∧
      ∃ s, run (fun _ => ⟨true, 20, 7⟩) .empty
          [⟨0, 7, .macTransmission 0⟩, ⟨5, 1, .macGwReception 0⟩, ⟨6, 1, .macGwReception 0⟩] =
            .ok s ∧ ∀ p st, s.macPacketTracker.find? p = some st → st.Consistent :=
  have hc : Causal (fun _ => ⟨true, 20, 7⟩)
      [⟨0, 7, .macTransmission 0⟩, ⟨5, 1, .macGwReception 0⟩, ⟨6, 1, .macGwReception 0⟩] :=
    fun i hi => match i, hi with
      | 0, _ => trivial
      | 1, _ => fun _ => ⟨_, List.Mem.head _, rfl⟩
      | 2, _ => fun _ => ⟨_, List.Mem.head _, rfl⟩
  have hsort : List.Sorted (· ≤ ·) (List.map TimedEvent.now
      [⟨0, 7, .macTransmission 0⟩, ⟨5, 1, .macGwReception 0⟩, ⟨6, 1, .macGwReception 0⟩]) := by
    decide
  have hmax : ∀ e ∈ ([⟨0, 7, .macTransmission 0⟩, ⟨5, 1, .macGwReception 0⟩,
      ⟨6, 1, .macGwReception 0⟩] : List TimedEvent), e.now < timeMax := by
    simp [timeMax]
  ⟨hc, hsort, hmax, run_macConsistent _ hc hsort hmax⟩

end

end Elora.Tracker
