import Elora.Tracker.Reference

/-!
# Orders of a run

Each callback of the tracker writes one entry of its state: the PHY record of a packet
(`TransmissionCallback`), one gateway's outcome in it (the PHY outcome callbacks), the MAC record
of a packet (`MacTransmissionCallback`), one gateway's reception in it (`MacGwReceptionCallback`),
or the retransmission summary of a packet (`RequiredTransmissionsCallback`). `TimedEvent.entry`
names that entry. The simulator interleaves the events of different devices and gateways as its
scheduler goes; the tracker's final state does not depend on how:

* `firstWins_congr`: the reference reads the events of each entry, in their order, and nothing
  else (`filterMap_congr_entry`, `lookup_congr_entry`); the earliest MAC reception is a minimum,
  which reads them as a multiset (`perm_of_filter_entry`).
* `run_interleave`: from any state a causal run reaches, two causal continuations that bring each
  entry the same events in the same order end in one state.
* `run_ok_iff_causal`: the orders that run from the empty tracker without abort or undefined
  behaviour are exactly the causal ones. A step that ends normally takes an event its prefix
  precedes (`Preceded.of_step`): a report on an uplink packet needs the packet's record, which only
  its transmission creates.
-/

namespace Elora.Tracker

/-- The entry of the tracker's state an event writes. -/
inductive Entry
  | phyRecord (packet : Ptr)
  | phyOutcome (packet : Ptr) (gwId : Nat)
  | macRecord (packet : Ptr)
  | macReception (packet : Ptr) (gwId : Nat)
  | retransmission (packet : Ptr)
  deriving DecidableEq, Repr

def TimedEvent.entry (e : TimedEvent) : Entry :=
  match e.event with
  | .transmission packet _ => .phyRecord packet
  | .phy _ packet gwId => .phyOutcome packet gwId
  | .macTransmission packet => .macRecord packet
  | .macGwReception packet => .macReception packet e.context
  | .requiredTransmissions _ _ _ packet => .retransmission packet

/-! ## What each report reads from an event -/

theorem transmissionOf_entry {p : Ptr} {e : TimedEvent} {x : Time × Nat}
    (h : transmissionOf p e = some x) : e.entry = .phyRecord p := by
  obtain ⟨now, context, ev⟩ := e
  cases ev <;> simp [transmissionOf] at h
  simp [TimedEvent.entry, h.1]

theorem outcomeOf_entry {p : Ptr} {e : TimedEvent} {g : Nat} {o : PhyPacketOutcome}
    (h : outcomeOf p e = some (g, o)) : e.entry = .phyOutcome p g := by
  obtain ⟨now, context, ev⟩ := e
  cases ev <;> simp [outcomeOf] at h
  simp [TimedEvent.entry, h.1, h.2.1]

theorem macTransmissionOf_entry {p : Ptr} {e : TimedEvent} {x : Time × Nat}
    (h : macTransmissionOf p e = some x) : e.entry = .macRecord p := by
  obtain ⟨now, context, ev⟩ := e
  cases ev <;> simp [macTransmissionOf] at h
  simp [TimedEvent.entry, h.1]

theorem receptionOf_entry {p : Ptr} {e : TimedEvent} {g : Nat} {t : Time}
    (h : receptionOf p e = some (g, t)) : e.entry = .macReception p g := by
  obtain ⟨now, context, ev⟩ := e
  cases ev <;> simp [receptionOf] at h
  simp [TimedEvent.entry, h.1, h.2.1]

theorem retransmissionOf_entry {p : Ptr} {e : TimedEvent} {x : RetransmissionStatus}
    (h : retransmissionOf p e = some x) : e.entry = .retransmission p := by
  obtain ⟨now, context, ev⟩ := e
  cases ev <;> simp [retransmissionOf] at h
  simp [TimedEvent.entry, h.1]

/-! ## Projections on one entry -/

/-- Dropping elements on which `f` is `none` leaves `filterMap f` as it is. -/
theorem filterMap_filter_of_some {α β : Type} {f : α → Option β} {P : α → Bool}
    (hP : ∀ a b, f a = some b → P a = true) (l : List α) :
    (l.filter P).filterMap f = l.filterMap f := by
  rw [List.filterMap_filter]
  refine List.filterMap_congr fun a _ => ?_
  cases hf : f a with
  | none => simp
  | some b => simp [hP a b hf]

/-- Dropping elements that give no pair at key `g` leaves the lookup of `g` as it is. -/
theorem lookup_filterMap_filter {α κ β : Type} [DecidableEq κ] {f : α → Option (κ × β)}
    {P : α → Bool} {g : κ} (hP : ∀ a b, f a = some (g, b) → P a = true) :
    ∀ l : List α, lookup g ((l.filter P).filterMap f) = lookup g (l.filterMap f)
  | [] => rfl
  | a :: l => by
    have ih := lookup_filterMap_filter hP l
    rw [List.filter_cons]
    cases hf : f a with
    | none => split <;> simp [hf, ih]
    | some x =>
      obtain ⟨g', b⟩ := x
      by_cases hg : g = g'
      · subst hg
        simp [hP a b hf, hf, lookup]
      · split <;> simp [hf, lookup, hg, ih]

section

variable {es₁ es₂ : List TimedEvent}
  (h : ∀ k, es₁.filter (·.entry = k) = es₂.filter (·.entry = k))
include h

/-- A projection that reads one entry only sees the same events in both lists. -/
theorem filterMap_congr_entry {β : Type} {f : TimedEvent → Option β} {k : Entry}
    (hf : ∀ e b, f e = some b → e.entry = k) : es₁.filterMap f = es₂.filterMap f := by
  have hP : ∀ e b, f e = some b → decide (e.entry = k) = true := fun e b he => by
    simpa using hf e b he
  rw [← filterMap_filter_of_some hP, h, filterMap_filter_of_some hP]

/-- A lookup that reads one entry per key sees, at each key, the same events in both lists. -/
theorem lookup_congr_entry {β : Type} {f : TimedEvent → Option (Nat × β)} {mk : Nat → Entry}
    (hf : ∀ e g b, f e = some (g, b) → e.entry = mk g) (g : Nat) :
    lookup g (es₁.filterMap f) = lookup g (es₂.filterMap f) := by
  have hP : ∀ e b, f e = some (g, b) → decide (e.entry = mk g) = true := fun e b he => by
    simpa using hf e g b he
  rw [← lookup_filterMap_filter hP, h, lookup_filterMap_filter hP]

/-- Lists with the same events on each entry are permutations of each other. -/
theorem perm_of_filter_entry : es₁.Perm es₂ :=
  List.perm_iff_count.2 fun e => by
    have hc : ∀ l : List TimedEvent, (l.filter (·.entry = e.entry)).count e = l.count e :=
      fun l => List.count_filter (p := fun x : TimedEvent => decide (x.entry = e.entry))
        (decide_eq_true rfl)
    rw [← hc, h, hc]

/-- The reference reads each entry's events in their order, and the MAC receptions of a packet
as a multiset. -/
theorem firstWins_congr (pkt : Ptr → Packet) : firstWins pkt es₁ = firstWins pkt es₂ := by
  have hmin : ∀ p, ((es₁.filterMap (receptionOf p)).map Prod.snd).foldl min timeMax =
      ((es₂.filterMap (receptionOf p)).map Prod.snd).foldl min timeMax := fun p =>
    (((perm_of_filter_entry h).filterMap _).map _).foldl_eq'
      (fun x _ y _ z => min_right_comm z x y) timeMax
  simp only [firstWins, TrackerView.mk.injEq]
  refine ⟨funext fun p => ?_, funext fun p => ?_, funext fun p => ?_⟩
  · simp only [phyRef, filterMap_congr_entry h fun _ _ => transmissionOf_entry,
      lookup_congr_entry h (fun _ _ _ => outcomeOf_entry) _]
  · simp only [macRef, filterMap_congr_entry h fun _ _ => macTransmissionOf_entry, hmin p,
      lookup_congr_entry h (fun _ _ _ => receptionOf_entry) _]
  · rw [filterMap_congr_entry h fun _ _ => retransmissionOf_entry]

end

/-! ## Runs -/

variable {pkt : Ptr → Packet}

/-- From any state a causal run reaches, two causal continuations that bring each entry the same
events, in the same order, end in one state, however the events on different entries are
interleaved. -/
theorem run_interleave {pre es₁ es₂ : List TimedEvent} {s : LoraPacketTracker}
    (hs : run pkt .empty pre = .ok s) (hc₁ : Causal pkt (pre ++ es₁))
    (hc₂ : Causal pkt (pre ++ es₂)) (h : ∀ k, es₁.filter (·.entry = k) = es₂.filter (·.entry = k)) :
    ∃ s', run pkt s es₁ = .ok s' ∧ run pkt s es₂ = .ok s' := by
  obtain ⟨s₀, hr₀, hv₀⟩ := run_view view_empty pre hc₁.of_append
  obtain rfl : s = s₀ := Result.ok.inj (hs.symm.trans hr₀)
  obtain ⟨s₁, hr₁, hv₁⟩ := run_view hv₀ es₁ hc₁
  obtain ⟨s₂, hr₂, hv₂⟩ := run_view hv₀ es₂ hc₂
  have hpre : ∀ k, (pre ++ es₁).filter (·.entry = k) = (pre ++ es₂).filter (·.entry = k) :=
    fun k => by rw [List.filter_append, List.filter_append, h]
  refine ⟨s₁, hr₁, hr₂.trans (congrArg _ (view_injective ?_))⟩
  rw [hv₁, hv₂, List.nil_append, firstWins_congr hpre]

/-- A packet's PHY and MAC transmissions and its receptions at gateways 0 and 1, delivered in two
orders. -/
theorem run_interleave_two_layers :
    Causal (fun _ => ⟨true, 20, 7⟩) [⟨0, 5, .transmission 0 5⟩, ⟨0, 5, .macTransmission 0⟩,
      ⟨1, 0, .phy .packetReception 0 1⟩, ⟨2, 1, .macGwReception 0⟩] ∧
    Causal (fun _ => ⟨true, 20, 7⟩) [⟨0, 5, .macTransmission 0⟩, ⟨0, 5, .transmission 0 5⟩,
      ⟨2, 1, .macGwReception 0⟩, ⟨1, 0, .phy .packetReception 0 1⟩] ∧
    (∀ k, [(⟨0, 5, .transmission 0 5⟩ : TimedEvent), ⟨0, 5, .macTransmission 0⟩,
        ⟨1, 0, .phy .packetReception 0 1⟩, ⟨2, 1, .macGwReception 0⟩].filter (·.entry = k) =
      [(⟨0, 5, .macTransmission 0⟩ : TimedEvent), ⟨0, 5, .transmission 0 5⟩,
        ⟨2, 1, .macGwReception 0⟩, ⟨1, 0, .phy .packetReception 0 1⟩].filter (·.entry = k)) ∧
    ∃ s, run (fun _ => ⟨true, 20, 7⟩) .empty [⟨0, 5, .transmission 0 5⟩, ⟨0, 5, .macTransmission 0⟩,
        ⟨1, 0, .phy .packetReception 0 1⟩, ⟨2, 1, .macGwReception 0⟩] = .ok s ∧
      run (fun _ => ⟨true, 20, 7⟩) .empty [⟨0, 5, .macTransmission 0⟩, ⟨0, 5, .transmission 0 5⟩,
        ⟨2, 1, .macGwReception 0⟩, ⟨1, 0, .phy .packetReception 0 1⟩] = .ok s :=
  have hc₁ : Causal (fun _ => ⟨true, 20, 7⟩) [⟨0, 5, .transmission 0 5⟩,
      ⟨0, 5, .macTransmission 0⟩, ⟨1, 0, .phy .packetReception 0 1⟩,
      ⟨2, 1, .macGwReception 0⟩] := fun i hi =>
    match i, hi with
    | 0, _ => trivial
    | 1, _ => trivial
    | 2, _ => fun _ => ⟨_, List.Mem.head _, 5, rfl⟩
    | 3, _ => fun _ => ⟨_, List.Mem.tail _ (List.Mem.head _), rfl⟩
  have hc₂ : Causal (fun _ => ⟨true, 20, 7⟩) [⟨0, 5, .macTransmission 0⟩,
      ⟨0, 5, .transmission 0 5⟩, ⟨2, 1, .macGwReception 0⟩,
      ⟨1, 0, .phy .packetReception 0 1⟩] := fun i hi =>
    match i, hi with
    | 0, _ => trivial
    | 1, _ => trivial
    | 2, _ => fun _ => ⟨_, List.Mem.head _, rfl⟩
    | 3, _ => fun _ => ⟨_, List.Mem.tail _ (List.Mem.head _), 5, rfl⟩
  have h : ∀ k, [(⟨0, 5, .transmission 0 5⟩ : TimedEvent), ⟨0, 5, .macTransmission 0⟩,
        ⟨1, 0, .phy .packetReception 0 1⟩, ⟨2, 1, .macGwReception 0⟩].filter (·.entry = k) =
      [(⟨0, 5, .macTransmission 0⟩ : TimedEvent), ⟨0, 5, .transmission 0 5⟩,
        ⟨2, 1, .macGwReception 0⟩, ⟨1, 0, .phy .packetReception 0 1⟩].filter (·.entry = k) :=
    fun k => by cases k <;> simp only [List.filter, TimedEvent.entry, reduceCtorEq, decide_False]
  ⟨hc₁, hc₂, h, run_interleave (show run _ .empty [] = .ok .empty from rfl) hc₁ hc₂ h⟩

/-! ## Which orders run -/

theorem Causal.snoc {l : List TimedEvent} {e : TimedEvent} (hc : Causal pkt l)
    (hp : Preceded pkt l e) : Causal pkt (l ++ [e]) := fun i hi => by
  rcases Nat.lt_or_ge i l.length with h | h
  · rw [List.take_append_of_le_length h.le, List.getElem_append_left h]
    exact hc i h
  · obtain rfl : i = l.length := by simp at hi; omega
    rw [List.take_left' rfl, List.getElem_append_right (le_refl _)]
    simpa using hp

theorem exists_of_head?_filterMap {α β : Type} {f : α → Option β} {l : List α}
    (h : (l.filterMap f).head?.isSome) : ∃ a ∈ l, ∃ b, f a = some b := by
  obtain ⟨b, hb⟩ := List.exists_mem_of_ne_nil _ (List.head?_isSome.1 h)
  obtain ⟨a, ha, hf⟩ := List.mem_filterMap.1 hb
  exact ⟨a, ha, b, hf⟩

/-- A packet with a reference PHY record was transmitted. -/
theorem exists_transmission_of_phyRef {l : List TimedEvent} {p : Ptr}
    (h : (phyRef pkt l p).isSome) : ∃ e ∈ l, ∃ edId, e.event = .transmission p edId := by
  unfold phyRef at h
  split_ifs at h
  · obtain ⟨⟨now, context, ev⟩, he, x, hfe⟩ :=
      exists_of_head?_filterMap (by rwa [Option.isSome_map'] at h)
    cases ev <;> simp only [transmissionOf, Option.ite_none_right_eq_some, reduceCtorEq] at hfe
    exact ⟨_, he, _, by rw [hfe.1]⟩
  · cases h

/-- A packet with a reference MAC record was sent by the MAC layer. -/
theorem exists_macTransmission_of_macRef {l : List TimedEvent} {p : Ptr}
    (h : (macRef pkt l p).isSome) : ∃ e ∈ l, e.event = .macTransmission p := by
  unfold macRef at h
  split_ifs at h
  · obtain ⟨⟨now, context, ev⟩, he, x, hfe⟩ :=
      exists_of_head?_filterMap (by rwa [Option.isSome_map'] at h)
    cases ev <;> simp only [macTransmissionOf, Option.ite_none_right_eq_some, reduceCtorEq] at hfe
    exact ⟨_, he, by rw [hfe.1]⟩
  · cases h

/-- A step that ends normally from the reference of `l` takes an event that `l` precedes: a PHY
report on an uplink packet without a record is undefined behaviour, a MAC reception aborts. -/
theorem Preceded.of_step {s s' : LoraPacketTracker} {l : List TimedEvent} {e : TimedEvent}
    (hs : s.view = firstWins pkt l) (h : step pkt s e = .ok s') : Preceded pkt l e := by
  obtain ⟨now, context, ev⟩ := e
  cases ev with
  | phy cb p gwId =>
    intro hu
    have hf : (s.packetTracker.find? p).isSome := by
      simp only [step, callback_eq, phyOutcomeCallback, hu, if_true] at h
      cases hfind : s.packetTracker.find? p with
      | none => simp only [hfind, reduceCtorEq] at h
      | some => rfl
    have hp : (s.packetTracker.find? p).map PacketStatus.view = phyRef pkt l p :=
      congrFun (congrArg TrackerView.phy hs) p
    exact exists_transmission_of_phyRef (by rw [← hp, Option.isSome_map']; exact hf)
  | macGwReception p =>
    intro hu
    have hf : (s.macPacketTracker.find? p).isSome := by
      simp only [step, macGwReceptionCallback, hu, if_true] at h
      cases hfind : s.macPacketTracker.find? p with
      | none => simp only [hfind, reduceCtorEq] at h
      | some => rfl
    have hp : (s.macPacketTracker.find? p).map MacPacketStatus.view = macRef pkt l p :=
      congrFun (congrArg TrackerView.mac hs) p
    exact exists_macTransmission_of_macRef (by rw [← hp, Option.isSome_map']; exact hf)
  | transmission | macTransmission | requiredTransmissions => trivial

theorem causal_of_run {es : List TimedEvent} : ∀ {s : LoraPacketTracker},
    run pkt .empty es = .ok s → Causal pkt es := by
  induction es using List.reverseRecOn with
  | nil => exact fun _ i hi => absurd hi (Nat.not_lt_zero _)
  | append_singleton l e ih =>
    intro s hs
    rw [run_append] at hs
    obtain ⟨s₁, h₁, h₂⟩ := Result.bind_eq_ok.1 hs
    have hc := ih h₁
    obtain ⟨s₀, h₀, hv⟩ := run_view view_empty l hc
    obtain rfl : s₁ = s₀ := Result.ok.inj (h₁.symm.trans h₀)
    exact hc.snoc (Preceded.of_step (by simpa using hv) h₂)

/-- A run from the empty tracker ends normally exactly when its order is causal: every report on
an uplink packet comes after the packet's transmission at its layer. -/
theorem run_ok_iff_causal (es : List TimedEvent) :
    (∃ s, run pkt .empty es = .ok s) ↔ Causal pkt es :=
  ⟨fun ⟨_, hs⟩ => causal_of_run hs, fun hc => (run_view view_empty es hc).imp fun _ h => h.1⟩

end Elora.Tracker
