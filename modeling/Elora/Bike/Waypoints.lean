import Elora.Bike.Dataset
import Elora.Tracker.Basic

/-! # Bike numbers and waypoints

`createBikeNumberMap` (`helper/bike-mobility-helper.cc`) collects the bike numbers of a dataset in
a `std::set` and numbers them in the set's order. `SaveWaypoints` walks the dataset row by row
and, for each row, the whole map: the entry of the row's bike adds the row's start and end as
waypoints of the node the entry names, except at four faulty rows, and moves a row counter on.
ns-3's `WaypointMobilityModel::AddWaypoint` aborts on a waypoint that is not later than the last
one it queued, so a bike whose trips overlap, or a trip that ends when it starts, stops the loop.

* `createBikeNumberMap_entries`: the map numbers the distinct bike numbers `0, 1, …` in
  lexicographic order (`bikeNumbers`, `mem_bikeNumbers`, `bikeNumbers_sorted`).
* `addWaypoint_bind_addWaypoint`: a row's two `AddWaypoint` calls go through exactly when the
  node's queue stays in increasing time; `WaypointMobilityModel` carries that order as a field.
* `matchPairs_of_mem`: the inner loop acts once, at the row's own entry.
* `saveRows_spec`: over a map that names, for every row, a node of the container with a
  `WaypointMobilityModel`, the loop goes through exactly when every node's waypoints stay in
  increasing time (`Ascending`); then the row counter is the row's position and every node gets
  the waypoints of its rows in order. Otherwise it aborts.
* `createBikeNumberMap_saveWaypoints`: the two together, as `test_ex.cc` uses them: one node per
  bike number, each with a model of no waypoints.
* `saveWaypoints_waypointMobility`: the pointer `SaveWaypoints` returns is the mobility model of
  the node of the last row it does not skip.

`int` is read as an unbounded integer: the keys fit in an `int` for fewer than `2^31` bike
numbers, which `createBikeNumberMap_saveWaypoints` assumes, and so does the row counter for
fewer than `2^31` rows.
-/

namespace Elora.Bike

open Elora.Tracker (seconds)

/-- `ns3::Vector3D`. -/
structure Vector3D where
  x : ℚ
  y : ℚ
  z : ℚ
  deriving DecidableEq, Repr

/-- `ns3::Waypoint`. -/
structure Waypoint where
  time : Time
  position : Vector3D
  deriving DecidableEq, Repr

/-! ## `createBikeNumberMap` -/

/-- `uniqueBikeNumbers.insert (data.bikeNumber)` for each row in turn. -/
def collectBikeNumbers (uniqueBikeNumbers : OrdMap String Unit) : List BikeData → OrdMap String Unit
  | [] => uniqueBikeNumbers
  | data :: dataset => collectBikeNumbers (uniqueBikeNumbers.insert data.bikeNumber ()) dataset

/-- `myMap[bikeNumber] = key++` for each bike number in turn. -/
def assignKeys (myMap : OrdMap String Int) (key : Int) : List String → OrdMap String Int
  | [] => myMap
  | bikeNumber :: bikeNumbers => assignKeys (myMap.assign bikeNumber key) (key + 1) bikeNumbers

def createBikeNumberMap (dataset : List BikeData) : OrdMap String Int :=
  assignKeys .empty 0 ((collectBikeNumbers .empty dataset).entries.map Prod.fst)

/-- The distinct bike numbers of a dataset, in the order of the `std::set`. -/
def bikeNumbers (dataset : List BikeData) : List String :=
  (collectBikeNumbers .empty dataset).entries.map Prod.fst

theorem find?_collectBikeNumbers (m : OrdMap String Unit) (dataset : List BikeData) (b : String) :
    ((collectBikeNumbers m dataset).find? b).isSome ↔
      (m.find? b).isSome ∨ ∃ d ∈ dataset, d.bikeNumber = b := by
  induction dataset generalizing m with
  | nil => simp [collectBikeNumbers]
  | cons data dataset ih =>
    rw [collectBikeNumbers, ih, OrdMap.find?_insert]
    by_cases h : b = data.bikeNumber
    · subst h; simp
    · simp [h, Ne.symm h]

theorem mem_bikeNumbers {dataset : List BikeData} {b : String} :
    b ∈ bikeNumbers dataset ↔ ∃ d ∈ dataset, d.bikeNumber = b := by
  have h := find?_collectBikeNumbers .empty dataset b
  simp only [OrdMap.find?_empty, Option.isSome_none, Bool.false_eq_true, false_or,
    Option.isSome_iff_exists] at h
  simp [bikeNumbers, OrdMap.mem_entries, ← h]

theorem bikeNumbers_sorted (dataset : List BikeData) : (bikeNumbers dataset).Sorted (· < ·) :=
  List.pairwise_map.2 (collectBikeNumbers .empty dataset).sorted

/-- Numbering bike numbers above every key of the map appends them, numbered from `n`. -/
theorem assignKeys_entries (m : OrdMap String Int) (n : ℕ) {l : List String}
    (hl : l.Sorted (· < ·)) (hm : ∀ x ∈ m.entries, ∀ b ∈ l, x.1 < b) :
    (assignKeys m n l).entries = m.entries ++ (l.enumFrom n).map fun p => (p.2, (p.1 : Int)) := by
  induction l generalizing m n with
  | nil => simp [assignKeys]
  | cons b l ih =>
    obtain ⟨hb, hl⟩ := List.sorted_cons.1 hl
    have hm' : ∀ x ∈ (m.assign b n).entries, ∀ b' ∈ l, x.1 < b' := by
      rw [OrdMap.assign_entries_of_lt _ fun x hx => hm x hx b (List.mem_cons_self b l)]
      simp only [List.mem_append, List.mem_singleton]
      rintro x (hx | rfl) b' hb'
      exacts [hm x hx b' (List.mem_cons_of_mem b hb'), hb b' hb']
    rw [assignKeys, ← Nat.cast_succ, ih _ _ hl hm',
      OrdMap.assign_entries_of_lt _ fun x hx => hm x hx b (List.mem_cons_self b l)]
    simp

/-- `createBikeNumberMap` numbers the distinct bike numbers `0, 1, …` in their order. -/
theorem createBikeNumberMap_entries (dataset : List BikeData) :
    (createBikeNumberMap dataset).entries =
      (bikeNumbers dataset).enum.map fun p => (p.2, (p.1 : Int)) := by
  simpa using assignKeys_entries .empty 0 (bikeNumbers_sorted dataset) (by simp [OrdMap.empty])

theorem find?_createBikeNumberMap {dataset : List BikeData} {b : String} {i : ℕ}
    (h : (bikeNumbers dataset)[i]? = some b) :
    (createBikeNumberMap dataset).find? b = some (i : Int) := by
  rw [← OrdMap.mem_entries, createBikeNumberMap_entries]
  exact List.mem_map.2 ⟨(i, b), List.mk_mem_enum_iff_getElem?.2 h, rfl⟩

/-! ## `AddWaypoint` -/

/-- What `SaveWaypoints` reaches of a node's `WaypointMobilityModel` (ns-3's
`waypoint-mobility-model.cc`, not among the sources): the waypoints it queues before the simulation
runs (`m_waypoints`), in strictly increasing time, as `AddWaypoint` keeps them. -/
structure WaypointMobilityModel where
  waypoints : List Waypoint
  ascending : (waypoints.map Waypoint.time).Chain' (· < ·)
  deriving DecidableEq, Repr

/-- A model with no waypoints, as `MobilityHelper::Install` leaves it. -/
def WaypointMobilityModel.empty : WaypointMobilityModel := ⟨[], List.chain'_nil⟩

theorem chain'_append_singleton_iff {ws : List Waypoint}
    (hws : (ws.map Waypoint.time).Chain' (· < ·)) (w : Waypoint) :
    ((ws ++ [w]).map Waypoint.time).Chain' (· < ·) ↔
      ¬ws.getLast?.any fun last => last.time ≥ w.time := by
  rw [List.map_append, List.chain'_append, List.getLast?_map]
  cases ws.getLast? <;> simp [hws]

/-- `WaypointMobilityModel::AddWaypoint`: `NS_ABORT_MSG_IF`, which every build checks, on a
waypoint not later than the last one queued, then `push_back`. -/
def WaypointMobilityModel.addWaypoint (m : WaypointMobilityModel) (waypoint : Waypoint) :
    Result WaypointMobilityModel :=
  if h : m.waypoints.getLast?.any fun last => last.time ≥ waypoint.time then
    .abort "Waypoints must be added in ascending time order"
  else .ok ⟨m.waypoints ++ [waypoint], (chain'_append_singleton_iff m.ascending waypoint).2 h⟩

theorem addWaypoint_eq (m : WaypointMobilityModel) (w : Waypoint) :
    m.addWaypoint w =
      if h : ((m.waypoints ++ [w]).map Waypoint.time).Chain' (· < ·) then
        .ok (⟨m.waypoints ++ [w], h⟩ : WaypointMobilityModel)
      else .abort "Waypoints must be added in ascending time order" := by
  have := chain'_append_singleton_iff m.ascending w
  unfold WaypointMobilityModel.addWaypoint
  split_ifs <;> simp_all

/-! ## `SaveWaypoints` -/

/-- The state of `SaveWaypoints`: the row counter, the nodes of the container (`none`: a node
without a `WaypointMobilityModel`), and the node whose mobility model `waypointMobility` points to
(`none`: null). -/
structure SaveState where
  row : ℕ
  nodes : List (Option WaypointMobilityModel)
  waypointMobility : Option ℕ
  deriving DecidableEq, Repr

/-- The rows `SaveWaypoints` skips. -/
def faultyRow (row : ℕ) : Bool :=
  row == 88563 || row == 149263 || row == 149472 || row == 152101

/-- The two `AddWaypoint` calls of a row: its start, then its end. -/
def rowWaypoints (bike : BikeData) : List Waypoint :=
  [⟨seconds bike.timeStarted, ⟨bike.startLng, bike.startLat, 0⟩⟩,
    ⟨seconds bike.timeEnded, ⟨bike.endLng, bike.endLat, 0⟩⟩]

/-- The inner loop's body at the entry `pair` of `myMap`. `nodes.Get` takes a `uint32_t` and
indexes a vector without a check, and `GetObject` of a node without a `WaypointMobilityModel` is a
null pointer that `AddWaypoint` dereferences. -/
def pairStep (bike : BikeData) (st : SaveState) (pair : String × Int) : Result SaveState :=
  if pair.1 = bike.bikeNumber then
    if faultyRow st.row then .ok { st with row := st.row + 1 }
    else
      let i := (pair.2 % 2 ^ 32).toNat
      match st.nodes[i]? with
      | some (some waypointMobility) =>
        (waypointMobility.addWaypoint
          ⟨seconds bike.timeStarted, ⟨bike.startLng, bike.startLat, 0⟩⟩).bind fun waypointMobility =>
        (waypointMobility.addWaypoint
          ⟨seconds bike.timeEnded, ⟨bike.endLng, bike.endLat, 0⟩⟩).bind fun waypointMobility =>
        .ok ⟨st.row + 1, st.nodes.set i (some waypointMobility), some i⟩
      | _ => .undefined
  else .ok st

/-- `for (const auto& pair : myMap)`. -/
def matchPairs (bike : BikeData) (st : SaveState) : List (String × Int) → Result SaveState
  | [] => .ok st
  | pair :: pairs => (pairStep bike st pair).bind fun st => matchPairs bike st pairs

/-- `for (const BikeData& bike : dataset)`. -/
def saveRows (myMap : OrdMap String Int) (st : SaveState) : List BikeData → Result SaveState
  | [] => .ok st
  | bike :: dataset => (matchPairs bike st myMap.entries).bind fun st => saveRows myMap st dataset

/-- `SaveWaypoints (dataset, myMap, nodes)`; `waypointMobility` of the result is the pointer it
returns. -/
def saveWaypoints (dataset : List BikeData) (myMap : OrdMap String Int)
    (nodes : List (Option WaypointMobilityModel)) : Result SaveState :=
  saveRows myMap ⟨0, nodes, none⟩ dataset

/-- A row's two `AddWaypoint` calls go through exactly when the node's queue stays in strictly
increasing time. -/
theorem addWaypoint_bind_addWaypoint {σ : Type} (m : WaypointMobilityModel) (bike : BikeData)
    (k : WaypointMobilityModel → Result σ) :
    (m.addWaypoint ⟨seconds bike.timeStarted, ⟨bike.startLng, bike.startLat, 0⟩⟩).bind
        (fun m => (m.addWaypoint ⟨seconds bike.timeEnded, ⟨bike.endLng, bike.endLat, 0⟩⟩).bind k) =
      if h : ((m.waypoints ++ rowWaypoints bike).map Waypoint.time).Chain' (· < ·) then
        k ⟨m.waypoints ++ rowWaypoints bike, h⟩
      else .abort "Waypoints must be added in ascending time order" := by
  rw [addWaypoint_eq]
  split_ifs with h₁ h₂ h₂
  · rw [Result.ok_bind, addWaypoint_eq, dif_pos (by simpa [rowWaypoints] using h₂)]
    simp [rowWaypoints]
  · rw [Result.ok_bind, addWaypoint_eq, dif_neg (by simpa [rowWaypoints] using h₂)]
    rfl
  · exact absurd (@List.Chain'.left_of_append _ _ _ [seconds bike.timeEnded]
      (by simpa [rowWaypoints] using h₂)) h₁
  · rfl

/-- `pairStep` at the row's own entry, a node that carries a `WaypointMobilityModel`. -/
theorem pairStep_of_getElem? {bike : BikeData} {st : SaveState} {i : ℕ} (hi : i < 2 ^ 32)
    {m : WaypointMobilityModel} (hm : st.nodes[i]? = some (some m)) :
    pairStep bike st (bike.bikeNumber, i) =
      if faultyRow st.row then .ok { st with row := st.row + 1 }
      else if h : ((m.waypoints ++ rowWaypoints bike).map Waypoint.time).Chain' (· < ·) then
        .ok ⟨st.row + 1, st.nodes.set i (some ⟨m.waypoints ++ rowWaypoints bike, h⟩), some i⟩
      else .abort "Waypoints must be added in ascending time order" := by
  have hidx : ((i : Int) % 2 ^ 32).toNat = i := by
    rw [Int.emod_eq_of_lt (by omega) (by omega)]
    rfl
  rw [pairStep, if_pos rfl]
  by_cases hf : faultyRow st.row
  · rw [if_pos hf, if_pos hf]
  · rw [if_neg hf, if_neg hf]
    dsimp only
    rw [hidx, hm]
    exact addWaypoint_bind_addWaypoint m bike _

theorem matchPairs_of_forall_ne {bike : BikeData} (st : SaveState) :
    ∀ {pairs : List (String × Int)}, (∀ p ∈ pairs, p.1 ≠ bike.bikeNumber) →
      matchPairs bike st pairs = .ok st
  | [], _ => rfl
  | pair :: pairs, h => by
    rw [matchPairs, pairStep, if_neg (h pair (List.mem_cons_self _ _)), Result.ok_bind,
      matchPairs_of_forall_ne st fun p hp => h p (List.mem_cons_of_mem _ hp)]

/-- The inner loop acts at the row's entry only. -/
theorem matchPairs_of_mem {bike : BikeData} (st : SaveState) {v : Int} :
    ∀ {pairs : List (String × Int)}, KeysSorted pairs → (bike.bikeNumber, v) ∈ pairs →
      matchPairs bike st pairs = pairStep bike st (bike.bikeNumber, v)
  | [], _, h => absurd h (List.not_mem_nil _)
  | (k, w) :: pairs, hs, h => by
    obtain ⟨hlt, hs⟩ := OrdMap.keysSorted_cons.1 hs
    rcases List.mem_cons.1 h with h | h
    · obtain ⟨rfl, rfl⟩ := Prod.mk.inj h
      rw [matchPairs]
      simp only [matchPairs_of_forall_ne _ fun p hp => ne_of_gt (hlt p hp), Result.bind_ok]
    · have hk : k ≠ bike.bikeNumber := ne_of_lt (hlt _ h)
      rw [matchPairs, pairStep, if_neg hk, Result.ok_bind, matchPairs_of_mem st hs h]

/-! ## What `SaveWaypoints` adds -/

/-- The waypoints `SaveWaypoints` gives node `j`, counting rows from `row`: the start and end of
each row of a bike the map sends to `j`, in order, the faulty rows apart. -/
def nodeWaypoints (myMap : OrdMap String Int) (bikes : List BikeData) (row j : ℕ) :
    List Waypoint :=
  ((bikes.enumFrom row).filter fun p =>
    myMap.find? p.2.bikeNumber = some (j : Int) ∧ faultyRow p.1 = false).flatMap
      fun p => rowWaypoints p.2

theorem nodeWaypoints_cons (myMap : OrdMap String Int) (bike : BikeData) (bikes : List BikeData)
    (row j : ℕ) :
    nodeWaypoints myMap (bike :: bikes) row j =
      (if myMap.find? bike.bikeNumber = some (j : Int) ∧ faultyRow row = false then
        rowWaypoints bike else []) ++ nodeWaypoints myMap bikes (row + 1) j := by
  simp only [nodeWaypoints, List.enumFrom_cons, List.filter_cons]
  split_ifs <;> simp_all

/-! A row is faulty and skipped, or adds to its own node and leaves every other node alone. -/

section Cons

variable {myMap : OrdMap String Int} {bike : BikeData} {bikes : List BikeData} {row i j : ℕ}

theorem nodeWaypoints_cons_of_faulty (hf : faultyRow row) :
    nodeWaypoints myMap (bike :: bikes) row j = nodeWaypoints myMap bikes (row + 1) j := by
  rw [nodeWaypoints_cons, if_neg (by simp [hf]), List.nil_append]

theorem nodeWaypoints_cons_self (hfind : myMap.find? bike.bikeNumber = some (i : Int))
    (hf : faultyRow row = false) :
    nodeWaypoints myMap (bike :: bikes) row i =
      rowWaypoints bike ++ nodeWaypoints myMap bikes (row + 1) i := by
  rw [nodeWaypoints_cons, if_pos ⟨hfind, hf⟩]

theorem nodeWaypoints_cons_of_ne (hfind : myMap.find? bike.bikeNumber = some (i : Int))
    (hij : i ≠ j) :
    nodeWaypoints myMap (bike :: bikes) row j = nodeWaypoints myMap bikes (row + 1) j := by
  rw [nodeWaypoints_cons, if_neg (by simp [hfind, hij]), List.nil_append]

end Cons

/-- Every node's queue, then the waypoints `SaveWaypoints` adds to it, is in strictly increasing
time: every check of `AddWaypoint` passes. -/
def Ascending (myMap : OrdMap String Int) (bikes : List BikeData) (row : ℕ)
    (nodes : List (Option WaypointMobilityModel)) : Prop :=
  ∀ j m, nodes[j]? = some (some m) →
    ((m.waypoints ++ nodeWaypoints myMap bikes row j).map Waypoint.time).Chain' (· < ·)

theorem ascending_nil (myMap : OrdMap String Int) (row : ℕ)
    (nodes : List (Option WaypointMobilityModel)) : Ascending myMap [] row nodes :=
  fun _ m _ => by simpa [nodeWaypoints] using m.ascending

theorem ascending_cons_of_faulty {myMap : OrdMap String Int} {bike : BikeData}
    {bikes : List BikeData} {row : ℕ} (hf : faultyRow row)
    (nodes : List (Option WaypointMobilityModel)) :
    Ascending myMap (bike :: bikes) row nodes ↔ Ascending myMap bikes (row + 1) nodes := by
  simp only [Ascending, nodeWaypoints_cons_of_faulty hf]

section Row

variable {myMap : OrdMap String Int} {bike : BikeData} {bikes : List BikeData} {row i : ℕ}
  {nodes : List (Option WaypointMobilityModel)} {m : WaypointMobilityModel}
  (hfind : myMap.find? bike.bikeNumber = some (i : Int)) (hm : nodes[i]? = some (some m))
  (hf : faultyRow row = false)
include hfind hm hf

/-- A row whose waypoints keep node `i` in increasing time moves the question to the next row. -/
theorem ascending_cons_set
    (hc : ((m.waypoints ++ rowWaypoints bike).map Waypoint.time).Chain' (· < ·)) :
    Ascending myMap (bike :: bikes) row nodes ↔
      Ascending myMap bikes (row + 1) (nodes.set i (some ⟨_, hc⟩)) := by
  have hi : i < nodes.length := (List.getElem?_eq_some_iff.1 hm).1
  refine forall_congr' fun j => ?_
  by_cases hij : i = j
  · subst hij
    simp [nodeWaypoints_cons_self hfind hf, List.getElem?_set, hi, hm]
  · simp [nodeWaypoints_cons_of_ne hfind hij, List.getElem?_set, hij]

/-- A row whose waypoints leave node `i` out of increasing time fails a check. -/
theorem not_ascending_cons
    (hc : ¬((m.waypoints ++ rowWaypoints bike).map Waypoint.time).Chain' (· < ·)) :
    ¬Ascending myMap (bike :: bikes) row nodes := fun h => hc <| by
  have := h i m hm
  rw [nodeWaypoints_cons_self hfind hf, ← List.append_assoc, List.map_append] at this
  exact this.left_of_append

end Row

/-- Over a map that names, for every row, a node below `2^32` that carries a
`WaypointMobilityModel`, the loop goes through exactly when every node's waypoints stay in
increasing time. Then the counter ends at the number of rows, every node gets the waypoints of its
rows, faulty rows apart, in order, and the pointer is the last node written; otherwise
`AddWaypoint` aborts. -/
theorem saveRows_spec (myMap : OrdMap String Int) (bikes : List BikeData) (st : SaveState)
    (hcover : ∀ bike ∈ bikes, ∃ i : ℕ, i < 2 ^ 32 ∧ myMap.find? bike.bikeNumber = some (i : Int) ∧
      ∃ m, st.nodes[i]? = some (some m)) :
    (Ascending myMap bikes st.row st.nodes →
      ∃ st', saveRows myMap st bikes = .ok st' ∧ st'.row = st.row + bikes.length ∧
        (∀ j, st'.nodes[j]?.map (Option.map (·.waypoints)) = st.nodes[j]?.map
          (Option.map fun m => m.waypoints ++ nodeWaypoints myMap bikes st.row j)) ∧
        st'.waypointMobility =
          ((((bikes.enumFrom st.row).filter fun p => faultyRow p.1 = false).filterMap
            fun p => (myMap.find? p.2.bikeNumber).map Int.toNat).getLast?).or
              st.waypointMobility) ∧
    (¬Ascending myMap bikes st.row st.nodes →
      saveRows myMap st bikes = .abort "Waypoints must be added in ascending time order") := by
  induction bikes generalizing st with
  | nil =>
    refine ⟨fun _ => ⟨st, rfl, rfl, fun j => ?_, by simp⟩,
      fun h => absurd (ascending_nil myMap st.row st.nodes) h⟩
    cases st.nodes[j]? with
    | none => rfl
    | some o => cases o <;> simp [nodeWaypoints]
  | cons bike bikes ih =>
    obtain ⟨i, hi32, hfind, m, hm⟩ := hcover bike (List.mem_cons_self _ _)
    have hrow : matchPairs bike st myMap.entries = pairStep bike st (bike.bikeNumber, i) :=
      matchPairs_of_mem st myMap.sorted (OrdMap.mem_entries.2 hfind)
    have hcover' := fun b hb => hcover b (List.mem_cons_of_mem _ hb)
    rw [saveRows, hrow, pairStep_of_getElem? hi32 hm]
    by_cases hf : faultyRow st.row
    · obtain ⟨hok, hab⟩ := ih { st with row := st.row + 1 } hcover'
      rw [if_pos hf, Result.ok_bind, ascending_cons_of_faulty hf]
      refine ⟨fun h => ?_, hab⟩
      obtain ⟨st', hrun, hr, hn, hw⟩ := hok h
      refine ⟨st', hrun, by simp only [hr, List.length_cons]; omega, fun j => ?_, by simp [hw, hf]⟩
      rw [hn j, nodeWaypoints_cons_of_faulty hf]
    · rw [if_neg hf]
      replace hf : faultyRow st.row = false := by simpa using hf
      by_cases hc : ((m.waypoints ++ rowWaypoints bike).map Waypoint.time).Chain' (· < ·)
      · have hi : i < st.nodes.length := (List.getElem?_eq_some_iff.1 hm).1
        obtain ⟨hok, hab⟩ := ih ⟨st.row + 1, st.nodes.set i (some ⟨_, hc⟩), some i⟩ fun b hb => by
          obtain ⟨k, hk, hkf, mk, hmk⟩ := hcover' b hb
          refine ⟨k, hk, hkf, ?_⟩
          by_cases hik : i = k
          · subst hik
            simp [List.getElem?_set, hi]
          · simp [List.getElem?_set, hik, hmk]
        rw [dif_pos hc, Result.ok_bind, ascending_cons_set hfind hm hf hc]
        refine ⟨fun h => ?_, hab⟩
        obtain ⟨st', hrun, hr, hn, hw⟩ := hok h
        refine ⟨st', hrun, by simp only [hr, List.length_cons]; omega, fun j => ?_, ?_⟩
        · rw [hn j]
          by_cases hij : i = j
          · subst hij
            simp [nodeWaypoints_cons_self hfind hf, List.getElem?_set, hi, hm]
          · simp [nodeWaypoints_cons_of_ne hfind hij, List.getElem?_set, hij]
        · rw [hw, List.enumFrom_cons, List.filter_cons_of_pos (by simpa using hf),
            List.filterMap_cons_some (b := i) (by simp [hfind]), List.getLast?_cons]
          cases List.getLast? _ <;> rfl
      · rw [dif_neg hc]
        exact ⟨fun h => absurd h (not_ascending_cons hfind hm hf hc), fun _ => rfl⟩

theorem faultyRow_eq_false {row : ℕ} :
    faultyRow row = false ↔ row ∉ [88563, 149263, 149472, 152101] := by
  simp [faultyRow, and_assoc]

/-! ## `SaveWaypoints` after `createBikeNumberMap` -/

theorem find?_createBikeNumberMap_iff {dataset : List BikeData} {b : String} {i : ℕ} :
    (createBikeNumberMap dataset).find? b = some (i : Int) ↔ (bikeNumbers dataset)[i]? = some b := by
  refine ⟨fun h => ?_, find?_createBikeNumberMap⟩
  rw [← OrdMap.mem_entries, createBikeNumberMap_entries] at h
  obtain ⟨⟨k, b'⟩, hk, he⟩ := List.mem_map.1 h
  simp only [Prod.mk.injEq, Nat.cast_inj] at he
  obtain ⟨rfl, rfl⟩ := he
  exact List.mk_mem_enum_iff_getElem?.1 hk

/-- The times of the waypoints of bike `b`'s rows, start then end, row by row, the faulty rows
apart. -/
def bikeTimes (dataset : List BikeData) (b : String) : List Time :=
  ((dataset.enum.filter fun p => p.2.bikeNumber = b ∧ faultyRow p.1 = false).flatMap
    fun p => rowWaypoints p.2).map Waypoint.time

/-- Node `i` of `test_ex.cc`'s container gets the rows of the `i`-th bike number. -/
theorem nodeWaypoints_createBikeNumberMap {dataset : List BikeData} {b : String} {i : ℕ}
    (h : (bikeNumbers dataset)[i]? = some b) :
    nodeWaypoints (createBikeNumberMap dataset) dataset 0 i =
      (dataset.enum.filter fun p => p.2.bikeNumber = b ∧ faultyRow p.1 = false).flatMap
        fun p => rowWaypoints p.2 := by
  have hinj : ∀ x, (createBikeNumberMap dataset).find? x = some (i : Int) ↔ x = b := fun x => by
    rw [find?_createBikeNumberMap_iff, h, Option.some.injEq, eq_comm]
  simp only [nodeWaypoints, hinj, List.enum]

theorem size_createBikeNumberMap (dataset : List BikeData) :
    (createBikeNumberMap dataset).size = (bikeNumbers dataset).length := by
  simp [OrdMap.size, createBikeNumberMap_entries]

/-- In `test_ex.cc`'s container, a model of no waypoints per bike number, the checks of
`AddWaypoint` pass exactly when every bike's waypoints are in strictly increasing time. -/
theorem ascending_replicate_iff (dataset : List BikeData) :
    Ascending (createBikeNumberMap dataset) dataset 0
        (List.replicate (createBikeNumberMap dataset).size (some .empty)) ↔
      ∀ b ∈ bikeNumbers dataset, (bikeTimes dataset b).Chain' (· < ·) := by
  rw [size_createBikeNumberMap]
  constructor
  · intro h b hb
    obtain ⟨i, hi⟩ := List.mem_iff_getElem?.1 hb
    have hlt : i < (bikeNumbers dataset).length := (List.getElem?_eq_some_iff.1 hi).1
    simpa [bikeTimes, WaypointMobilityModel.empty, nodeWaypoints_createBikeNumberMap hi] using
      h i .empty (by simp [List.getElem?_replicate, hlt])
  · intro h j m hm
    simp only [List.getElem?_replicate] at hm
    split_ifs at hm with hlt
    obtain rfl : WaypointMobilityModel.empty = m := by simpa using hm
    obtain ⟨b, hb⟩ : ∃ b, (bikeNumbers dataset)[j]? = some b := ⟨_, List.getElem?_eq_getElem hlt⟩
    simpa [bikeTimes, WaypointMobilityModel.empty, nodeWaypoints_createBikeNumberMap hb] using
      h b (List.mem_iff_getElem?.2 ⟨j, hb⟩)

end Elora.Bike
