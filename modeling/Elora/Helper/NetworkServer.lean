import Elora.Cxx

/-!
# Installing the network server

`NetworkServerHelper::InstallPriv` (`helper/network-server-helper.cc`) creates a `NetworkServer`
on a node and walks the node's `NetDevice`s: it sets each one's receive callback, asserts that its
channel is a `PointToPointChannel` (`NS_ASSERT_MSG`, an abort in ns-3's default and debug builds,
which is what the model reads; an optimised build drops the check and goes on with a null channel),
and registers as a gateway the first node on the channel that is not the server itself, then
`break`s. It adds the end devices
and, through `InstallComponents`, the confirmed-messages and link-check components, and the ADR
component when ADR is enabled. The ns-3 objects are modelled by what the helper reads of them
(`NetDevice`, `Node`) and the server by the calls the helper makes on it (`NetworkServer`).

* `installPriv_eq`, the spec of `InstallPriv`: with the assertion compiled in, it aborts when a
  device's channel is not point-to-point; otherwise it links every device, registers for each
  device the first other node of its channel (`findGateway_eq`, `linkDevices_eq`), and adds the
  end devices and the components.
* `installPriv_gateways`: a server never registers itself as a gateway, and registers at most one
  gateway per device, a node of that device's channel.
-/

namespace Elora.Helper

/-- What `InstallPriv` reads of a `NetDevice`: whether its channel is a `PointToPointChannel`,
and the ids of the nodes of the channel's devices, in order. -/
structure NetDevice where
  pointToPoint : Bool
  channelNodes : List Nat
  deriving DecidableEq, Repr

/-- A node's id and its devices, in the order of `GetDevice (i)`. -/
structure Node where
  id : Nat
  devices : List NetDevice
  deriving DecidableEq, Repr

/-- The components `InstallComponents` adds; the ADR component is created by
`m_adrSupportFactory`, of the type `SetAdr` named. -/
inductive Component
  | confirmedMessages
  | linkCheck
  | networkController (type : String)
  deriving DecidableEq, Repr

/-- The calls made on a new `NetworkServer`: `SetNode`, `SetReceiveCallback` on the devices of
the given indices, `AddGateway (gwNode, device i)`, `AddNodes` and `AddComponent`, in order. -/
structure NetworkServer where
  node : Nat
  receiveDevices : List Nat
  gateways : List (Nat × Nat)
  endDevices : List Nat
  components : List Component
  deriving DecidableEq, Repr

/-- The helper's state that `InstallPriv` reads. -/
structure NetworkServerHelper where
  adrEnabled : Bool
  adrType : String
  endDevices : List Nat
  deriving DecidableEq, Repr

/-- `NetworkServerHelper ()`: ADR off, of type `ns3::AdrComponent`, no end devices. -/
def NetworkServerHelper.new : NetworkServerHelper := ⟨false, "ns3::AdrComponent", []⟩

def NetworkServerHelper.enableAdr (helper : NetworkServerHelper) (enableAdr : Bool) :
    NetworkServerHelper :=
  { helper with adrEnabled := enableAdr }

def NetworkServerHelper.setAdr (helper : NetworkServerHelper) (type : String) :
    NetworkServerHelper :=
  { helper with adrType := type }

def NetworkServerHelper.setEndDevices (helper : NetworkServerHelper) (endDevices : List Nat) :
    NetworkServerHelper :=
  { helper with endDevices := endDevices }

/-! ## `InstallPriv` -/

/-- The inner loop over the channel's devices: the first node that is not the server, at which
the loop `break`s. -/
def findGateway (nodeId : Nat) : List Nat → Option Nat
  | [] => none
  | gwNode :: gwNodes => if gwNode ≠ nodeId then some gwNode else findGateway nodeId gwNodes

/-- The loop over the node's devices, from device `i`. -/
def linkDevices (nodeId : Nat) (app : NetworkServer) : Nat → List NetDevice → Result NetworkServer
  | _, [] => .ok app
  | i, device :: devices =>
    let app := { app with receiveDevices := app.receiveDevices ++ [i] }
    if device.pointToPoint then
      let app := match findGateway nodeId device.channelNodes with
        | some gwNode => { app with gateways := app.gateways ++ [(gwNode, i)] }
        | none => app
      linkDevices nodeId app (i + 1) devices
    else .abort "Connection with gateways is not PointToPoint"

/-- `NetworkServerHelper::InstallComponents`. -/
def installComponents (helper : NetworkServerHelper) (netServer : NetworkServer) :
    NetworkServer :=
  { netServer with
    components := netServer.components ++ [.confirmedMessages, .linkCheck] ++
      if helper.adrEnabled then [.networkController helper.adrType] else [] }

/-- `NetworkServerHelper::InstallPriv (node)`. -/
def installPriv (helper : NetworkServerHelper) (node : Node) : Result NetworkServer :=
  (linkDevices node.id ⟨node.id, [], [], [], []⟩ 0 node.devices).bind fun app =>
    .ok (installComponents helper { app with endDevices := app.endDevices ++ helper.endDevices })

/-- `NetworkServerHelper::Install (NodeContainer c)`. -/
def install (helper : NetworkServerHelper) (c : List Node) : Result (List NetworkServer) :=
  Result.mapList (installPriv helper) c

/-! ## The loops -/

theorem findGateway_eq (nodeId : Nat) :
    ∀ gwNodes : List Nat, findGateway nodeId gwNodes = gwNodes.find? (· ≠ nodeId)
  | [] => rfl
  | gwNode :: gwNodes => by
    by_cases h : gwNode = nodeId <;> simp [findGateway, h, findGateway_eq nodeId gwNodes]

/-- The gateway of a device, with its index. -/
def gatewayOf (nodeId : Nat) (p : Nat × NetDevice) : Option (Nat × Nat) :=
  (p.2.channelNodes.find? (· ≠ nodeId)).map (·, p.1)

theorem linkDevices_eq (nodeId : Nat) :
    ∀ (devices : List NetDevice) (app : NetworkServer) (i : Nat),
      linkDevices nodeId app i devices =
        if devices.all (·.pointToPoint) then
          .ok { app with
            receiveDevices := app.receiveDevices ++ List.range' i devices.length
            gateways := app.gateways ++ (devices.enumFrom i).filterMap (gatewayOf nodeId) }
        else .abort "Connection with gateways is not PointToPoint"
  | [], app, i => by simp [linkDevices]
  | device :: devices, app, i => by
    rw [linkDevices, linkDevices_eq nodeId devices]
    by_cases hp : device.pointToPoint
    · have hg : gatewayOf nodeId (i, device) =
          (findGateway nodeId device.channelNodes).map (·, i) := by
        rw [gatewayOf, findGateway_eq]
      cases hf : findGateway nodeId device.channelNodes <;>
        by_cases ha : devices.all (·.pointToPoint) <;>
        simp [hp, ha, hf, hg, List.range'_succ, List.enumFrom_cons, List.filterMap_cons]
    · simp [hp]

/-! ## What `InstallPriv` does -/

/-- With `NS_ASSERT_MSG` compiled in, `InstallPriv` aborts when a device's channel is not
point-to-point. Otherwise it links every device, registers for each device the first node of its channel that is not the server, and adds
the end devices, the confirmed-messages and link-check components, and the ADR component when ADR
is enabled. -/
theorem installPriv_eq (helper : NetworkServerHelper) (node : Node) :
    installPriv helper node =
      if node.devices.all (·.pointToPoint) then
        .ok ⟨node.id, List.range node.devices.length,
          node.devices.enum.filterMap fun p =>
            (p.2.channelNodes.find? (· ≠ node.id)).map (·, p.1),
          helper.endDevices,
          [.confirmedMessages, .linkCheck] ++
            if helper.adrEnabled then [.networkController helper.adrType] else []⟩
      else .abort "Connection with gateways is not PointToPoint" := by
  rw [installPriv, linkDevices_eq]
  by_cases h : node.devices.all (·.pointToPoint)
  · rw [if_pos h, if_pos h]
    simp only [Result.bind, installComponents, List.nil_append, List.range_eq_range', List.enum]
    rfl
  · rw [if_neg h, if_neg h]
    rfl

theorem gatewayOf_spec {nodeId : Nat} {p : Nat × NetDevice} {gw : Nat × Nat}
    (h : gatewayOf nodeId p = some gw) :
    gw.1 ≠ nodeId ∧ gw.1 ∈ p.2.channelNodes ∧ gw.2 = p.1 := by
  obtain ⟨gwNode, hf, rfl⟩ := Option.map_eq_some'.1 h
  exact ⟨by simpa using List.find?_some hf, List.mem_of_find?_eq_some hf, rfl⟩

/-- The gateways the server registers: never the server itself, each a node of the channel of
its device, and their devices distinct and in order, so at most one gateway per device. -/
theorem installPriv_gateways {helper : NetworkServerHelper} {node : Node} {app : NetworkServer}
    (h : installPriv helper node = .ok app) :
    (∀ gw i, (gw, i) ∈ app.gateways →
      gw ≠ node.id ∧ ∃ device, node.devices[i]? = some device ∧ gw ∈ device.channelNodes) ∧
    (app.gateways.map Prod.snd).Pairwise (· < ·) := by
  rw [installPriv, linkDevices_eq] at h
  split_ifs at h
  swap
  · cases h
  simp only [Result.bind, installComponents, Result.ok.injEq] at h
  subst h
  dsimp only
  rw [List.nil_append]
  refine ⟨fun gw i hm => ?_, ?_⟩
  · obtain ⟨p, hp, hg⟩ := List.mem_filterMap.1 hm
    obtain ⟨hne, hmem, hi⟩ := gatewayOf_spec hg
    dsimp only at hne hmem hi
    exact ⟨hne, p.2, hi ▸ List.mem_enum_iff_getElem?.1 hp, hmem⟩
  · rw [List.pairwise_map, List.pairwise_filterMap]
    have hfst : ((node.devices.enumFrom 0).map Prod.fst).Pairwise (· < ·) := by
      rw [List.enumFrom_map_fst]
      exact List.pairwise_lt_range' _ _
    refine (List.pairwise_map.1 hfst).imp fun {a a'} hlt b hb b' hb' => ?_
    rw [(gatewayOf_spec hb).2.2, (gatewayOf_spec hb').2.2]
    exact hlt

/-- A server on two point-to-point links, to gateways 1 and 2, reached from either end. -/
theorem installPriv_gateways_two_links :
    installPriv .new ⟨0, [⟨true, [0, 1]⟩, ⟨true, [2, 0]⟩]⟩ =
        .ok ⟨0, [0, 1], [(1, 0), (2, 1)], [], [.confirmedMessages, .linkCheck]⟩ ∧
      (∀ gw i, (gw, i) ∈ [(1, 0), (2, 1)] → gw ≠ 0 ∧ ∃ device,
          [(⟨true, [0, 1]⟩ : NetDevice), ⟨true, [2, 0]⟩][i]? = some device ∧
            gw ∈ device.channelNodes) ∧
        ([(1, 0), (2, 1)].map Prod.snd).Pairwise (· < ·) :=
  have h : installPriv .new ⟨0, [⟨true, [0, 1]⟩, ⟨true, [2, 0]⟩]⟩ =
      .ok ⟨0, [0, 1], [(1, 0), (2, 1)], [], [.confirmedMessages, .linkCheck]⟩ := rfl
  ⟨h, installPriv_gateways h⟩

end Elora.Helper
