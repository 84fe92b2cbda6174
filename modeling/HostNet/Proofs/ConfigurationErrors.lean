import HostNet.Proofs.BridgeAddresses
import HostNet.Proofs.Removal
import HostNet.Proofs.StepErrors
import HostNet.Proofs.SubnetGateways

namespace HostNet

open Stage (run)
open Kernel (Table Link)
open Config (Plan Network)

namespace Config.Network

-- What a plan takes over from its declaration.
structure Planned (n : Network) (p : Plan) : Prop where
  podSubnets : n.podSubnets = .ok p.podSubnets
  network : p.network = n.name
  bridge : p.bridge = n.bridgeName
  layer3 : p.layer3 = n.layer3
  masquerade : p.masquerade = n.masquerade

theorem plan_planned {n : Network} (planned : n.plan = .ok p) : n.Planned p := by
  unfold plan at planned
  dsimp only at planned
  split at planned
  · cases planned
  obtain ⟨vlans,_,planned⟩ := Files.of_bind planned
  obtain ⟨mac,_,planned⟩ := Files.of_bind planned
  split at planned
  · cases planned
  split at planned
  · cases planned
  obtain ⟨podSubnets,known,planned⟩ := Files.of_bind planned
  obtain ⟨backend,_,planned⟩ := Files.of_bind planned
  cases planned
  exact ⟨known,rfl,rfl,rfl,rfl⟩

theorem plan_layer3 {n : Network} (planned : n.plan = .ok p) (among : net ∈ p.podSubnets) : p.layer3 = true := by
  have taken := plan_planned planned
  cases addressed : n.layer3 with
  | true => rw [taken.layer3,addressed]
  | false =>
    have known := taken.podSubnets
    rw [podSubnets,addressed] at known
    rw [← Except.ok.inj known] at among
    cases among

end Config.Network

namespace Bridge

-- Where all gateways are there, the first subnet without one is all that counts.
theorem addGateways_refused (s : Services σ) (index : Nat) {held nets : List Subnet}
    (all : ∀ a ∈ gatewaysOf nets, a ∈ held) (lone : net ∈ nets) (without : net.gateway = .error fault) (h : σ) :
    ∃ fault, addGateways s index (held.map Subnet.text) nets h = .error (.ipam fault) h := by
  induction nets with
  | nil => cases lone
  | cons first rest ih =>
    cases known : first.gateway with
    | error fault => exact ⟨fault,by rw [addGateways_stuck _ _ _ _ known]; rfl⟩
    | ok gateway =>
      rw [gatewaysOf_cons rest known] at all
      have later : net ∈ rest := by
        rcases List.mem_cons.mp lone with rfl | later
        · cases known.symm.trans without
        · exact later
      obtain ⟨fault,refused⟩ := ih (fun a among => all a (List.mem_cons_of_mem _ among)) later
      refine ⟨fault,?_⟩
      rw [addGateways_cons _ _ _ _ known,(Host.contains_text held gateway).mpr (all gateway List.mem_cons_self)]
      have idle : (pure () : Step σ Error Unit) h = .ok () h := rfl
      exact (Step.bind_ok idle).trans (Step.bind_error refused)

end Bridge

namespace Host

-- Nothing that a set-up is for was changed.
structure Untouched (h u : Host) : Prop where
  links : u.kernel.links = h.kernel.links
  addresses : u.kernel.addresses = h.kernel.addresses
  files : u.files = h.files
  iptables : u.iptables = h.iptables
  nft : u.nft = h.nft

theorem Untouched.refl (h : Host) : Untouched h h := ⟨rfl,rfl,rfl,rfl,rfl⟩

-- A host with the bridge of a plan, which is still down, and all gateways that there are.
def underway (p : Plan) : Host where
  kernel := { Table.empty with
    links := [⟨1,p.bridge,Table.defaultMtu,.bridge none,false,false,none⟩]
    addresses := (Bridge.gatewaysOf p.podSubnets).map (⟨1,·⟩)
    lastIndex := 1 }
  files := bare.files
  iptables := .initial
  nft := .initial

variable {p : Plan} {n : Network}

theorem underway_named (p : Plan) : (underway p).kernel.named? p.bridge =
    some ⟨1,p.bridge,Table.defaultMtu,.bridge none,false,false,none⟩ :=
  List.find?_cons_of_pos (beq_self_eq_true p.bridge)

theorem underway_addresses (p : Plan) : (underway p).kernel.addressesOf p.bridge = Bridge.gatewaysOf p.podSubnets := by
  rw [Bridge.addressesOf_named (underway_named p)]
  have all : ((Bridge.gatewaysOf p.podSubnets).map fun a => (⟨1,a⟩ : Kernel.LinkAddress)).filter (·.index == 1) =
      (Bridge.gatewaysOf p.podSubnets).map fun a => ⟨1,a⟩ := List.filter_eq_self.mpr (by simp)
  change (((Bridge.gatewaysOf p.podSubnets).map fun a => (⟨1,a⟩ : Kernel.LinkAddress)).filter (·.index == 1)).map _ = _
  rw [all,List.map_map]
  exact List.map_id _

theorem bare_readable (family : Family) : Sysctl.Readable "/" family bare.files := by
  have told : ((Sysctl.get "/" (Sysctl.forwarding family)).outcome bare.files).1.toOption = some "1" := by
    cases family <;> decide +kernel
  exact .of_told told

-- A bridge that a set-up has made is up.
theorem bridging_up (root : String) (ran : run (Bridge.bridging root p) g = some g') :
    ∃ link ∈ g'.kernel.links, link.up = true := by
  have among : Bridge.onKernel (Bridge.marked p.bridge .up) ∈ Bridge.bridging root p := by
    unfold Bridge.bridging
    simp
  obtain ⟨t,fixed,same⟩ := Stage.within_some.mp (Stage.fixed_after (Bridge.bridging_resumable root p) ran _ among)
  have still : t = g'.kernel := congrArg Bridge.Ground.kernel same
  rw [still] at fixed
  obtain ⟨_,first,_,found,up⟩ := Bridge.marked_fixed.mp fixed
  exact ⟨first,List.mem_of_find?_eq_some found,by rw [← up]; rfl⟩

-- A bridge that has every gateway is given no address before a subnet turns out to have none.
theorem address_refused (root : String) {h : Host} (addressed : p.layer3 = true) (made : Made p.bridge bridge h.ground)
    (answers : h.kernel.Answers) (all : h.kernel.addressesOf p.bridge = Bridge.gatewaysOf p.podSubnets)
    (lone : net ∈ p.podSubnets) (without : net.gateway = .error fault) :
    ∃ e u, Bridge.address (services root) p bridge h = .error (.ipam e) u ∧ u.ground = h.ground := by
  obtain ⟨addresses,u,listed,ground,⟨_,told⟩,_⟩ := (listing_carries p.bridge bridge
    (.kernel .listAddresses bridge.link.name)).succeeds made answers rfl
  have held : addresses.map Kernel.LinkAddress.net = Bridge.gatewaysOf p.podSubnets := told.trans all
  obtain ⟨e,refused⟩ := Bridge.addGateways_refused (services root) bridge.link.index
    (fun a among => held.symm ▸ among) lone without u
  refine ⟨e,u,?_,ground⟩
  rw [Bridge.address,if_pos addressed,Bridge.ensureGateways_listing,serving]
  exact (Step.bind_ok listed).trans refused

-- A set-up of the plan gets there as far as the gateways, and takes the bridge up on its way.
theorem underway_ensured (addressed : p.layer3 = true) : ∃ h bridge u,
    Bridge.forward (services "/") p (underway p) = .ok () h ∧ Bridge.ensure (services "/") p h = .ok bridge u ∧
      Made p.bridge bridge u.ground ∧ u.kernel.Answers ∧
      u.kernel.addressesOf p.bridge = Bridge.gatewaysOf p.podSubnets ∧ ∃ link ∈ u.kernel.links, link.up = true := by
  have answers : (underway p).kernel.Answers := rfl
  obtain ⟨files,switched⟩ := forwarding_possible (g := (underway p).ground) bare_readable
  obtain ⟨_,h,forwarded,start,_,beside⟩ := (forward_carries "/" p).succeeds trivial answers
    (by rw [if_pos addressed]; exact switched)
  have named : h.ground.kernel.named? p.bridge = some ⟨1,p.bridge,Table.defaultMtu,.bridge none,false,false,none⟩ := by
    rw [start]
    exact underway_named p
  have free : Free p.bridge h.ground.kernel := by
    intro link there
    cases named.symm.trans there
    exact ⟨none,rfl⟩
  have bounded : Bridge.Bounded h.ground.kernel := by
    rw [start]
    intro a among
    obtain ⟨_,_,rfl⟩ := List.mem_map.mp among
    exact Nat.le_refl 1
  obtain ⟨g,bridged,_⟩ := bridging_possible "/" free
  obtain ⟨bridge,u,ensured,ground,made,beside'⟩ := (ensure_carries "/" p).succeeds trivial
    (beside.refusals.trans answers) bridged
  refine ⟨h,bridge,u,forwarded,ensured,ground ▸ made,(beside'.refusals.trans beside.refusals).trans answers,?_,?_⟩
  · change u.ground.kernel.addressesOf p.bridge = _
    rw [ground,(Bridge.bridging_addresses "/" bounded bridged).2,start]
    exact underway_addresses p
  · change ∃ link ∈ u.ground.kernel.links, _
    rw [ground]
    exact bridging_up "/" bridged

-- A subnet without a gateway is found out only when the bridge is up already.
theorem underway_touched (planned : n.plan = .ok p) (lone : net ∈ p.podSubnets) (without : net.gateway = .error fault) :
    ∃ e u, Bridge.setup (services "/") n (underway p) = .error (.ipam e) u ∧
      u.kernel.links ≠ (underway p).kernel.links := by
  have addressed := Config.Network.plan_layer3 planned lone
  obtain ⟨h,bridge,h',forwarded,ensured,made,answers,all,link,among,up⟩ := underway_ensured addressed
  obtain ⟨e,u,failed,ground⟩ := address_refused "/" addressed made answers all lone without
  refine ⟨e,u,?_,fun same => ?_⟩
  · rw [Bridge.setup_planned _ planned]
    exact Step.bind_error ((Step.bind_ok forwarded).trans ((Step.bind_ok ensured).trans (Step.bind_error failed)))
  · have still : u.kernel.links = h'.kernel.links := congrArg (fun g : Bridge.Ground => g.kernel.links) ground
    rw [← still,same] at among
    cases List.mem_singleton.mp among
    cases up

-- A fault of the declaration shows before anything is touched just if each of the subnets for pods that it names has
-- room for a gateway: whether it has is looked at only when the gateways are added.
theorem faults_show_first_exactly (n : Network) : (∀ root h e u, Bridge.setup (services root) n h = .error e u →
    e.declared = true → Untouched h u) ↔ ∀ p, n.plan = .ok p → ∀ net ∈ p.podSubnets, 0 < net.hostBits := by
  constructor
  · intro first p planned net among
    rw [← Subnet.gateway_known]
    cases known : net.gateway with
    | ok gateway => exact ⟨gateway,rfl⟩
    | error fault =>
      obtain ⟨e,u,failed,touched⟩ := underway_touched planned among known
      exact absurd (first "/" _ _ u failed rfl).links touched
  · intro roomy root h e u failed declared
    cases planned : n.plan with
    | error fault =>
      cases (Bridge.setup_unplanned _ planned h).symm.trans failed
      exact Untouched.refl h
    | ok p =>
      have known : ∀ net ∈ p.podSubnets, ∃ gateway, net.gateway = .ok gateway :=
        fun net among => net.gateway_known.mpr (roomy p planned net among)
      rw [Bridge.setup_planned _ planned,← Bridge.carryOut_parts] at failed
      have other : e.declared = false := Bridge.carryOut_blameless root known h e u failed
      cases declared.symm.trans other

def lone : Network := { pods with management := { pods.management with podSubnets := ["10.0.0.1/32"] } }

-- A subnet of one address passes for a subnet, and the bridge is there when it turns out to have no gateway.
theorem lone_touched : ∃ e u, Bridge.setup (services "/") lone bare = .error e u ∧ e.declared = true ∧
    ¬Untouched bare u := by
  have failed : (match ((Bridge.setup (services "/") lone).outcome bare).1 with
    | .error e => e.declared
    | .ok _ => false) = true := by decide +kernel
  have made : ((Bridge.setup (services "/") lone).outcome bare).2.kernel.links ≠ [] := by decide +kernel
  cases ran : Bridge.setup (services "/") lone bare with
  | ok bridge u => rw [Step.outcome_ok ran] at failed; cases failed
  | error e u =>
    rw [Step.outcome_error ran] at failed made
    exact ⟨e,u,rfl,failed,fun untouched => made untouched.links⟩

end Host

end HostNet
