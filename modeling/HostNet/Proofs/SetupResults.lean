import HostNet.Proofs.ArrangedTables
import HostNet.Proofs.GatewayAddresses
import HostNet.Proofs.WrittenFiles

namespace HostNet

open Kernel (Table Link)
open Kernel.Table (Mark)
open Config (Plan Network)

namespace Bridge
variable {p : Plan} {link placed : Link}

-- A link as a plan asks for it.
def asked (p : Plan) (link : Link) : Link :=
  { link with
    mtu := if 0 < p.mtu then p.mtu else link.mtu
    kind := if p.filtering then .bridge (some true) else link.kind
    up := true
    promiscuous := p.promiscuous || link.promiscuous }

theorem shaped_asked (modified : Table.modified? link (request p) = some placed) : shaped p placed = asked p link := by
  obtain ⟨index,name,mtu,kind,up,promiscuous,parent⟩ := link
  cases kind with
  | bridge filtering =>
    simp only [Table.modified?,request] at modified
    cases modified
    cases wanted : p.filtering <;> cases listening : p.promiscuous <;> simp [shaped,asked,wanted,listening,Mark.on]
  | _ => cases modified

end Bridge

namespace Host
variable {root : String} {n : Network} {p : Plan} {h u : Host} {bridge : Kernel.Bridge}

-- What a set-up guarantees and what it leaves alone.
structure Established (root : String) (p : Plan) (h : Host) (bridge : Kernel.Bridge) (u : Host) : Prop where
  single : u.kernel.links.filter (·.name == p.bridge) = [bridge.link]
  shape : bridge.link = Bridge.asked p (Bridge.standing p h.kernel)
  kind : bridge.link.kind = .bridge bridge.filtering
  gateways : p.layer3 = true → ∀ net ∈ p.podSubnets, ∃ gateway, net.gateway = .ok gateway ∧
    (u.kernel.addressesOf p.bridge).count gateway = 1
  forwarding : p.layer3 = true → ∀ family, Sysctl.On root family u.files
  others : u.kernel.links.filter (·.name != p.bridge) = h.kernel.links.filter (·.name != p.bridge)
  addresses : ∃ added, u.kernel.addresses = h.kernel.addresses ++ added ∧
    ∀ a ∈ added, a.index = bridge.link.index ∧ a.net ∈ Bridge.gatewaysOf p.podSubnets
  routes : u.kernel.routes = h.kernel.routes
  portVlans : u.kernel.portVlans = h.kernel.portVlans
  files : ∀ place, (∀ path ∈ Bridge.written root p, h.files.locate path ≠ .ok place) →
    u.files.find? place = h.files.find? place
  plain : p.layer3 = false → u.kernel.addresses = h.kernel.addresses ∧ u.iptables = h.iptables ∧ u.nft = h.nft

-- A set-up that succeeds went through all its stages, and what it tells about is in the ground that they left.
theorem setup_stages (planned : n.plan = .ok p) (ran : Bridge.setup (services root) n h = .ok bridge u) :
    Stage.run (Bridge.stages root p) h.ground = some u.ground ∧ Made p.bridge bridge u.ground ∧
      ∃ m gateways, Beside h m ∧ Bridge.protect (services root) p gateways m = .ok () u ∧
        gateways = if p.layer3 then Bridge.gatewaysOf p.podSubnets else [] := by
  rw [Bridge.setup_planned _ planned] at ran
  obtain ⟨made,m,prepared,later⟩ := Step.of_bind ran
  obtain ⟨_,v,shielded,last⟩ := Step.of_bind later
  cases last
  have carried := prepare_carries root p
  obtain ⟨through,told⟩ := carried.done trivial prepared
  obtain ⟨kernel,files⟩ := protect_ok_beside shielded
  have same : u.ground = m.ground := by rw [ground,ground,kernel,files]
  rw [same]
  exact ⟨through,told.1,m,made.2,carried.done_beside prepared,shielded,told.2⟩

theorem gateways_counted (reached : h.kernel.Reached) (addressed : p.layer3 = true)
    (through : Stage.run (Bridge.stages root p) h.ground = some u.ground) :
    ∀ net ∈ p.podSubnets, ∃ gateway, net.gateway = .ok gateway ∧ (u.kernel.addressesOf p.bridge).count gateway = 1 := by
  intro net among
  have stage : Bridge.onKernel (Bridge.assigned p.bridge net) ∈ Bridge.stages root p := by
    rw [Bridge.stages,if_pos addressed,if_pos addressed]
    exact List.mem_append_right _ (List.mem_cons_of_mem _ (List.mem_map_of_mem among))
  obtain ⟨t,fixed,same⟩ := Stage.within_some.mp (Stage.fixed_after (Bridge.stages_resumable root p) through _ stage)
  have still : t = u.ground.kernel := congrArg Bridge.Ground.kernel same
  rw [still] at fixed
  obtain ⟨gateway,link,known,there,held⟩ := Bridge.assigned_fixed.mp fixed
  obtain ⟨_,once,_⟩ := stages_addresses (g := h.ground) reached.orderly.addresses (fun _ => addressed) through
  have assigned : gateway ∈ u.kernel.addressesOf p.bridge := Table.mem_addressesOf.mpr ⟨link,there,held⟩
  exact ⟨gateway,known,List.count_eq_one_of_mem (once reached.orderly.once) assigned⟩

-- However the host was, whichever requests are refused and however many listings are interrupted: a set-up that
-- succeeds leaves the bridge as its plan asks for it, and all else as it was.
theorem setup_establishes (reached : h.kernel.Reached) (unique : (h.kernel.links.map Link.name).Nodup)
    (planned : n.plan = .ok p) (ran : Bridge.setup (services root) n h = .ok bridge u) :
    Established root p h bridge u := by
  obtain ⟨through,⟨link,filtering,⟨there,kind⟩,told⟩,m,gateways,beside,shielded,_⟩ := setup_stages planned ran
  have quietly : h.ground.kernel.Reached := .beside reached rfl rfl rfl
  obtain ⟨left,added,arranged⟩ := Bridge.stages_arranged quietly.orderly
    (fun _ => Kernel.Table.Sits.of_named unique quietly.distinct) through
  obtain ⟨before,after,sits,rest⟩ := arranged.sits
  obtain ⟨placed,modified,marks⟩ := arranged.shape
  obtain rfl := Option.some.inj (sits.named.symm.trans there)
  have shape : left = Bridge.asked p (Bridge.standing p h.kernel) := marks.trans (Bridge.shaped_asked modified)
  have raised : Mark.up.on left = left := by
    rw [shape]
    rfl
  rw [raised] at told
  subst told
  refine ⟨sits.own,shape,kind,?_,?_,sits.others.trans rest,⟨added,arranged.addresses,fun a among => ?_⟩,
    arranged.routes,arranged.portVlans,(Bridge.stages_rewritten through).kept,?_⟩
  · exact fun addressed => gateways_counted reached addressed through
  · intro addressed family
    have stage : Bridge.onFiles (Sysctl.forwarded root family) ∈ Bridge.stages root p := by
      rw [Bridge.stages,if_pos addressed]
      cases family <;> simp [Bridge.forwarding]
    obtain ⟨files,fixed,same⟩ :=
      Stage.within_some.mp (Stage.fixed_after (Bridge.stages_resumable root p) through _ stage)
    have still : files = u.files := congrArg Bridge.Ground.files same
    rw [still] at fixed
    exact (Sysctl.enableForwarding_ok (Sysctl.forwarded_some.mp fixed)).1
  · exact (arranged.given a among).2
  · intro plain
    have none : added = [] := by
      refine List.eq_nil_iff_forall_not_mem.mpr fun a among => ?_
      cases plain.symm.trans (arranged.given a among).1
    have idle := protect_idle (p := p) (by rw [plain]; rfl) root gateways
    rw [idle] at shielded
    cases shielded
    refine ⟨?_,beside.iptables,beside.nft⟩
    have same := arranged.addresses
    rwa [none,List.append_nil] at same

-- A host with a wire to others.
def wired : Host := { bare with kernel := Table.empty.insertDevice "eth0" 9000 }

theorem wired_established : ∃ p bridge u, wired.kernel.Reached ∧ (wired.kernel.links.map Link.name).Nodup ∧
    pods.plan = .ok p ∧ Bridge.setup (services "/") pods wired = .ok bridge u ∧ Established "/" p wired bridge u := by
  have answered : ((Bridge.setup (services "/") pods).outcome wired).1.toOption.isSome = true := by decide +kernel
  have accepted : pods.plan.toOption.isSome = true := by decide +kernel
  obtain ⟨bridge,told⟩ := Option.isSome_iff_exists.mp answered
  obtain ⟨p,known⟩ := Option.isSome_iff_exists.mp accepted
  have planned := ok_told known
  have ran := Step.of_told told
  have reached : wired.kernel.Reached := .device .empty "eth0" 9000
  have unique : (wired.kernel.links.map Link.name).Nodup := by decide
  exact ⟨p,bridge,_,reached,unique,planned,ran,setup_establishes reached unique planned ran⟩

end Host
end HostNet
