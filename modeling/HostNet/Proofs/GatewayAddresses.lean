import HostNet.Proofs.ConfigurationErrors
import HostNet.Proofs.KernelTables
import HostNet.Proofs.SetupWalls

namespace HostNet

open Kernel (Table)
open Config (Plan Network)

namespace Step

-- Where a step succeeds, another one does the same.
def Follows (x' x : Step σ ε α) : Prop := ∀ s a t, x s = .ok a t → x' s = .ok a t

theorem Follows.refl (x : Step σ ε α) : Follows x x := fun _ _ _ => id

theorem Follows.bind {x x' : Step σ ε α} {f f' : α → Step σ ε β} (first : Follows x' x)
    (rest : ∀ a, Follows (f' a) (f a)) : Follows (x' >>= f') (x >>= f) := by
  intro s b t ran
  obtain ⟨a,u,begun,later⟩ := of_bind ran
  exact (bind_ok (first s a u begun)).trans (rest a u b t later)

theorem Follows.mapError {x x' : Step σ ε α} (g : ε → ε') (inner : Follows x' x) :
    Follows (Step.mapError g x') (Step.mapError g x) :=
  fun s a t ran => mapError_ok (inner s a t (of_mapError ran))

theorem follows_if {c : Prop} [Decidable c] {x x' y y' : Step σ ε α} (yes : Follows x' x) (no : Follows y' y) :
    Follows (if c then x' else y') (if c then x else y) := by
  split
  · exact yes
  · exact no

end Step

open Step (Follows)

-- A request for an address that a link has already is answered in some way of its own.
def Kernel.Driver.answering (d : Driver σ) (taken : Nat → Subnet → σ → Bool) (answer : Step σ Error Unit) : Driver σ :=
  { d with addAddress := fun index net h => if taken index net h then answer h else d.addAddress index net h }

def Services.answering (s : Services σ) (taken : Nat → Subnet → σ → Bool) (answer : Step σ Kernel.Error Unit) :
    Services σ := { s with kernel := s.kernel.answering taken answer }

namespace Bridge

variable {s : Services σ} {taken : Nat → Subnet → σ → Bool} {answer : Step σ Kernel.Error Unit}

section Answering
variable (refused : ∀ index net h t, s.kernel.addAddress index net h = .ok () t → taken index net h = false)
include refused

theorem addGateways_follows (index : Nat) (existing : List String) (nets : List Subnet) :
    Follows (addGateways (s.answering taken answer) index existing nets) (addGateways s index existing nets) := by
  induction nets with
  | nil => exact Follows.refl _
  | cons net rest ih =>
    cases known : net.gateway with
    | error e =>
      rw [addGateways_stuck _ _ _ _ known,addGateways_stuck _ _ _ _ known]
      exact Follows.refl _
    | ok gateway =>
      have adding : Follows ((s.answering taken answer).kernel.addAddress index gateway)
          (s.kernel.addAddress index gateway) := by
        intro h _ t added
        have free := refused index gateway h t added
        exact (if_neg (Bool.eq_false_iff.mp free)).trans added
      rw [addGateways_cons _ _ _ _ known,addGateways_cons _ _ _ _ known]
      refine Follows.bind (Step.follows_if (adding.mapError _) (Follows.refl _)) fun _ => ?_
      exact Follows.bind ih fun _ => Follows.refl _

-- A set-up that succeeds has asked for no address that the link had.
theorem setup_follows (n : Network) : Follows (setup (s.answering taken answer) n) (setup s n) := by
  refine Follows.bind (Follows.refl _) fun p => ?_
  rw [carryOut_parts,carryOut_parts]
  refine Follows.bind (Follows.bind (Follows.refl _) fun _ => Follows.bind (Follows.refl _) fun bridge => ?_)
    fun made => Follows.refl _
  refine Follows.bind (Step.follows_if ?_ (Follows.refl _)) fun _ => Follows.refl _
  rw [ensureGateways_listing,ensureGateways_listing]
  exact Follows.bind (Follows.refl _) fun addresses => addGateways_follows refused _ _ _

end Answering

theorem mapM_gateways (known : nets.mapM Subnet.gateway = .ok gateways) :
    gatewaysOf nets = gateways ∧ ∀ net ∈ nets, ∃ gateway, net.gateway = .ok gateway := by
  induction nets generalizing gateways with
  | nil => cases known; exact ⟨rfl,by simp⟩
  | cons net rest ih =>
    rw [List.mapM_cons] at known
    obtain ⟨gateway,first,known⟩ := Files.of_bind known
    obtain ⟨others,later,known⟩ := Files.of_bind known
    cases known
    obtain ⟨same,each⟩ := ih later
    exact ⟨by rw [gatewaysOf_cons rest first,same],List.forall_mem_cons.mpr ⟨⟨gateway,first⟩,each⟩⟩

end Bridge

namespace Host

-- Nothing stands in the way of a plan: its bridge can be made, forwarding can be turned on, and the firewalls work.
structure Ready (root : String) (p : Plan) (h : Host) : Prop where
  kernel : h.kernel.Reached
  answers : h.kernel.Answers
  free : Free p.bridge h.kernel
  readable : ∀ family, Sysctl.Readable root family h.files
  iptables : h.iptables.failure = none
  chains : ∀ family, (h.iptables.view family Firewall.Iptables.postrouting).isSome
  nft : h.nft.failure = none
  ruleset : h.nft.ruleset.Reached

theorem protect_possible (ready : Ready root p h) (same : u.walls = h.walls) (gateways : List Subnet) :
    ∃ t, Bridge.protect (services root) p gateways u = .ok () t := by
  obtain ⟨iptables,nft⟩ := Prod.ext_iff.mp same
  change u.iptables = h.iptables at iptables
  change u.nft = h.nft at nft
  cases masquerading : p.layer3 && p.masquerade with
  | false => exact ⟨u,by rw [protect_idle masquerading]; rfl⟩
  | true =>
    rw [protect_installs masquerading]
    cases chosen u.walls p.backend with
    | iptables =>
      obtain ⟨m,installed,_⟩ := Masquerade.Iptables.install_working gateways (.ofNetwork p.network)
        (iptables ▸ ready.iptables) (iptables ▸ ready.chains)
      rw [iptables_install]
      exact ⟨_,Step.within_ok installed⟩
    | nftables =>
      obtain ⟨m,installed,_⟩ := Masquerade.Nft.install_working gateways (.ofNetwork p.network)
        (nft ▸ ready.nft) (nft ▸ ready.ruleset.sound)
      rw [nft_install]
      exact ⟨_,Step.within_ok installed⟩

-- Whether a link has an address.
def taken (index : Nat) (net : Subnet) (h : Host) : Bool := h.kernel.addresses.contains ⟨index,net⟩

theorem addAddress_fresh (root : String) (index : Nat) (net : Subnet) (h t : Host)
    (ran : (services root).kernel.addAddress index net h = .ok () t) : taken index net h = false := by
  rw [serving,adding] at ran
  obtain ⟨u,added,_⟩ := onKernel_ok ran
  have new := (addAddress_ok added).1
  simpa [taken] using new

-- A set-up succeeds, asks for no address that a link has, and leaves the bridge with what it had and with the gateways,
-- each of them once.
def GivesOnce (root : String) (n : Network) (name : String) (gateways : List Subnet) (h : Host) : Prop :=
  ∃ bridge u, Bridge.setup (services root) n h = .ok bridge u ∧
    (∀ answer, Bridge.setup ((services root).answering taken answer) n h = .ok bridge u) ∧
    (u.kernel.addressesOf name).Nodup ∧
    ∀ net, net ∈ u.kernel.addressesOf name ↔ net ∈ h.kernel.addressesOf name ∨ net ∈ gateways

-- Addresses are listed once, before the first is added. So gateways are given once just if none that the bridge lacks
-- is the gateway of two subnets.
theorem gateways_given_once_exactly (planned : n.plan = .ok p) (known : p.podSubnets.mapM Subnet.gateway = .ok gateways)
    (ready : Ready root p h) : GivesOnce root n p.bridge gateways h ↔
      (gateways.filter fun gateway => !(h.kernel.addressesOf p.bridge).contains gateway).Nodup := by
  obtain ⟨gathered,each⟩ := Bridge.mapM_gateways known
  have lacked : Bridge.lacking (h.kernel.addressesOf p.bridge) p.podSubnets =
      gateways.filter fun gateway => !(h.kernel.addressesOf p.bridge).contains gateway := by
    rw [Bridge.lacking,gathered]
  have orderly := ready.kernel.orderly
  have bounded : Bridge.Bounded h.ground.kernel := orderly.addresses
  have addressed : p.podSubnets ≠ [] → p.layer3 = true := by
    intro some
    obtain ⟨net,among⟩ := List.exists_mem_of_ne_nil _ some
    exact Config.Network.plan_layer3 planned among
  have carried := prepare_carries root p
  rw [← lacked]
  constructor
  · rintro ⟨bridge,u,ran,_⟩
    rw [Bridge.setup_planned _ planned] at ran
    obtain ⟨made,m,prepared,_⟩ := Step.of_bind ran
    obtain ⟨through,_⟩ := carried.done trivial prepared
    exact (stages_addresses bounded addressed through).1
  · intro once
    obtain ⟨g,through⟩ := stages_possible (g := h.ground) ready.free bounded (fun _ => ready.readable) each once
    obtain ⟨made,m,prepared,ground,_,beside⟩ := carried.succeeds trivial ready.answers through
    obtain ⟨u,shielded⟩ := protect_possible ready beside.walls made.2
    have ran : Bridge.setup (services root) n h = .ok made.1 u := by
      rw [Bridge.setup_planned _ planned]
      exact (Step.bind_ok prepared).trans ((Step.bind_ok shielded).trans rfl)
    obtain ⟨_,kept,members⟩ := stages_addresses bounded addressed through
    have own : u.kernel.addressesOf p.bridge = g.kernel.addressesOf p.bridge := by
      rw [(protect_ok_beside shielded).1,← ground]
      rfl
    refine ⟨made.1,u,ran,fun answer => ?_,?_,fun net => ?_⟩
    · exact Bridge.setup_follows (addAddress_fresh root) n h _ u ran
    · rw [own]
      exact kept orderly.once
    · rw [own,members,gathered]
      rfl

theorem bare_ready (p : Plan) : bare.Ready "/" p where
  kernel := .empty
  answers := rfl
  free _ there := by cases there
  readable := bare_readable
  iptables := rfl
  chains family := Option.isSome_iff_exists.mpr ⟨_,Firewall.Iptables.Memory.initial_postrouting family⟩
  nft := rfl
  ruleset := .empty

-- The plan of a network and its gateways, if it has both.
def gatewaysPlanned (n : Network) : Option (Plan × List Subnet) :=
  n.plan.toOption.bind fun p => (p.podSubnets.mapM Subnet.gateway).toOption.map fun gateways => (p,gateways)

theorem ok_told {x : Except ε α} (told : x.toOption = some a) : x = .ok a := by
  cases x <;> cases told
  rfl

theorem gatewaysPlanned_some (found : gatewaysPlanned n = some (p,gateways)) :
    n.plan = .ok p ∧ p.podSubnets.mapM Subnet.gateway = .ok gateways := by
  obtain ⟨p',planned,told⟩ := Option.bind_eq_some_iff.mp found
  obtain ⟨gateways',known,same⟩ := Option.map_eq_some_iff.mp told
  cases same
  exact ⟨ok_told planned,ok_told known⟩

-- Subnets of both families.
def spread : Network :=
  { pods with management := { pods.management with
      podSubnets := ["10.22.0.0/24","10.23.0.0/24","fd00:22::/64","fd00:23::/64"] } }

-- The bare host with a bridge that has one gateway of each family, and an address of its own.
def begun : Host :=
  { bare with kernel := Table.requestAll [.addLink (.bridge ⟨"br1",0,none⟩),
      .addAddress 1 (.ofAddress (.ofNat .v4 0x0a160001) 24),.addAddress 1 (.ofAddress (.ofNat .v4 0x0a160009) 24),
      .addAddress 1 (.ofAddress (.ofNat .v6 0xfd000022000000000000000000000001) 64)] bare.kernel }

theorem begun_ready (p : Plan) : begun.Ready "/" p where
  kernel := .requestAll _ .empty
  answers := by
    have none_ : begun.kernel.refusals = [] := by decide +kernel
    exact none_
  free link there := by
    have links : begun.kernel.links = [⟨1,"br1",1500,.bridge (some false),false,false,none⟩] := by decide +kernel
    have among := List.mem_of_find?_eq_some there
    rw [links,List.mem_singleton] at among
    exact ⟨_,congrArg Kernel.Link.kind among⟩
  readable := bare_readable
  iptables := rfl
  chains := (bare_ready p).chains
  nft := rfl
  ruleset := .empty

theorem spread_given_once : ∃ p gateways, spread.plan = .ok p ∧ p.podSubnets.mapM Subnet.gateway = .ok gateways ∧
    begun.Ready "/" p ∧ gateways.length = 4 ∧ (begun.kernel.addressesOf p.bridge).length = 3 ∧
    (gateways.filter fun gateway => !(begun.kernel.addressesOf p.bridge).contains gateway).length = 2 ∧
    GivesOnce "/" spread p.bridge gateways begun := by
  have complete : (gatewaysPlanned spread).any (fun (p,gateways) =>
      let lacking := gateways.filter fun gateway => !(begun.kernel.addressesOf p.bridge).contains gateway
      gateways.length = 4 ∧ (begun.kernel.addressesOf p.bridge).length = 3 ∧ lacking.length = 2 ∧ lacking.Nodup) =
        true := by
    decide +kernel
  obtain ⟨⟨p,gateways⟩,found,all⟩ := (Option.any_eq_true _ _).mp complete
  obtain ⟨planned,known⟩ := gatewaysPlanned_some found
  obtain ⟨asked,held,new,once⟩ := of_decide_eq_true all
  exact ⟨p,gateways,planned,known,begun_ready p,asked,held,new,
    (gateways_given_once_exactly planned known (begun_ready p)).mpr once⟩

-- One subnet for pods, written in two ways.
def doubled : Network :=
  { pods with management := { pods.management with podSubnets := ["10.22.0.0/24","10.22.0.7/24"] } }

theorem doubled_refused : ∃ p gateways, doubled.plan = .ok p ∧ p.podSubnets.mapM Subnet.gateway = .ok gateways ∧
    bare.Ready "/" p ∧ ¬GivesOnce "/" doubled p.bridge gateways bare := by
  have complete : (gatewaysPlanned doubled).isSome = true := by decide +kernel
  have failed : ((Bridge.setup (services "/") doubled).outcome bare).1.isOk = false := by decide +kernel
  obtain ⟨⟨p,gateways⟩,found⟩ := Option.isSome_iff_exists.mp complete
  obtain ⟨planned,known⟩ := gatewaysPlanned_some found
  refine ⟨p,gateways,planned,known,bare_ready p,?_⟩
  rintro ⟨bridge,u,ran,_⟩
  rw [Step.outcome_ok ran] at failed
  cases failed

end Host
end HostNet
