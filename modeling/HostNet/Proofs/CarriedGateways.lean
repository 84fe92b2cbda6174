import HostNet.Proofs.AddressText
import HostNet.Proofs.CarriedBridge

namespace HostNet.Host

open Step (Keeps)
open Stage (run)
open Kernel (Table Link)
open Config (Plan)
open Bridge (Ground prepare)

theorem contains_text (held : List Subnet) (net : Subnet) :
    (held.map Subnet.text).contains net.text = true ↔ net ∈ held := by
  rw [List.contains_iff_mem,List.mem_map]
  constructor
  · rintro ⟨other,among,same⟩
    rwa [← Subnet.text_injective same]
  · exact fun among => ⟨net,among,rfl⟩

-- The gateways that are still to be given to a link: none of them is among its addresses unless this is known.
structure Giving (name : String) (index : Nat) (held nets : List Subnet) (S : List Link → Prop) (g : Ground) :
    Prop where
  links : S g.kernel.links
  link : ∃ link, g.kernel.named? name = some link ∧ link.index = index
  known : ∀ a ∈ held, ⟨index,a⟩ ∈ g.kernel.addresses
  new : ∀ a ∈ Bridge.lacking held nets, ⟨index,a⟩ ∉ g.kernel.addresses

theorem adding (index : Nat) (net : Subnet) : driver.addAddress index net = onKernel (Table.addAddress index net) := rfl

theorem addAddress_makes {h : Host} (known : net.gateway = .ok gateway) (there : h.kernel.named? name = some link)
    (new : ⟨link.index,gateway⟩ ∉ h.kernel.addresses) :
    Makes (Bridge.assigned name net) (driver.addAddress link.index gateway) h := by
  rw [adding,Table.addAddress]
  refine change_makes ?_
  obtain ⟨first,found⟩ := Table.indexed_named there
  have absent : h.kernel.addresses.contains ⟨link.index,gateway⟩ = false := by simpa using new
  rw [Bridge.assigned,found,known,there]
  simp only [absent,Bool.false_eq_true,if_false]
  rfl

-- One gateway is given to the link unless the link has it already.
theorem give_carries (known : net.gateway = .ok gateway) (once : (Bridge.lacking held (net :: rest)).Nodup)
    (e : Kernel.Error → Error) :
    CarriesOut (Giving name index held (net :: rest) S) [Bridge.onKernel (Bridge.assigned name net)]
      (if !(held.map Subnet.text).contains gateway.text then
        Step.mapError e (driver.addAddress index gateway) else pure ())
      fun _ => Giving name index held rest S := by
  rw [Bridge.lacking_cons held rest known] at once
  refine stage_carries (fun h => Step.keeps_if (Step.keeps_mapError _ ((driver_beside h).addAddress index gateway))
    (Step.keeps_pure ())) (assigned_plain name net) (fun h giving => ?_) fun g t giving made => ?_
  · obtain ⟨link,there,rfl⟩ := giving.link
    by_cases among : gateway ∈ held
    · rw [(contains_text held gateway).mpr among]
      have fixed : Bridge.assigned name net h.kernel = some h.kernel :=
        Bridge.assigned_fixed.mpr ⟨gateway,link,known,there,giving.known gateway among⟩
      exact Or.inl ⟨h.kernel,rfl,fixed⟩
    · rw [Bool.eq_false_iff.mpr fun there => among ((contains_text held gateway).mp there)]
      have new : gateway ∈ Bridge.lacking held (net :: rest) := by
        rw [Bridge.lacking_cons held rest known,if_neg among]
        exact List.mem_cons_self
      exact (addAddress_makes known there (giving.new gateway new)).mapError e
  · obtain ⟨gateway',link',known',there',same,_,members⟩ := Bridge.assigned_some made
    cases known.symm.trans known'
    obtain ⟨link,there,rfl⟩ := giving.link
    cases there.symm.trans there'
    refine ⟨by rw [same]; exact giving.links,⟨link',?_,rfl⟩,fun a among => ?_,fun a lacked held' => ?_⟩
    · rw [Table.named?,same]
      exact there
    · exact (members _).mpr (Or.inl (giving.known a among))
    · -- What is lacked is neither an address from before nor the one that was given.
      have fresh := giving.new a
      rw [Bridge.lacking_cons held rest known] at fresh
      rcases (members _).mp held' with old | given
      · split at fresh
        · exact fresh lacked old
        · exact fresh (List.mem_cons_of_mem _ lacked) old
      · cases given
        split at once
        · rename_i among
          exact Bridge.not_held lacked among
        · exact (List.nodup_cons.mp once).1 lacked

theorem addGateways_carries (root : String) (held nets : List Subnet) (once : (Bridge.lacking held nets).Nodup) :
    CarriesOut (Giving name index held nets S) (nets.map fun net => Bridge.onKernel (Bridge.assigned name net))
      (Bridge.addGateways (services root) index (held.map Subnet.text) nets)
      fun gateways g => gateways = Bridge.gatewaysOf nets ∧ S g.kernel.links := by
  induction nets with
  | nil => exact CarriesOut.pure [] fun g giving => ⟨rfl,giving.links⟩
  | cons net rest ih =>
    cases known : net.gateway with
    | error e =>
      rw [Bridge.addGateways_stuck _ _ _ _ known]
      refine CarriesOut.throw (Error.ipam e) fun g _ => ?_
      have impossible : Bridge.assigned name net g.kernel = none := by rw [Bridge.assigned,known]
      have stuck : Bridge.onKernel (Bridge.assigned name net) g = none := congrArg (Option.map _) impossible
      rw [List.map_cons,Stage.run_cons,stuck,Option.bind_none]
    | ok gateway =>
      have fewer : (Bridge.lacking held rest).Nodup := by
        rw [Bridge.lacking_cons held rest known] at once
        split at once
        · exact once
        · exact (List.nodup_cons.mp once).2
      rw [Bridge.addGateways_cons _ _ _ _ known,serving,Bridge.gatewaysOf_cons rest known]
      refine (give_carries known once _).cons fun _ => ?_
      exact (ih fewer).last fun gateways => CarriesOut.pure _ fun g given => ⟨by rw [given.1],given.2⟩

theorem addAddress_ok (ran : Table.addAddress index net t = .ok () u) :
    ⟨index,net⟩ ∉ t.addresses ∧ u.addresses = t.addresses ++ [⟨index,net⟩] := by
  have made := Table.change_ok ran
  split at made
  · cases made
  · split at made
    · cases made
    · rename_i fresh
      cases made
      exact ⟨by simpa using fresh,rfl⟩

-- Success means that no address was asked for twice, and none that the link had without being told about it.
theorem addGateways_distinct (root : String) (held nets : List Subnet)
    (ran : Bridge.addGateways (services root) index (held.map Subnet.text) nets h = .ok gateways u) :
    (Bridge.lacking held nets).Nodup ∧ ∀ a ∈ Bridge.lacking held nets, ⟨index,a⟩ ∉ h.kernel.addresses := by
  induction nets generalizing h gateways with
  | nil => exact ⟨List.nodup_nil,fun a among => nomatch among⟩
  | cons net rest ih =>
    cases known : net.gateway with
    | error e => rw [Bridge.addGateways_stuck _ _ _ _ known] at ran; cases ran
    | ok gateway =>
      rw [Bridge.addGateways_cons _ _ _ _ known,serving] at ran
      obtain ⟨_,t,given,later⟩ := Step.of_bind ran
      obtain ⟨gateways',_,others,done⟩ := Step.of_bind later
      cases done
      obtain ⟨once,fresh⟩ := ih others
      rw [Bridge.lacking_cons held rest known]
      by_cases among : gateway ∈ held
      · rw [(contains_text held gateway).mpr among] at given
        cases given
        rw [if_pos among]
        exact ⟨once,fresh⟩
      · rw [Bool.eq_false_iff.mpr fun there => among ((contains_text held gateway).mp there)] at given
        rw [if_neg among]
        obtain ⟨k,added,rfl⟩ := onKernel_ok (Step.of_mapError given)
        obtain ⟨new,grown⟩ := addAddress_ok added
        have apart : ∀ a ∈ Bridge.lacking held rest, ⟨index,a⟩ ∉ h.kernel.addresses ∧ a ≠ gateway := by
          intro a lacked
          have missing := fresh a lacked
          rw [grown] at missing
          exact ⟨fun old => missing (List.mem_append_left _ old),fun same => missing (by simp [same])⟩
        refine ⟨List.nodup_cons.mpr ⟨fun again => (apart gateway again).2 rfl,once⟩,fun a lacked => ?_⟩
        rcases List.mem_cons.mp lacked with rfl | later
        · exact new
        · exact (apart a later).1

-- What the bridge is listed with are the addresses of the link of its name.
theorem listing_carries (name : String) (bridge : Kernel.Bridge) (e : Kernel.Error → Error) :
    CarriesOut (Made name bridge) [] (Step.mapError e (driver.addressesOf bridge.link.index)) fun addresses g =>
      Made name bridge g ∧ addresses.map Kernel.LinkAddress.net = g.kernel.addressesOf name := by
  refine ((addressesOf_carries bridge.link.index).mapError e).imp (fun _ => id) fun addresses g listed => ?_
  obtain ⟨made,rfl⟩ := listed
  obtain ⟨link,filtering,⟨there,kind⟩,rfl⟩ := made
  refine ⟨⟨link,filtering,⟨there,kind⟩,rfl⟩,?_⟩
  rw [Table.addressesOf,there]
  simp only [Table.Mark.on_index]

theorem ensureGateways_carries (root : String) (p : Plan) (bridge : Kernel.Bridge) :
    CarriesOut (Made p.bridge bridge) (Bridge.addressing p) (Bridge.ensureGateways (services root) bridge p)
      fun gateways g => gateways = Bridge.gatewaysOf p.podSubnets ∧ Made p.bridge bridge g := by
  rw [Bridge.ensureGateways_listing,serving]
  refine (listing_carries p.bridge bridge _).asked fun addresses => ?_
  by_cases once : (Bridge.lacking (addresses.map Kernel.LinkAddress.net) p.podSubnets).Nodup
  · refine CarriesOut.pass (fun g given => ?_) ?_
    · refine Stage.within_some.mpr ⟨g.kernel,Bridge.distinct_some.mpr ⟨?_,rfl⟩,rfl⟩
      rw [← given.2]
      exact once
    · refine (addGateways_carries (S := fun links => ∃ g : Ground, g.kernel.links = links ∧ Made p.bridge bridge g)
        root _ _ once).imp (fun g given => ?_) ?_
      · obtain ⟨made,listed⟩ := given
        have at_ : ∀ a, a ∈ addresses.map Kernel.LinkAddress.net ↔ ⟨bridge.link.index,a⟩ ∈ g.kernel.addresses := by
          intro a
          obtain ⟨link,filtering,⟨there,_⟩,rfl⟩ := made
          rw [listed,Table.addressesOf,there]
          simp only [Table.Mark.on_index]
          exact Table.mem_addressesAt _ _ _
        refine ⟨⟨g,rfl,made⟩,?_,fun a among => (at_ a).mp among,fun a lacked there =>
          Bridge.not_held lacked ((at_ a).mpr there)⟩
        obtain ⟨link,filtering,⟨there,_⟩,rfl⟩ := made
        exact ⟨link,there,(Table.Mark.on_index .up link).symm⟩
      · rintro gateways g ⟨rfl,g',same,made⟩
        exact ⟨rfl,made.links same⟩
  · refine ⟨fun h => Bridge.keeps_addGateways (by rw [serving]; exact driver_beside h) _ _ _,
      fun {h gateways u} given ran => ?_,fun {h e u g} given ran through => ?_⟩
    · exact absurd (addGateways_distinct root _ _ ran).1 once
    · obtain ⟨_,passed,_⟩ := Option.bind_eq_some_iff.mp ((Stage.run_cons _ _ _).symm.trans through)
      obtain ⟨_,passed,_⟩ := Stage.within_some.mp passed
      obtain ⟨distinct,_⟩ := Bridge.distinct_some.mp passed
      rw [← given.2] at distinct
      exact absurd distinct once

-- What a set-up tells about is all in the ground that it leaves.
def Told (p : Plan) (told : Kernel.Bridge × List Subnet) (g : Ground) : Prop :=
  Made p.bridge told.1 g ∧ told.2 = if p.layer3 then Bridge.gatewaysOf p.podSubnets else []

theorem Told.unique (one : Told p told g) (two : Told p told' g) : told = told' := by
  obtain ⟨⟨link,filtering,⟨there,kind⟩,bridge⟩,gateways⟩ := one
  obtain ⟨⟨link',filtering',⟨there',kind'⟩,bridge'⟩,gateways'⟩ := two
  cases there.symm.trans there'
  cases kind.symm.trans kind'
  exact Prod.ext (bridge.trans bridge'.symm) (gateways.trans gateways'.symm)

theorem forward_carries (root : String) (p : Plan) : CarriesOut (fun _ => True)
    (if p.layer3 then Bridge.forwarding root else []) (Bridge.forward (services root) p) fun _ _ => True := by
  unfold Bridge.forward
  split
  · exact (forwarding_carries root .v4).cons fun _ => forwarding_carries root .v6
  · exact CarriesOut.pure () fun _ _ => trivial

theorem address_carries (root : String) (p : Plan) (bridge : Kernel.Bridge) : CarriesOut (Made p.bridge bridge)
    (if p.layer3 then Bridge.addressing p else []) (Bridge.address (services root) p bridge)
      fun gateways => Told p (bridge,gateways) := by
  unfold Bridge.address
  cases addressed : p.layer3 with
  | true =>
    refine (ensureGateways_carries root p bridge).imp (fun _ => id) fun gateways g given => ⟨given.2,?_⟩
    rw [addressed]
    exact given.1
  | false =>
    refine CarriesOut.pure [] fun g made => ⟨made,?_⟩
    rw [addressed]
    rfl

theorem prepare_carries (root : String) (p : Plan) :
    CarriesOut (fun _ => True) (Bridge.stages root p) (prepare (services root) p) (Told p) := by
  unfold Bridge.stages prepare
  rw [List.append_assoc]
  refine (forward_carries root p).bind fun _ => (ensure_carries root p).bind fun bridge => ?_
  exact (address_carries root p bridge).last fun gateways => CarriesOut.pure _ fun _ told => told

end HostNet.Host
