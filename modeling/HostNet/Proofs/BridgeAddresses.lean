import HostNet.Proofs.CarriedGateways

namespace HostNet

open Stage (run)
open Kernel (Table Link LinkAddress)
open Config (Plan)
open Bridge (Ground)

namespace Sysctl

-- A switch that can be read, whatever it reads.
def Readable (root : String) (family : Family) (files : Files) : Prop :=
  ∃ value, get root (forwarding family) files = .ok value files

theorem Readable.of_told (told : ((get root (forwarding family)).outcome files).1.toOption = some value) :
    Readable root family files := ⟨value,get_ok.mpr ⟨rfl,(get_ok.mp (Step.of_told told)).2⟩⟩

theorem Readable.again (readable : Readable root family files) (free : files.find? place ≠ some .directory) :
    Readable root family (files.put place (.file one)) := by
  obtain ⟨value,told⟩ := readable
  obtain ⟨_,at_,bytes,holds,known⟩ := get_ok.mp told
  by_cases same : at_ = place
  · subst same
    exact ⟨"1",get_ok.mpr ⟨rfl,at_,one,holds.writable.written,one_read⟩⟩
  · exact ⟨value,get_ok.mpr ⟨rfl,at_,bytes,holds.kept free same,known⟩⟩

end Sysctl

namespace Bridge

variable {t t' : Table} {p : Plan} {name : String} {m : Table.Mark} {g g' : Ground} {nets : List Subnet}

-- No address is of a link that is still to come.
def Bounded (t : Table) : Prop := ∀ a ∈ t.addresses, a.index ≤ t.lastIndex

theorem addressesOf_named (there : t.named? name = some link) :
    t.addressesOf name = (t.addresses.filter (·.index == link.index)).map LinkAddress.net := by
  rw [Table.addressesOf,there]

-- A new link has no addresses, because its index is new.
theorem placed_addresses (bounded : Bounded t) (ran : placed p t = some t') : t'.addresses = t.addresses ∧
    t'.addressesOf p.bridge = t.addressesOf p.bridge ∧ t.lastIndex ≤ t'.lastIndex := by
  unfold placed at ran
  cases there : t.named? p.bridge with
  | none =>
    simp only [there] at ran
    cases ran
    refine ⟨rfl,?_,Nat.le_succ _⟩
    have inserted : (t.insert (fresh p)).named? p.bridge = some { fresh p with index := t.lastIndex + 1 } :=
      Table.named_inserted there
    rw [addressesOf_named inserted,Table.addressesOf,there,List.map_eq_nil_iff,List.filter_eq_nil_iff]
    intro a among same
    have late : a.index = t.lastIndex + 1 := by simpa using same
    exact absurd (bounded a among) (by omega)
  | some link =>
    simp only [there] at ran
    obtain ⟨changed,asked,rfl⟩ := Option.map_eq_some_iff.mp ran
    have called := (modified_kept asked).1
    have found : (t.changeFirst (·.name == p.bridge) fun _ => changed).named? p.bridge = some changed :=
      Table.find_first (by rw [called,Table.named_name there]; exact beq_self_eq_true _) there
    refine ⟨rfl,?_,Nat.le_refl _⟩
    rw [addressesOf_named found,addressesOf_named there,Table.modified_index asked]
    rfl

theorem marked_addresses (ran : marked name m t = some t') : t'.addresses = t.addresses ∧
    t'.addressesOf name = t.addressesOf name ∧ t'.lastIndex = t.lastIndex := by
  obtain ⟨link,_,there,_,_,addresses,others⟩ := marked_some ran
  obtain ⟨link',found,either⟩ := others there
  have index : link'.index = link.index := by rcases either with rfl | rfl <;> simp
  refine ⟨addresses,?_,?_⟩
  · rw [addressesOf_named found,addressesOf_named there,addresses,index]
  · obtain ⟨_,_,rfl⟩ := Option.map_eq_some_iff.mp ran
    rfl

-- Making the bridge gives it no addresses and takes none from it.
theorem bridging_addresses (root : String) (bounded : Bounded g.kernel) (ran : run (bridging root p) g = some g') :
    g'.kernel.addresses = g.kernel.addresses ∧ g'.kernel.addressesOf p.bridge = g.kernel.addressesOf p.bridge := by
  refine (Stage.run_keeps (I := fun m : Ground => (m.kernel.addresses = g.kernel.addresses ∧
    m.kernel.addressesOf p.bridge = g.kernel.addressesOf p.bridge) ∧ Bounded m.kernel) (fun stage among m e held made =>
      ?_) ⟨⟨rfl,rfl⟩,bounded⟩ ran).1
  obtain ⟨⟨all,own⟩,bounded⟩ := held
  rcases mem_bridging among with rfl | ⟨mark,rfl⟩ | rfl
  · obtain ⟨t,placed,rfl⟩ := Stage.within_some.mp made
    obtain ⟨addresses,its,later⟩ := placed_addresses bounded placed
    refine ⟨⟨addresses.trans all,its.trans own⟩,fun a among => ?_⟩
    exact (bounded a (addresses ▸ among)).trans later
  · obtain ⟨t,marked,rfl⟩ := Stage.within_some.mp made
    obtain ⟨addresses,its,still⟩ := marked_addresses marked
    refine ⟨⟨addresses.trans all,its.trans own⟩,fun a among => ?_⟩
    exact (bounded a (addresses ▸ among)).trans (Nat.le_of_eq still.symm)
  · obtain ⟨files,_,rfl⟩ := Stage.within_some.mp made
    exact ⟨⟨all,own⟩,bounded⟩

-- What the gateways of subnets add to the addresses.
theorem assigning_addresses (there : g.kernel.named? name = some link)
    (ran : run (nets.map fun net => onKernel (assigned name net)) g = some g') :
    g'.kernel.links = g.kernel.links ∧ (g.kernel.addresses.Nodup → g'.kernel.addresses.Nodup) ∧
      ∀ a, a ∈ g'.kernel.addresses ↔
        a ∈ g.kernel.addresses ∨ ∃ gateway ∈ gatewaysOf nets, a = ⟨link.index,gateway⟩ := by
  induction nets generalizing g with
  | nil => cases ran; exact ⟨rfl,id,fun a => by simp [gatewaysOf]⟩
  | cons net rest ih =>
    obtain ⟨m,first,others⟩ := Option.bind_eq_some_iff.mp ((Stage.run_cons _ _ _).symm.trans ran)
    obtain ⟨t,made,rfl⟩ := Stage.within_some.mp first
    obtain ⟨gateway,link',known,there',links,_,members⟩ := assigned_some made
    cases there.symm.trans there'
    have still : ({ g with kernel := t } : Ground).kernel.named? name = some link := by
      rw [Table.named?,links]
      exact there
    obtain ⟨links',once,members'⟩ := ih still others
    refine ⟨links'.trans links,fun before => once ?_,fun a => ?_⟩
    · unfold assigned at made
      rw [known,there] at made
      cases made
      split
      · exact before
      · rename_i new
        exact before.append (List.nodup_singleton _) (by simpa using new)
    · rw [members' a,members a,gatewaysOf_cons rest known]
      simp only [List.mem_cons,exists_eq_or_imp]
      tauto

end Bridge

namespace Host

variable {p : Plan} {t : Table} {g g' : Ground} {net : Subnet} {root name : String}

-- Nothing but a bridge has the name.
def Free (name : String) (t : Table) : Prop :=
  ∀ link, t.named? name = some link → ∃ filtering, link.kind = .bridge filtering

theorem placed_possible (free : Free p.bridge t) : ∃ t', Bridge.placed p t = some t' := by
  unfold Bridge.placed
  cases there : t.named? p.bridge with
  | none => exact ⟨_,rfl⟩
  | some link =>
    obtain ⟨filtering,kind⟩ := free link there
    simp only [Table.modified?,Bridge.request,kind,Option.map_some]
    exact ⟨_,rfl⟩

theorem marked_possible (bridged : Bridged name g) (m : Table.Mark) :
    ∃ t, Bridge.marked name m g.kernel = some t ∧ Bridged name { g with kernel := t } := by
  obtain ⟨link,filtering,there,kind⟩ := bridged
  have made : Bridge.marked name m g.kernel = some (g.kernel.changeFirst (·.index == link.index) m.on) := by
    rw [Bridge.marked,there]
    rfl
  obtain ⟨link',found,_⟩ := marked_found ⟨there,kind⟩ made
  exact ⟨_,made,link',filtering,found⟩

theorem bridging_possible (root : String) (free : Free p.bridge g.kernel) :
    ∃ g', run (Bridge.bridging root p) g = some g' ∧ Bridged p.bridge g' := by
  obtain ⟨t,placed⟩ := placed_possible free
  have bridged : Bridged p.bridge { g with kernel := t } := placed_bridged placed g.files
  have first : Bridge.onKernel (Bridge.placed p) g = some { g with kernel := t } := Stage.within_some.mpr ⟨t,placed,rfl⟩
  rw [Bridge.bridging,List.append_assoc,List.singleton_append,Stage.run_cons,first,Option.bind_some]
  refine Stage.run_possible (I := Bridged p.bridge) (fun stage among m bridged => ?_) bridged
  have marking : ∀ mark, ∃ e, Bridge.onKernel (Bridge.marked p.bridge mark) m = some e ∧ Bridged p.bridge e := by
    intro mark
    obtain ⟨t,marked,bridged'⟩ := marked_possible bridged mark
    exact ⟨_,Stage.within_some.mpr ⟨t,marked,rfl⟩,bridged'⟩
  rcases List.mem_append.mp among with among | among
  · split at among
    · cases List.mem_singleton.mp among
      exact marking .promiscuous
    · cases among
  · rcases List.mem_pair.mp among with rfl | rfl
    · have made : ∃ files, Sysctl.closed root p.bridge m.files = some files := ⟨_,by rw [Sysctl.closed]⟩
      obtain ⟨files,made⟩ := made
      exact ⟨_,Stage.within_some.mpr ⟨files,made,rfl⟩,bridged⟩
    · exact marking .up

theorem forwarded_possible (readable : ∀ family, Sysctl.Readable root family g.files) (family : Family) :
    ∃ files, Bridge.onFiles (Sysctl.forwarded root family) g = some { g with files } ∧
      ∀ family, Sysctl.Readable root family files := by
  obtain ⟨value,told⟩ := readable family
  obtain ⟨files,enabled⟩ := Sysctl.enableForwarding_readable told
  refine ⟨files,Stage.within_some.mpr ⟨files,Sysctl.forwarded_some.mpr enabled,rfl⟩,fun other => ?_⟩
  rcases (Sysctl.enableForwarding_ok enabled).2 with rfl | ⟨place,writable,rfl⟩
  · exact readable other
  · exact (readable other).again writable.free

theorem forwarding_possible (readable : ∀ family, Sysctl.Readable root family g.files) :
    ∃ files, run (Bridge.forwarding root) g = some { g with files } := by
  obtain ⟨files,first,still⟩ := forwarded_possible readable .v4
  obtain ⟨files',second,_⟩ := forwarded_possible (g := { g with files }) still .v6
  refine ⟨files',?_⟩
  rw [Bridge.forwarding,Stage.run_cons,first,Option.bind_some,Stage.run_single,second]

theorem bridging_bridged (ran : run (Bridge.bridging root p) g = some g') : Bridged p.bridge g' := by
  have among : Bridge.onKernel (Bridge.placed p) ∈ Bridge.bridging root p := by
    unfold Bridge.bridging
    simp
  obtain ⟨t,fixed,same⟩ := Stage.within_some.mp (Stage.fixed_after (Bridge.bridging_resumable root p) ran _ among)
  rw [← same]
  exact placed_bridged fixed g'.files

theorem forwarding_kernel (ran : run (if p.layer3 then Bridge.forwarding root else []) g = some g') :
    g'.kernel = g.kernel := by
  refine Stage.run_keeps (I := fun m : Ground => m.kernel = g.kernel) (fun stage among m e same made => ?_) rfl ran
  split at among
  · rcases List.mem_pair.mp among with rfl | rfl <;>
      obtain ⟨files,_,rfl⟩ := Stage.within_some.mp made <;> exact same
  · cases among

theorem assigned_possible (known : ∃ gateway, net.gateway = .ok gateway) (bridged : Bridged name g) :
    ∃ e, Bridge.onKernel (Bridge.assigned name net) g = some e ∧ Bridged name e := by
  obtain ⟨gateway,known⟩ := known
  obtain ⟨link,filtering,there,kind⟩ := bridged
  have made : ∃ t, Bridge.assigned name net g.kernel = some t := ⟨_,by rw [Bridge.assigned,known,there]⟩
  obtain ⟨t,made⟩ := made
  obtain ⟨_,_,_,_,links,_⟩ := Bridge.assigned_some made
  refine ⟨{ g with kernel := t },Stage.within_some.mpr ⟨t,made,rfl⟩,link,filtering,?_,kind⟩
  rw [Table.named?,links]
  exact there

-- The stages of a set-up are possible if no gateway that the bridge lacks comes twice.
theorem stages_possible (free : Free p.bridge g.kernel) (bounded : Bridge.Bounded g.kernel)
    (readable : p.layer3 = true → ∀ family, Sysctl.Readable root family g.files)
    (known : ∀ net ∈ p.podSubnets, ∃ gateway, net.gateway = .ok gateway)
    (once : (Bridge.lacking (g.kernel.addressesOf p.bridge) p.podSubnets).Nodup) :
    ∃ g', run (Bridge.stages root p) g = some g' := by
  have switching : ∃ files, run (if p.layer3 then Bridge.forwarding root else []) g = some { g with files } := by
    split
    · rename_i addressed
      exact forwarding_possible (readable addressed)
    · exact ⟨g.files,rfl⟩
  obtain ⟨files,switched⟩ := switching
  obtain ⟨g₂,made,bridged⟩ := bridging_possible (g := { g with files }) root free
  have own := (Bridge.bridging_addresses (g := { g with files }) root bounded made).2
  rw [Bridge.stages,List.append_assoc,Stage.run_through switched,Stage.run_through made]
  split
  · have distinct : Bridge.onKernel (Bridge.distinct p.bridge p.podSubnets) g₂ = some g₂ := by
      refine Stage.within_some.mpr ⟨g₂.kernel,Bridge.distinct_some.mpr ⟨?_,rfl⟩,rfl⟩
      rw [own]
      exact once
    rw [Bridge.addressing,Stage.run_cons,distinct,Option.bind_some]
    have each : ∀ stage ∈ p.podSubnets.map fun net => Bridge.onKernel (Bridge.assigned p.bridge net),
        ∀ m, Bridged p.bridge m → ∃ e, stage m = some e ∧ Bridged p.bridge e := by
      intro stage among m bridged
      obtain ⟨net,there,rfl⟩ := List.mem_map.mp among
      exact assigned_possible (known net there) bridged
    obtain ⟨g',given,_⟩ := Stage.run_possible each bridged
    exact ⟨g',given⟩
  · exact ⟨g₂,rfl⟩

theorem addressesOf_once (once : t.addresses.Nodup) (name : String) : (t.addressesOf name).Nodup := by
  unfold Table.addressesOf
  cases t.named? name with
  | none => exact List.nodup_nil
  | some link =>
    refine (once.filter _).map_on fun a first b second same => ?_
    have one := (List.mem_filter.mp first).2
    have two := (List.mem_filter.mp second).2
    obtain ⟨_,_⟩ := a
    obtain ⟨_,_⟩ := b
    simp only [beq_iff_eq] at one two same
    rw [one,two,same]

-- What the stages give to the bridge: each gateway that it lacks, once.
theorem stages_addresses (bounded : Bridge.Bounded g.kernel) (addressed : p.podSubnets ≠ [] → p.layer3 = true)
    (ran : run (Bridge.stages root p) g = some g') :
    (Bridge.lacking (g.kernel.addressesOf p.bridge) p.podSubnets).Nodup ∧
      (g.kernel.addresses.Nodup → (g'.kernel.addressesOf p.bridge).Nodup) ∧
      ∀ net, net ∈ g'.kernel.addressesOf p.bridge ↔
        net ∈ g.kernel.addressesOf p.bridge ∨ net ∈ Bridge.gatewaysOf p.podSubnets := by
  rw [Bridge.stages,List.append_assoc] at ran
  obtain ⟨g₁,switched,later⟩ := Stage.run_begun ran
  obtain ⟨g₂,made,given⟩ := Stage.run_begun later
  have kernel := forwarding_kernel switched
  obtain ⟨all,own⟩ := Bridge.bridging_addresses root (g := g₁) (by rw [kernel]; exact bounded) made
  rw [kernel] at all own
  obtain ⟨link,_,there,_⟩ := bridging_bridged made
  by_cases layer3 : p.layer3 = true
  · rw [if_pos layer3] at given
    obtain ⟨m,distinct,assigned⟩ := Option.bind_eq_some_iff.mp ((Stage.run_cons _ _ _).symm.trans given)
    obtain ⟨t,passed,rfl⟩ := Stage.within_some.mp distinct
    obtain ⟨once,rfl⟩ := Bridge.distinct_some.mp passed
    obtain ⟨links,kept,members⟩ := Bridge.assigning_addresses (g := g₂) there assigned
    have there' : g'.kernel.named? p.bridge = some link := by
      rw [Table.named?,links]
      exact there
    rw [own] at once
    refine ⟨once,fun before => addressesOf_once (kept (all.symm ▸ before)) _,fun net => ?_⟩
    rw [← own,Bridge.addressesOf_named there,Bridge.addressesOf_named there',Table.mem_addressesAt,
      Table.mem_addressesAt,members]
    simp
  · have nothing : p.podSubnets = [] := by_contra fun some => layer3 (addressed some)
    rw [if_neg layer3] at given
    cases given
    rw [nothing]
    refine ⟨List.nodup_nil,fun before => addressesOf_once (all.symm ▸ before) _,fun net => ?_⟩
    rw [own]
    simp [Bridge.gatewaysOf]

end Host

end HostNet
