import HostNet.Proofs.BridgeAddresses
import HostNet.Proofs.LinkPlaces

namespace HostNet.Bridge

open Kernel (Table Link LinkAddress)
open Kernel.Table (Mark Sits)
open Config (Plan)
open Stage (run)

-- The link that a set-up starts from: that of the bridge's name, or one as the kernel makes a bridge by default.
def standing (p : Plan) (t : Table) : Link :=
  (t.named? p.bridge).getD ⟨t.lastIndex + 1,p.bridge,Table.defaultMtu,.bridge (some false),false,false,none⟩

-- The marks that a set-up leaves on its link.
def shaped (p : Plan) (link : Link) : Link := Mark.up.on (if p.promiscuous then Mark.promiscuous.on link else link)

-- Tables that differ in their links alone.
structure Aside (t t' : Table) : Prop where
  addresses : t'.addresses = t.addresses
  routes : t'.routes = t.routes
  portVlans : t'.portVlans = t.portVlans

-- What the stages of a set-up make of a table: the bridge stands where it stood, or at the end, and its gateways come
-- after all addresses.
structure Arranged (p : Plan) (t t' : Table) (link : Link) (added : List LinkAddress) : Prop where
  sits : ∃ before after, Sits p.bridge before after link t' ∧ before ++ after = t.links.filter (·.name != p.bridge)
  shape : ∃ placed, Table.modified? (standing p t) (request p) = some placed ∧ link = shaped p placed
  addresses : t'.addresses = t.addresses ++ added
  given : ∀ a ∈ added, p.layer3 = true ∧ a.index = link.index ∧ a.net ∈ gatewaysOf p.podSubnets
  routes : t'.routes = t.routes
  portVlans : t'.portVlans = t.portVlans

variable {t t' : Table} {p : Plan} {name root : String} {before after : List Link} {link : Link} {m : Mark}
  {g g' : Ground} {nets : List Subnet}

theorem Aside.trans (first : Aside t t') (second : Aside t' t'') : Aside t t'' :=
  ⟨second.addresses.trans first.addresses,second.routes.trans first.routes,second.portVlans.trans first.portVlans⟩

theorem standing_absent (absent : t.named? p.bridge = none) :
    Table.modified? (standing p t) (request p) = some { fresh p with index := t.lastIndex + 1 } := by
  rw [standing,absent]
  cases filtering : p.filtering <;> simp [Table.modified?,request,fresh,filtering]

theorem standing_named (there : t.named? p.bridge = some link) : standing p t = link := by
  rw [standing,there,Option.getD_some]

theorem placed_sits (orderly : t.Orderly)
    (single : ∀ link, t.named? p.bridge = some link → ∃ before after, Sits p.bridge before after link t)
    (ran : placed p t = some t') : ∃ before after placed,
      Sits p.bridge before after placed t' ∧ before ++ after = t.links.filter (·.name != p.bridge) ∧
      Table.modified? (standing p t) (request p) = some placed ∧ Aside t t' := by
  unfold placed at ran
  cases there : t.named? p.bridge with
  | none =>
    simp only [there] at ran
    cases ran
    refine ⟨t.links,[],_,Sits.inserted orderly (fresh p) there,?_,standing_absent there,rfl,rfl,rfl⟩
    rw [List.append_nil,List.filter_eq_self.mpr]
    intro other among
    simpa using List.find?_eq_none.mp there other among
  | some link =>
    simp only [there] at ran
    obtain ⟨changed,asked,rfl⟩ := Option.map_eq_some_iff.mp ran
    obtain ⟨before,after,sits⟩ := single link there
    have called := (modified_kept asked).1
    refine ⟨before,after,changed,(sits.changed (fun _ => changed) called (Table.modified_index asked)).1,
      sits.others.symm,?_,rfl,rfl,rfl⟩
    rw [standing_named there]
    exact asked

theorem marked_sits (sits : Sits name before after link t) (ran : marked name m t = some t') :
    Sits name before after (m.on link) t' ∧ Aside t t' := by
  rw [marked,sits.named,Option.map_some] at ran
  cases ran
  exact ⟨(sits.changed m.on (m.on_name link) (m.on_index link)).2,rfl,rfl,rfl⟩

theorem bridging_sits (orderly : g.kernel.Orderly)
    (single : ∀ link, g.kernel.named? p.bridge = some link → ∃ before after, Sits p.bridge before after link g.kernel)
    (ran : run (bridging root p) g = some g') :
    ∃ before after placed, Sits p.bridge before after (shaped p placed) g'.kernel ∧
      before ++ after = g.kernel.links.filter (·.name != p.bridge) ∧
      Table.modified? (standing p g.kernel) (request p) = some placed ∧ Aside g.kernel g'.kernel := by
  rw [bridging,List.append_assoc,List.singleton_append] at ran
  obtain ⟨g₁,first,later⟩ := Option.bind_eq_some_iff.mp ((Stage.run_cons _ _ _).symm.trans ran)
  obtain ⟨t₁,made,rfl⟩ := Stage.within_some.mp first
  obtain ⟨before,after,link,sits,others,asked,aside⟩ := placed_sits orderly single made
  refine ⟨before,after,link,?_⟩
  obtain ⟨g₂,promoted,last⟩ := Stage.run_begun later
  have middle : Sits p.bridge before after (if p.promiscuous then Mark.promiscuous.on link else link) g₂.kernel ∧
      Aside t₁ g₂.kernel := by
    split at promoted
    · rename_i promiscuous
      obtain ⟨t₂,marked,rfl⟩ := Stage.within_some.mp (Stage.run_single.symm.trans promoted)
      rw [if_pos promiscuous]
      exact marked_sits sits marked
    · rename_i promiscuous
      cases promoted
      rw [if_neg promiscuous]
      exact ⟨sits,rfl,rfl,rfl⟩
  obtain ⟨g₃,closed,raised⟩ := Option.bind_eq_some_iff.mp ((Stage.run_cons _ _ _).symm.trans last)
  obtain ⟨files,_,rfl⟩ := Stage.within_some.mp closed
  obtain ⟨t₃,marked,rfl⟩ := Stage.within_some.mp (Stage.run_single.symm.trans raised)
  obtain ⟨up,beside⟩ := marked_sits middle.1 marked
  exact ⟨up,others,asked,aside.trans (middle.2.trans beside)⟩

theorem assigned_appends (there : t.named? name = some link) (known : net.gateway = .ok gateway)
    (ran : assigned name net t = some t') : ∃ added, (∀ a ∈ added, a = ⟨link.index,gateway⟩) ∧
      t' = { t with addresses := t.addresses ++ added } := by
  rw [assigned,known,there] at ran
  cases ran
  split
  · exact ⟨[],by simp,by rw [List.append_nil]⟩
  · exact ⟨[_],by simp,rfl⟩

-- Gateways are added behind all addresses, and nothing else changes.
theorem assigning_appends (there : g.kernel.named? name = some link)
    (ran : run (nets.map fun net => onKernel (assigned name net)) g = some g') :
    ∃ added, (∀ a ∈ added, a.index = link.index ∧ a.net ∈ gatewaysOf nets) ∧
      g' = { g with kernel := { g.kernel with addresses := g.kernel.addresses ++ added } } := by
  induction nets generalizing g with
  | nil => cases ran; exact ⟨[],by simp,by rw [List.append_nil]⟩
  | cons net rest ih =>
    obtain ⟨m,first,others⟩ := Option.bind_eq_some_iff.mp ((Stage.run_cons _ _ _).symm.trans ran)
    obtain ⟨t,made,rfl⟩ := Stage.within_some.mp first
    obtain ⟨gateway,_,known,_⟩ := assigned_some made
    obtain ⟨one,alike,rfl⟩ := assigned_appends there known made
    obtain ⟨more,ofThem,rfl⟩ := ih (g := { g with kernel := { g.kernel with addresses := g.kernel.addresses ++ one } })
      there others
    rw [gatewaysOf_cons rest known]
    refine ⟨one ++ more,fun a among => ?_,by simp only [List.append_assoc]⟩
    rcases List.mem_append.mp among with early | late
    · rw [alike a early]
      exact ⟨rfl,List.mem_cons_self⟩
    · exact ⟨(ofThem a late).1,List.mem_cons_of_mem _ (ofThem a late).2⟩

-- What a whole run of the stages leaves in the kernel.
theorem stages_arranged (orderly : g.kernel.Orderly)
    (single : ∀ link, g.kernel.named? p.bridge = some link → ∃ before after, Sits p.bridge before after link g.kernel)
    (ran : run (stages root p) g = some g') : ∃ link added, Arranged p g.kernel g'.kernel link added := by
  rw [stages,List.append_assoc] at ran
  obtain ⟨g₁,switched,later⟩ := Stage.run_begun ran
  obtain ⟨g₂,made,given⟩ := Stage.run_begun later
  have kernel := Host.forwarding_kernel switched
  rw [← kernel] at orderly single ⊢
  obtain ⟨before,after,placed,sits,others,asked,aside⟩ := bridging_sits orderly single made
  by_cases layer3 : p.layer3 = true
  · rw [if_pos layer3] at given
    obtain ⟨_,checked,assigned⟩ := Option.bind_eq_some_iff.mp ((Stage.run_cons _ _ _).symm.trans given)
    obtain ⟨_,passed,rfl⟩ := Stage.within_some.mp checked
    obtain ⟨_,rfl⟩ := distinct_some.mp passed
    obtain ⟨added,ofThem,rfl⟩ := assigning_appends (g := g₂) sits.named assigned
    refine ⟨shaped p placed,added,⟨before,after,⟨sits.links,sits.called,sits.names,sits.indices⟩,others⟩,
      ⟨placed,asked,rfl⟩,?_,fun a among => ⟨layer3,ofThem a among⟩,aside.routes,aside.portVlans⟩
    exact congrArg (· ++ added) aside.addresses
  · rw [if_neg layer3] at given
    cases given
    refine ⟨shaped p placed,[],⟨before,after,sits,others⟩,⟨placed,asked,rfl⟩,?_,by simp,aside.routes,aside.portVlans⟩
    rw [List.append_nil]
    exact aside.addresses

end HostNet.Bridge
