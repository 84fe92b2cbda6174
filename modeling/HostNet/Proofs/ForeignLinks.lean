import HostNet.Proofs.ConfigurationErrors
import HostNet.Proofs.SetupResults
import HostNet.Vlan

namespace HostNet

namespace Kernel

def LinkKind.isBridge : LinkKind → Bool
  | .bridge _ => true
  | _ => false

def LinkKind.isVlan : LinkKind → Bool
  | .vlan _ => true
  | _ => false

namespace Table

-- What a deletion may do to the links and addresses of a table: nothing, or it takes one link of those that it may
-- take, with the addresses of that link, and leaves all others.
inductive Loses (mayLose : Link → Prop) (t u : Table) : Prop where
  | nothing (links : u.links = t.links) (addresses : u.addresses = t.addresses)
  | one (link : Link) (among : link ∈ t.links) (allowed : mayLose link) (links : u.links = t.links.erase link)
      (addresses : u.addresses = t.addresses.filter (·.index != link.index))

-- How the deletion of a name ends that makes requests of these kinds: all is as it was, because there is no such link
-- or a request is refused, or the link is gone.
inductive Attempted (name : String) (kinds : List RequestKind) (t u : Table) : Prop where
  | kept (hindered : ∀ link, t.named? name = some link → ¬t.Serves kinds) (same : Same t u)
  | gone (link : Link) (there : t.named? name = some link) (served : t.Serves kinds) (unplugged : Unplugged name t u)

section
variable {t u : Table} {name : String} {link : Link} {kinds : List RequestKind} {mayLose : Link → Prop}

theorem modified_bridge (asked : modified? link (.bridge b) = some changed) : link.kind.isBridge = true := by
  cases kind : link.kind with
  | bridge => rfl
  | _ => simp [modified?,kind] at asked

theorem filter_others (distinct : (t.links.map Link.index).Nodup) (among : link ∈ t.links) :
    t.links.filter (·.index != link.index) = t.links.erase link := by
  rw [distinct.of_map.erase_eq_filter]
  refine List.filter_congr fun other member => ?_
  rw [Bool.eq_iff_iff,bne_iff_ne,bne_iff_ne]
  exact not_congr ⟨List.inj_on_of_nodup_map distinct member among,congrArg Link.index⟩

-- A deletion that succeeds takes the link of the name, of whichever kind that is.
theorem Attempted.loses (attempted : Attempted name kinds t u) (distinct : (t.links.map Link.index).Nodup) :
    Loses (fun link => link.name = name) t u := by
  cases attempted with
  | kept hindered same => exact .nothing same.links same.addresses
  | gone link there served unplugged =>
    have among := List.mem_of_find?_eq_some there
    obtain ⟨links,addresses,_⟩ := unplugged
    rw [there] at links addresses
    exact .one link among (named_name there) (links.trans (filter_others distinct among)) addresses

theorem Attempted.loses_iff (attempted : Attempted name kinds t u) (distinct : (t.links.map Link.index).Nodup)
    (mayLose : Link → Prop) :
    Loses mayLose t u ↔ ∀ link, t.named? name = some link → mayLose link ∨ ¬t.Serves kinds := by
  cases attempted with
  | kept hindered same =>
    exact iff_of_true (.nothing same.links same.addresses) fun link there => .inr (hindered link there)
  | gone link there served unplugged =>
    have among := List.mem_of_find?_eq_some there
    obtain ⟨links,addresses,_⟩ := unplugged
    rw [there] at links addresses
    have links : u.links = t.links.erase link := links.trans (filter_others distinct among)
    constructor
    · intro lost other named
      obtain rfl : link = other := Option.some.inj (there.symm.trans named)
      have absent : link ∉ u.links := by
        rw [links]
        exact distinct.of_map.not_mem_erase
      refine .inl ?_
      cases lost with
      | nothing same _ =>
        rw [same] at absent
        exact absurd among absent
      | one taken _ allowed left _ =>
        by_cases same : link = taken
        · rwa [same]
        · rw [left] at absent
          exact absurd ((List.mem_erase_of_ne same).mpr among) absent
    · intro either
      exact .one link among ((either link there).resolve_right (not_not_intro served)) links addresses

-- Where the link is not found, no deletion that looks for it does anything.
theorem find_cases (t : Table) (name : String) :
    (∃ e u, driver.find name t = .error e u ∧ ∀ kinds, .linkByName ∈ kinds → Attempted name kinds t u) ∨
    ∃ link u, t.named? name = some link ∧ t.check .linkByName = .ok () ∧ driver.find name t = .ok link u ∧
      Same t u := by
  by_cases served : t.check .linkByName = .ok ()
  · cases there : t.named? name with
    | none =>
      obtain ⟨u,missing,same⟩ := find_absent served there
      refine .inl ⟨_,u,missing,fun kinds _ => .kept (fun link named => ?_) same⟩
      rw [there] at named
      cases named
    | some link =>
      obtain ⟨u,found,same⟩ := find_ok served there
      exact .inr ⟨link,u,rfl,served,found,same⟩
  · obtain ⟨e,denied⟩ := find_denied served name
    exact .inl ⟨e,t,denied,fun kinds among => .kept (fun _ _ all => served (all _ among)) (Same.refl t)⟩

-- The last request of a deletion, where all before it were served.
theorem deleteLink_attempted (wrap : Error → HostNet.Error) (same : Same t u) (there : t.named? name = some link)
    (served : t.Serves kinds) : Attempted name (kinds ++ [.deleteLink]) t
      ((Step.mapError wrap (deleteLink link.index)).outcome u).2 := by
  by_cases allowed : t.check .deleteLink = .ok ()
  · obtain ⟨w,deleted,unplugged⟩ := deleteLink_ok ((same.check _).trans allowed) same there
    rw [Step.outcome_ok (Step.mapError_ok deleted)]
    refine .gone link there (fun kind among => ?_) unplugged
    rcases List.mem_append.mp among with among | among
    · exact served kind among
    · rw [List.mem_singleton.mp among]
      exact allowed
  · obtain ⟨e,denied⟩ := deleteLink_denied (fun ok => allowed ((same.check _).symm.trans ok)) link.index
    rw [Step.outcome_error (Step.mapError_error denied)]
    exact .kept (fun _ _ all => allowed (all .deleteLink (by simp))) same

theorem delete_attempted (t : Table) (name : String) :
    Attempted name [.linkByName,.deleteLink] t ((driver.delete name).outcome t).2 := by
  unfold Driver.delete
  rcases find_cases t name with ⟨e,u,failed,kept⟩ | ⟨link,u,there,looked,found,same⟩
  · rw [Step.outcome_error (Step.bind_error failed)]
    exact kept _ (by simp)
  · rw [Step.outcome_bind found]
    exact deleteLink_attempted _ same there (List.forall_mem_singleton.mpr looked)

theorem deleteWithAddresses_attempted (t : Table) (name : String) : Attempted name
    [.linkByName,.addresses,.deleteLink] t ((driver.deleteWithAddresses name).outcome t).2 := by
  unfold Driver.deleteWithAddresses
  rcases find_cases t name with ⟨e,u,failed,kept⟩ | ⟨link,u,there,looked,found,same⟩
  · rw [Step.outcome_error (Step.bind_error failed)]
    exact kept _ (by simp)
  · rw [Step.outcome_bind found]
    by_cases listing : t.check .addresses = .ok ()
    · obtain ⟨v,listed,still⟩ := addressesOf_ok ((same.check _).trans listing) link.index
      have served : t.Serves [.linkByName,.addresses] := by simp [Serves,looked,listing]
      rw [Step.outcome_bind (Step.mapError_ok listed),Step.outcome_then_pure]
      exact deleteLink_attempted _ (same.trans still) there served
    · obtain ⟨e,denied⟩ := addressesOf_denied (fun ok => listing ((same.check _).symm.trans ok)) link.index
      rw [Step.outcome_error (Step.bind_error (Step.mapError_error denied))]
      exact .kept (fun _ _ all => listing (all .addresses (by simp))) same

end
end Table
end Kernel

namespace Host
open Kernel (Table Link LinkKind)
open Kernel.Table (Loses Attempted)
open Config (Network)
variable {h : Host} {root name : String} {n : Network}

theorem teardown_kernel (nets : List Subnet) (identity : Masquerade.Identity) (h : Host) :
    ((masquerade.teardown nets identity).outcome h).2.kernel = h.kernel := by
  have iptables : masquerade.iptables.Keeps fun u => u.kernel = h.kernel := by
    have inner : (Masquerade.Masquerader.iptables Firewall.Iptables.Memory.ops).Keeps fun _ => True :=
      ⟨fun _ _ => trivial,fun _ _ _ _ => trivial,fun _ _ _ _ => trivial⟩
    have whole : ∀ (u : Host) (m : Firewall.Iptables.Memory), u.kernel = h.kernel → True →
        { u with iptables := m }.kernel = h.kernel := fun _ _ same _ => same
    exact inner.within (fun _ _ => trivial) whole
  have nftables : masquerade.nftables.Keeps fun u => u.kernel = h.kernel := by
    have inner : (Masquerade.Masquerader.nft Firewall.Nft.Memory.ops).Keeps fun _ => True :=
      ⟨fun _ _ => trivial,fun _ _ _ _ => trivial,fun _ _ _ _ => trivial⟩
    have whole : ∀ (u : Host) (m : Firewall.Nft.Memory), u.kernel = h.kernel → True →
        { u with nft := m }.kernel = h.kernel := fun _ _ same _ => same
    exact inner.within (fun _ _ => trivial) whole
  exact Masquerade.keeps_teardown iptables nftables nets identity h rfl

theorem deleteLink_kernel (root name : String) (h : Host) :
    ((Bridge.deleteLink (services root) name).outcome h).2 =
      { h with kernel := ((Table.driver.deleteWithAddresses name).outcome h.kernel).2 } := by
  have parted := congrFun (Kernel.within_deleteWithAddresses kernel_part Table.driver name) h
  unfold Bridge.deleteLink
  cases ran : Table.driver.deleteWithAddresses name h.kernel with
  | ok nets t =>
    have deleted : (services root).kernel.deleteWithAddresses name h = .ok nets { h with kernel := t } :=
      parted.symm.trans (Step.within_ok ran)
    rw [Step.outcome_ok ran,Step.outcome_bind (Step.attempt_ok deleted)]
    rfl
  | error e t =>
    have failed : (services root).kernel.deleteWithAddresses name h = .error e { h with kernel := t } :=
      parted.symm.trans (Step.within_error ran)
    rw [Step.outcome_error ran,Step.outcome_bind (Step.attempt_error failed)]
    dsimp only
    split <;> rfl

theorem remove_attempted (root : String) (n : Network) (h : Host) :
    Attempted n.bridgeName [.linkByName,.addresses,.deleteLink] h.kernel
      ((Bridge.remove (services root) n).outcome h).2.kernel := by
  have deleted := deleteLink_kernel root n.bridgeName h
  have kernel : ((Bridge.remove (services root) n).outcome h).2.kernel =
      ((Bridge.deleteLink (services root) n.bridgeName).outcome h).2.kernel := by
    unfold Bridge.remove
    cases ran : Bridge.deleteLink (services root) n.bridgeName h with
    | error e u => rw [Step.outcome_error ran,Step.outcome_error (Step.bind_error ran)]
    | ok nets u =>
      rw [Step.outcome_ok ran,Step.outcome_bind ran]
      cases n.layer3 && n.masquerade with
      | false => rfl
      | true => exact teardown_kernel nets (.ofNetwork n.name) u
  rw [kernel,deleted]
  exact Table.deleteWithAddresses_attempted h.kernel n.bridgeName

theorem deleteVlan_attempted (name : String) (h : Host) :
    Attempted name [.linkByName,.deleteLink] h.kernel ((Vlan.delete driver name).outcome h).2.kernel := by
  have parted := congrFun (Kernel.within_delete kernel_part Table.driver name) h
  have attempted := Table.delete_attempted h.kernel name
  unfold Vlan.delete
  cases ran : Table.driver.delete name h.kernel with
  | ok _ t =>
    have deleted : driver.delete name h = .ok () { h with kernel := t } := parted.symm.trans (Step.within_ok ran)
    rw [Step.outcome_ok ran] at attempted
    rw [Step.outcome_bind (Step.attempt_ok deleted)]
    exact attempted
  | error e t =>
    have failed : driver.delete name h = .error e { h with kernel := t } :=
      parted.symm.trans (Step.within_error ran)
    rw [Step.outcome_error ran] at attempted
    rw [Step.outcome_bind (Step.attempt_error failed)]
    dsimp only
    split <;> exact attempted

-- A set-up that succeeds found no link under the name of its bridge, or a bridge.
theorem setup_bridged (ran : Bridge.setup (services root) n h = .ok bridge u)
    (there : h.kernel.named? n.bridgeName = some link) : link.kind.isBridge = true := by
  cases planned : n.plan with
  | error fault =>
    rw [Bridge.setup_unplanned _ planned] at ran
    cases ran
  | ok p =>
    obtain ⟨through,_⟩ := setup_stages planned ran
    obtain ⟨_,bridging,_⟩ := Stage.run_begun through
    obtain ⟨g,forwarding,bridging⟩ := Stage.run_begun bridging
    obtain ⟨_,bridging,_⟩ := Stage.run_begun bridging
    obtain ⟨_,placing,_⟩ := Stage.run_begun bridging
    obtain ⟨t,placed,_⟩ := Stage.within_some.mp (Stage.run_single.symm.trans placing)
    have named : g.kernel.named? p.bridge = some link := by
      rw [forwarding_kernel forwarding,(Config.Network.plan_planned planned).bridge]
      exact there
    rw [Bridge.placed,named] at placed
    obtain ⟨changed,modified,_⟩ := Option.map_eq_some_iff.mp placed
    exact Table.modified_bridge modified

-- Where the kernel gives no two links one index, removals and VLAN deletions take at most the one link of the name that
-- they are told. They spare all links but bridges, or but VLAN interfaces, exactly if that link is one or the kernel
-- refuses one of their requests. A link of another kind that a removal takes was not the bridge of the network, for no
-- set-up takes it for one.
theorem foreign_links_spared_exactly (distinct : (h.kernel.links.map Link.index).Nodup) (root : String) :
    (∀ n, Loses (fun link => link.name = n.bridgeName) h.kernel ((Bridge.remove (services root) n).outcome h).2.kernel ∧
      (Loses (fun link => link.kind.isBridge = true) h.kernel ((Bridge.remove (services root) n).outcome h).2.kernel ↔
        ∀ link, h.kernel.named? n.bridgeName = some link →
          link.kind.isBridge = true ∨ ¬h.kernel.Serves [.linkByName,.addresses,.deleteLink])) ∧
    (∀ name, Loses (fun link => link.name = name) h.kernel ((Vlan.delete driver name).outcome h).2.kernel ∧
      (Loses (fun link => link.kind.isVlan = true) h.kernel ((Vlan.delete driver name).outcome h).2.kernel ↔
        ∀ link, h.kernel.named? name = some link →
          link.kind.isVlan = true ∨ ¬h.kernel.Serves [.linkByName,.deleteLink])) ∧
    ∀ n link, h.kernel.named? n.bridgeName = some link → link.kind.isBridge = false →
      ∀ bridge u, Bridge.setup (services root) n h ≠ .ok bridge u := by
  refine ⟨fun n => ?_,fun name => ?_,fun n link there other bridge u ran => ?_⟩
  · have attempted := remove_attempted root n h
    exact ⟨attempted.loses distinct,attempted.loses_iff distinct _⟩
  · have attempted := deleteVlan_attempted name h
    exact ⟨attempted.loses distinct,attempted.loses_iff distinct _⟩
  · rw [setup_bridged ran there] at other
    cases other

-- The wired host with a bridge, and with a VLAN interface on the wire.
def switched : Host :=
  { wired with kernel :=
      Table.requestAll [.addLink (.bridge ⟨"br1",0,none⟩),.addLink (.vlan ⟨"eth0.5",1,5,0⟩)] wired.kernel }

def unbridged : Host := ((Bridge.remove (services "/") pods).outcome switched).2

def untagged : Host := ((Vlan.delete driver "eth0.5").outcome switched).2

theorem switched_spared : (switched.kernel.links.map Link.index).Nodup ∧
    switched.kernel.links.map Link.name = ["eth0","br1","eth0.5"] ∧
    Loses (fun link => link.kind.isBridge = true) switched.kernel unbridged.kernel ∧
    unbridged.kernel.links.map Link.name = ["eth0","eth0.5"] ∧
    Loses (fun link => link.kind.isVlan = true) switched.kernel untagged.kernel ∧
    untagged.kernel.links.map Link.name = ["eth0","br1"] := by
  have distinct : (switched.kernel.links.map Link.index).Nodup := by decide +kernel
  have bridged : (switched.kernel.named? pods.bridgeName).all (fun link => link.kind.isBridge) = true := by
    decide +kernel
  have tagged : (switched.kernel.named? "eth0.5").all (fun link => link.kind.isVlan) = true := by decide +kernel
  obtain ⟨removals,vlans,_⟩ := foreign_links_spared_exactly distinct "/"
  have removed : Loses (fun link => link.kind.isBridge = true) switched.kernel unbridged.kernel :=
    (removals pods).2.mpr fun link there => .inl (by rwa [there] at bridged)
  have deleted : Loses (fun link => link.kind.isVlan = true) switched.kernel untagged.kernel :=
    (vlans "eth0.5").2.mpr fun link there => .inl (by rwa [there] at tagged)
  exact ⟨distinct,by decide +kernel,removed,by decide +kernel,deleted,by decide +kernel⟩

-- A network whose bridge is named as the wire is.
def uplinked : Network := { pods with bridge := "eth0" }

-- No set-up takes the wire for a bridge, but removals and VLAN deletions take it.
theorem wire_lost : ((Bridge.setup (services "/") uplinked).outcome wired).1.toOption.isSome = false ∧
    ((Bridge.remove (services "/") uplinked).outcome wired).1.toOption = some () ∧
    ((Vlan.delete driver "eth0").outcome wired).1.toOption = some () ∧
    ¬Loses (fun link => link.kind.isBridge = true) wired.kernel
      ((Bridge.remove (services "/") uplinked).outcome wired).2.kernel ∧
    ¬Loses (fun link => link.kind.isVlan = true) wired.kernel ((Vlan.delete driver "eth0").outcome wired).2.kernel := by
  have distinct : (wired.kernel.links.map Link.index).Nodup := by decide
  have there : wired.kernel.named? "eth0" = some ⟨1,"eth0",9000,.device,true,false,none⟩ := by decide
  have answers : wired.kernel.Answers := rfl
  refine ⟨by decide +kernel,by decide +kernel,by decide +kernel,fun spared => ?_,fun spared => ?_⟩
  · have either := ((remove_attempted "/" uplinked wired).loses_iff distinct _).mp spared _ there
    exact either.elim (fun wrong => nomatch wrong) fun denied => denied (answers.serves _)
  · have either := ((deleteVlan_attempted "eth0" wired).loses_iff distinct _).mp spared _ there
    exact either.elim (fun wrong => nomatch wrong) fun denied => denied (answers.serves _)

end Host
end HostNet
