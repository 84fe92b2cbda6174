import HostNet.Proofs.RestoredChains
import HostNet.Proofs.SetupResults

namespace HostNet

open Kernel (Table Link)
open Kernel.Table (Unplugged)
open Config (Plan Network)

namespace Masquerade.Nft
open Firewall.Nft

theorem teardown_others (identity : Identity) (working : m.failure = none) (sound : SoundRules m) :
    ∃ m', teardown Memory.ops identity m = .ok () m' ∧ m'.failure = none ∧ SoundRules m' ∧
      checks m' = ofOthers (instanceHash identity) (checks m) := by
  obtain ⟨m',ran,_,failure,shown⟩ := teardown_working identity working sound
  refine ⟨m',ran,failure.trans working,?_,?_⟩
  · have kept := masquerader_sound.teardown [] identity m sound
    rwa [show (Masquerader.nft Memory.ops).teardown [] identity = teardown Memory.ops identity from rfl,
      Step.outcome_ok ran] at kept
  · rw [checks,shown.rules,Function.update_self,checks]
    cases m.ruleset.rules? checksChain <;> rfl

-- Where an identity owns nothing, all rules are those of others.
theorem unowned_others (unowned : owned identity m = []) : ofOthers (instanceHash identity) (checks m) = checks m := by
  refine List.filter_eq_self.mpr fun s member => ?_
  have other := List.filter_eq_nil_iff.mp unowned s member
  simpa using other

end Masquerade.Nft

namespace Bridge

variable {p : Plan} {t t' u : Table} {link : Link}

-- A new bridge and its addresses have an index that nothing had before.
theorem Arranged.unplugged (arranged : Arranged p t t' link added) (orderly : t.Orderly)
    (absent : t.named? p.bridge = none) (unplugged : Unplugged p.bridge t' u) :
    u.links = t.links ∧ u.addresses = t.addresses := by
  obtain ⟨before,after,sits,rest⟩ := arranged.sits
  obtain ⟨placed,made,rfl⟩ := arranged.shape
  cases (standing_absent absent).symm.trans made
  obtain ⟨links,addresses,_⟩ := unplugged
  rw [sits.named] at links addresses
  constructor
  · refine (links.trans sits.rest).trans (rest.trans (List.filter_eq_self.mpr fun other among => ?_))
    simpa using List.find?_eq_none.mp absent other among
  · have index : (shaped p { fresh p with index := t.lastIndex + 1 }).index = t.lastIndex + 1 := by
      unfold shaped
      split <;> rfl
    rw [addresses,arranged.addresses,List.filter_append]
    have kept : t.addresses.filter (fun a => a.index != t.lastIndex + 1) = t.addresses := by
      refine List.filter_eq_self.mpr fun a among => ?_
      have early := orderly.addresses a among
      simp only [bne_iff_ne]
      omega
    have dropped : added.filter (fun a => a.index != t.lastIndex + 1) = [] := by
      refine List.filter_eq_nil_iff.mpr fun a among => ?_
      simp [(arranged.given a among).2.1,index]
    simp only [Option.all_some,index,kept,dropped,List.append_nil]

end Bridge

namespace Host
open Masquerade (Identity)
open Masquerade.Iptables (setupView teardownView Unknown)
open Masquerade.Nft (ofOthers checks owned SoundRules)
open Firewall.Iptables (postrouting)

-- A host on which no request and no tool fails.
structure Faultless (h : Host) : Prop where
  answers : h.kernel.Answers
  iptables : h.iptables.failure = none
  nft : h.nft.failure = none
  rules : SoundRules h.nft

-- What a network has on the walls of a host after it was set up for some nets.
structure Shielded (n : Network) (gateways : List Subnet) (h u : Host) : Prop where
  chains : ∃ added : List Subnet, u.iptables.view = added.foldl (setupView (Masquerade.chainName n.name "")
      (Masquerade.chainComment n.name "")) h.iptables.view ∧
    ∀ net ∈ added, net ∈ gateways ∧ (h.iptables.view net.family postrouting).isSome
  others : ofOthers (Masquerade.instanceHash (.ofNetwork n.name)) (checks u.nft) =
    ofOthers (Masquerade.instanceHash (.ofNetwork n.name)) (checks h.nft)

-- What a removal does to a host.
structure Dismantled (n : Network) (h u : Host) : Prop where
  kernel : Unplugged n.bridgeName h.kernel u.kernel
  chains : u.iptables.view = if n.layer3 && n.masquerade then (h.leaving n.bridgeName).foldl
      (teardownView (Masquerade.chainName n.name "") (Masquerade.chainComment n.name "")) h.iptables.view
    else h.iptables.view
  rules : checks u.nft = if n.layer3 && n.masquerade then
      ofOthers (Masquerade.instanceHash (.ofNetwork n.name)) (checks h.nft)
    else checks h.nft

variable {h m t u : Host} {n : Network} {p : Plan} {gateways : List Subnet} {root : String}

theorem protect_shields (faultless : m.Faultless) (taken : n.Planned p)
    (masquerading : (p.layer3 && p.masquerade) = true)
    (ran : Bridge.protect (services root) p gateways m = .ok () u) : u.Faultless ∧ Shielded n gateways m u := by
  rw [protect_installs masquerading,taken.network] at ran
  cases backend : chosen m.walls p.backend with
  | iptables =>
    rw [backend,iptables_install] at ran
    obtain ⟨c,installed,rfl⟩ := Step.of_within ran
    have apart := Masquerade.Iptables.chainName_postrouting n.name ""
    obtain ⟨_,becomes⟩ := Masquerade.Iptables.setupNets_ok apart gateways installed
    have present := Masquerade.Iptables.setupNets_present apart gateways installed
    exact ⟨⟨faultless.answers,becomes.failure.trans faultless.iptables,faultless.nft,faultless.rules⟩,
      ⟨gateways,becomes.view,fun net among => ⟨among,present net among⟩⟩,rfl⟩
  | nftables =>
    rw [backend,nft_install] at ran
    obtain ⟨c,installed,rfl⟩ := Step.of_within ran
    have sound := Masquerade.Nft.install_sound faultless.rules installed
    obtain ⟨c',again,_,failure,_⟩ := Masquerade.Nft.install_working gateways (.ofNetwork n.name) faultless.nft
      faultless.rules
    cases again.symm.trans installed
    exact ⟨⟨faultless.answers,faultless.iptables,failure.trans faultless.nft,sound⟩,
      ⟨[],rfl,by simp⟩,Masquerade.Nft.install_others faultless.rules installed⟩

theorem teardown_done (faultless : h.Faultless) (nets : List Subnet) (identity : Identity) :
    ∃ u, masquerade.teardown nets identity h = .ok () u ∧ u.Faultless ∧ u.kernel = h.kernel ∧
      u.iptables.view = nets.foldl (teardownView (Masquerade.chainName identity.network identity.id)
        (Masquerade.chainComment identity.network identity.id)) h.iptables.view ∧
      checks u.nft = ofOthers (Masquerade.instanceHash identity) (checks h.nft) := by
  obtain ⟨c,torn,becomes⟩ := Masquerade.Iptables.teardown_working nets identity faultless.iptables
  obtain ⟨r,purged,failure,sound,left⟩ := Masquerade.Nft.teardown_others identity faultless.nft faultless.rules
  have first := Masquerade.Manager.teardownOne_ok
    ((congrFun (iptables_teardown nets identity) h).trans (Step.within_ok torn))
  have second := Masquerade.Manager.teardownOne_ok
    ((congrFun (nft_teardown nets identity) { h with iptables := c }).trans (Step.within_ok purged))
  refine ⟨{ h with iptables := c,nft := r },?_,?_,rfl,becomes.view,left⟩
  · exact (Step.bind_ok first).trans ((Step.bind_ok second).trans rfl)
  · exact ⟨faultless.answers,becomes.failure.trans faultless.iptables,failure,sound⟩

-- Nothing is in the way of a removal where nothing fails, whether or not there is anything to remove.
theorem remove_done (faultless : h.Faultless) (root : String) (n : Network) :
    ∃ u, Bridge.remove (services root) n h = .ok () u ∧ u.Faultless ∧ Dismantled n h u := by
  obtain ⟨k,deleted,unplugged⟩ := deleteLink_answers faultless.answers root n.bridgeName
  have between : Faultless { h with kernel := k } :=
    ⟨unplugged.refusals.trans faultless.answers,faultless.iptables,faultless.nft,faultless.rules⟩
  have served : (services root).masquerade = masquerade := rfl
  unfold Bridge.remove
  rw [Step.bind_ok deleted,served]
  cases masquerading : n.layer3 && n.masquerade with
  | false => exact ⟨_,rfl,between,unplugged,by rw [masquerading]; rfl,by rw [masquerading]; rfl⟩
  | true =>
    obtain ⟨u,torn,still,kernel,chains,left⟩ := teardown_done between (h.leaving n.bridgeName) (.ofNetwork n.name)
    refine ⟨u,torn,still,kernel.symm ▸ unplugged,?_,?_⟩
    · rw [masquerading]
      exact chains
    · rw [masquerading]
      exact left

-- A host without faults that has nothing of a network. What others have on it may be anything.
structure Vacant (n : Network) (h : Host) : Prop where
  kernel : h.kernel.Reached
  answers : h.kernel.Answers
  iptables : h.iptables.failure = none
  nft : h.nft.failure = none
  ruleset : h.nft.ruleset.Reached
  unnamed : h.kernel.named? n.bridgeName = none
  unknown : Unknown (Masquerade.chainName n.name "") h.iptables.view
  unowned : owned (.ofNetwork n.name) h.nft = []

-- Hosts with the same links, addresses and rules.
structure Restored (h u : Host) : Prop where
  links : u.kernel.links = h.kernel.links
  addresses : u.kernel.addresses = h.kernel.addresses
  chains : u.iptables.view = h.iptables.view
  rules : checks u.nft = checks h.nft

theorem Dismantled.restores (dismantled : Dismantled n t u) (shielded : Shielded n gateways h t)
    (masquerading : (n.layer3 && n.masquerade) = true)
    (unknown : Unknown (Masquerade.chainName n.name "") h.iptables.view)
    (unowned : owned (.ofNetwork n.name) h.nft = [])
    (told : ∀ net ∈ gateways, net ∈ t.leaving n.bridgeName) :
    u.iptables.view = h.iptables.view ∧ checks u.nft = checks h.nft := by
  obtain ⟨added,installed,asked⟩ := shielded.chains
  constructor
  · rw [dismantled.chains,if_pos masquerading,installed]
    exact Masquerade.Iptables.teardowns_restore (Masquerade.Iptables.chainName_postrouting _ _) unknown
      (fun net among => (asked net among).2) fun net among => told net (asked net among).1
  · rw [dismantled.rules,if_pos masquerading,shielded.others]
    exact Masquerade.Nft.unowned_others unowned

-- Where there is nothing of a network, its removal changes nothing.
theorem Dismantled.idle (dismantled : Dismantled n h u) (absent : h.kernel.named? n.bridgeName = none)
    (unowned : owned (.ofNetwork n.name) h.nft = []) : Restored h u := by
  obtain ⟨links,addresses⟩ := dismantled.kernel.idle absent
  have nothing : h.leaving n.bridgeName = [] := by
    rw [leaving,Table.addressesOf,absent]
    rfl
  refine ⟨links,addresses,?_,?_⟩
  · rw [dismantled.chains,nothing,List.foldl_nil,ite_self]
  · rw [dismantled.rules,Masquerade.Nft.unowned_others unowned,ite_self]

-- What a set-up for a plan leaves on the walls, with all gateways among what the bridge has.
theorem setup_shields (vacant : Vacant n h) (planned : n.plan = .ok p)
    (ran : Bridge.setup (services root) n h = .ok bridge t) : t.Faultless ∧
      if n.layer3 && n.masquerade then ∃ gateways, Shielded n gateways h t ∧
        ∀ net ∈ gateways, net ∈ t.kernel.addressesOf n.bridgeName
      else t.iptables = h.iptables ∧ t.nft = h.nft := by
  have taken := Config.Network.plan_planned planned
  obtain ⟨through,_,m,gateways,beside,shielded,asked⟩ := setup_stages planned ran
  have faultless : m.Faultless := by
    obtain ⟨refusals,iptables,nft⟩ := beside
    exact ⟨refusals.trans vacant.answers,iptables ▸ vacant.iptables,nft ▸ vacant.nft,nft ▸ vacant.ruleset.sound⟩
  rw [← taken.layer3,← taken.masquerade]
  cases masquerading : p.layer3 && p.masquerade with
  | false =>
    rw [protect_idle masquerading] at shielded
    cases shielded
    exact ⟨faultless,beside.iptables,beside.nft⟩
  | true =>
    obtain ⟨still,⟨added,installed,present⟩,others⟩ := protect_shields faultless taken masquerading shielded
    rw [beside.iptables] at installed present
    rw [beside.nft] at others
    refine ⟨still,gateways,⟨⟨added,installed,present⟩,others⟩,fun net among => ?_⟩
    have layer3 : p.layer3 = true := (Bool.and_eq_true_iff.mp masquerading).1
    rw [asked,if_pos layer3] at among
    have bounded : Bridge.Bounded h.ground.kernel := vacant.kernel.orderly.addresses
    obtain ⟨_,_,members⟩ := stages_addresses bounded (fun _ => layer3) through
    rw [← taken.bridge]
    exact (members net).mpr (Or.inr among)

theorem setup_unplugs (vacant : Vacant n h) (planned : n.plan = .ok p)
    (ran : Bridge.setup (services root) n h = .ok bridge t) (answers : k.Answers)
    (unplugged : Unplugged n.bridgeName t.kernel k) :
    k.links = h.kernel.links ∧ k.addresses = h.kernel.addresses := by
  have taken := Config.Network.plan_planned planned
  obtain ⟨through,_⟩ := setup_stages planned ran
  have quietly : h.ground.kernel.Reached := .beside vacant.kernel rfl rfl rfl
  have absent : h.ground.kernel.named? p.bridge = none := taken.bridge ▸ vacant.unnamed
  obtain ⟨link,added,arranged⟩ := Bridge.stages_arranged quietly.orderly
    (fun _ there => by cases absent.symm.trans there) through
  have gone : Unplugged p.bridge t.ground.kernel k := by
    rw [taken.bridge]
    exact ⟨unplugged.links,unplugged.addresses,answers⟩
  exact arranged.unplugged quietly.orderly absent gone

-- However a set-up went about it: if it succeeds where there was nothing of its network, removing the network leaves
-- the host as it was, and removing it once more changes nothing.
theorem remove_undoes (vacant : Vacant n h) (ran : Bridge.setup (services root) n h = .ok bridge t)
    (routable : ∀ net ∈ t.kernel.addressesOf n.bridgeName, net.address.isGlobalUnicast = true) :
    ∃ u, Bridge.remove (services root) n t = .ok () u ∧ Restored h u ∧
      ∃ w, Bridge.remove (services root) n u = .ok () w ∧ Restored u w := by
  cases planned : n.plan with
  | error fault => cases (Bridge.setup_unplanned _ planned h).symm.trans ran
  | ok p =>
    obtain ⟨faultless,walls⟩ := setup_shields vacant planned ran
    obtain ⟨u,removed,still,dismantled⟩ := remove_done faultless root n
    obtain ⟨links,addresses⟩ := setup_unplugs vacant planned ran still.answers dismantled.kernel
    have restored : u.iptables.view = h.iptables.view ∧ checks u.nft = checks h.nft := by
      cases masquerading : n.layer3 && n.masquerade with
      | false =>
        rw [masquerading] at walls
        have chains := dismantled.chains
        have rules := dismantled.rules
        rw [masquerading] at chains rules
        exact ⟨chains.trans (congrArg Firewall.Iptables.Memory.view walls.1),rules.trans (congrArg checks walls.2)⟩
      | true =>
        rw [masquerading] at walls
        obtain ⟨gateways,shielded,there⟩ := walls
        refine dismantled.restores shielded masquerading vacant.unknown vacant.unowned fun net among => ?_
        exact List.mem_filter.mpr ⟨there net among,routable net (there net among)⟩
    obtain ⟨w,again,_,dismantled'⟩ := remove_done still root n
    have absent : u.kernel.named? n.bridgeName = none := by
      rw [Table.named?,links]
      exact vacant.unnamed
    have unowned : owned (.ofNetwork n.name) u.nft = [] := by
      rw [owned,restored.2]
      exact vacant.unowned
    exact ⟨u,removed,⟨links,addresses,restored.1,restored.2⟩,w,again,dismantled'.idle absent unowned⟩

-- A host with a wire to others and with rules that nobody here has made.
def crowded : Host := { wired with
  iptables := Firewall.Iptables.Memory.initial.put .v4 Firewall.Iptables.natTable
    ((Firewall.Iptables.Memory.initial.tables .v4 Firewall.Iptables.natTable).put postrouting
      [["-j","RETURN"],["-j","RETURN"]]) }

theorem crowded_vacant : Vacant pods crowded := by
  have clean : ∀ rule ∈ [["-j","RETURN"],["-j","RETURN"]],
      Masquerade.Iptables.jumpsTo (Masquerade.chainName pods.name "") rule = false := by decide +kernel
  have unknown := Masquerade.Iptables.ruled_unknown pods.name "" clean
  exact ⟨.device .empty "eth0" 9000,rfl,rfl,rfl,.empty,by decide +kernel,unknown,rfl⟩

theorem crowded_restored : ∃ bridge t u w, Vacant pods crowded ∧
    Bridge.setup (services "/") pods crowded = .ok bridge t ∧
    (∀ net ∈ t.kernel.addressesOf pods.bridgeName, net.address.isGlobalUnicast = true) ∧
    Bridge.remove (services "/") pods t = .ok () u ∧ Restored crowded u ∧
    Bridge.remove (services "/") pods u = .ok () w ∧ Restored u w := by
  have answered : ((Bridge.setup (services "/") pods).outcome crowded).1.toOption.isSome = true := by decide +kernel
  obtain ⟨bridge,told⟩ := Option.isSome_iff_exists.mp answered
  have ran := Step.of_told told
  have routable : ∀ net ∈ ((Bridge.setup (services "/") pods).outcome crowded).2.kernel.addressesOf pods.bridgeName,
      net.address.isGlobalUnicast = true := by decide +kernel
  obtain ⟨u,removed,restored,w,again,still⟩ := remove_undoes crowded_vacant ran routable
  exact ⟨bridge,_,u,w,crowded_vacant,ran,routable,removed,restored,again,still⟩

end Host
end HostNet
