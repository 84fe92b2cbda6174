import HostNet.Proofs.ReachableHosts

namespace HostNet

-- Whether a step succeeds and what it leaves passes a check.
def Step.passes (x : Step σ ε Unit) (s : σ) (check : σ → Bool) : Bool :=
  match x s with
  | .ok _ t => check t
  | .error _ _ => false

theorem Step.passes_ok {x : Step σ ε Unit} {check : σ → Bool} (passed : x.passes s check = true) :
    ∃ t, x s = .ok () t ∧ check t = true := by
  unfold Step.passes at passed
  cases ran : x s with
  | ok a t => rw [ran] at passed; exact ⟨t,rfl,passed⟩
  | error e t => rw [ran] at passed; cases passed

namespace Masquerade.Iptables
open Firewall.Iptables

variable {v : View} {chain comment : String} {family : Family}

theorem teardownView_chain (net : Subnet) : teardownView chain comment v net family chain =
    if net.family = family then none else v family chain := by
  by_cases same : net.family = family
  · subst family
    rw [teardownView_own,if_pos rfl]
  · rw [teardownView_apart _ (Ne.symm same),if_neg same]

theorem teardowns_chain (nets : List Subnet) : nets.foldl (teardownView chain comment) v family chain =
    if ∃ net ∈ nets, net.family = family then none else v family chain := by
  induction nets generalizing v with
  | nil => simp
  | cons net rest ih =>
    rw [List.foldl_cons,ih,teardownView_chain]
    by_cases same : net.family = family
    · simp [same]
    · simp [same]

-- Whether tearing down for a net deletes a rule of a family.
def deletes (chain comment : String) (family : Family) (net : Subnet) (rule : Rule) : Prop :=
  net.family = family ∧ (rule = jumpRule net.address.text chain comment ∨ rule = jumpRule net.text chain comment)

theorem teardownView_jumps (net : Subnet) (apart : chain ≠ postrouting) (held : v family postrouting = some rules)
    (once : rules.Nodup) : ∃ left, teardownView chain comment v net family postrouting = some left ∧ left.Nodup ∧
      ∀ rule, rule ∈ left ↔ rule ∈ rules ∧ ¬deletes chain comment family net rule := by
  unfold deletes
  by_cases same : net.family = family
  · subst family
    have onceErased := once.erase (jumpRule net.address.text chain comment)
    refine ⟨_,teardownView_entry apart held,onceErased.erase _,fun rule => ?_⟩
    rw [onceErased.mem_erase_iff,once.mem_erase_iff]
    tauto
  · exact ⟨rules,(teardownView_apart _ (Ne.symm same)).trans held,once,fun rule => by simp [same]⟩

theorem teardowns_jumps (comment : String) (nets : List Subnet) (apart : chain ≠ postrouting)
    (held : v family postrouting = some rules) (once : rules.Nodup) :
    ∃ left, nets.foldl (teardownView chain comment) v family postrouting = some left ∧
      ∀ rule, rule ∈ left ↔ rule ∈ rules ∧ ∀ net ∈ nets, ¬deletes chain comment family net rule := by
  induction nets generalizing v rules with
  | nil => exact ⟨rules,held,by simp⟩
  | cons net rest ih =>
    obtain ⟨between,held₁,once₁,members₁⟩ := teardownView_jumps net apart held once
    obtain ⟨left,held₂,members₂⟩ := ih held₁ once₁
    refine ⟨left,held₂,fun rule => ?_⟩
    rw [members₂,members₁,List.forall_mem_cons]
    tauto

-- No chain of an instance, and no jump to it.
def Free (v : View) (chain : String) : Prop := ∀ family, v family chain = none ∧
  ∀ rules, v family postrouting = some rules → ∀ rule ∈ rules, ¬goesTo chain rule

-- Every jump to a chain is the one that is installed for one of the nets.
def Covers (nets : List Subnet) (v : View) (chain comment : String) : Prop := ∀ family rules,
  v family postrouting = some rules → ∀ rule ∈ rules, goesTo chain rule →
    ∃ net ∈ nets, net.family = family ∧ rule = jumpRule net.text chain comment

theorem teardowns_free (nets : List Subnet) (orderly : Orderly v) (network id comment : String) :
    Free (nets.foldl (teardownView (chainName network id) comment) v) (chainName network id) ↔
      Covers nets v (chainName network id) comment := by
  have apart := chainName_postrouting network id
  constructor
  · intro free family rules held rule member goes
    obtain ⟨known,held',once,jumping⟩ := orderly.jumps family
    cases held.symm.trans held'
    obtain ⟨left,after,members⟩ := teardowns_jumps comment nets apart held once
    by_contra uncovered
    refine (free family).2 left after rule ((members rule).mpr ⟨member,?_⟩) goes
    rintro net among ⟨same,bare | written⟩
    -- A jump whose source is a bare address is none that setting up makes: no subnet is written so.
    · obtain ⟨n,c,k,rfl⟩ := jumping rule member
      simp only [jumpRule,commented,List.cons_append,List.nil_append,List.cons.injEq] at bare
      exact n.text_not_address net.address bare.2.1
    · exact uncovered ⟨net,among,same,written⟩
  · intro covers family
    obtain ⟨rules,held,once,_⟩ := orderly.jumps family
    obtain ⟨left,after,members⟩ := teardowns_jumps comment nets apart held once
    constructor
    · rw [teardowns_chain]
      split
      · rfl
      · rename_i nobody
        by_contra there
        obtain ⟨rule,member,goes⟩ := orderly.entered held (Option.isSome_iff_ne_none.mpr there)
        obtain ⟨net,among,same,_⟩ := covers family rules held rule member goes
        exact nobody ⟨net,among,same⟩
    · intro others known rule member goes
      cases after.symm.trans known
      obtain ⟨old,kept⟩ := (members rule).mp member
      obtain ⟨net,among,same,written⟩ := covers family rules held rule old goes
      exact kept net among ⟨same,Or.inr written⟩

end Masquerade.Iptables

namespace Masquerade.Manager

variable {b : Masquerader σ} {nets : List Subnet} {identity : Identity} {s t : σ}

theorem teardownOne_ok (ran : b.teardown nets identity s = .ok () t) : teardownOne b nets identity s = .ok [] t :=
  (Step.bind_ok (Step.attempt_ok ran)).trans rfl

theorem teardownOne_error (ran : b.teardown nets identity s = .error e t) (usable : b.supported t = (true,t)) :
    teardownOne b nets identity s = .ok [Error.message e] t := by
  have supported : (Step.ofState b.supported : Step σ Error Bool) t = .ok true t := by rw [Step.ofState,usable]
  exact (Step.bind_ok (Step.attempt_error ran)).trans ((Step.bind_ok supported).trans rfl)

end Masquerade.Manager

namespace Host
open Masquerade (Identity)
open Masquerade.Manager (teardownOne)
open Masquerade.Iptables (teardownView)
open Masquerade.Nft (ofOthers)

-- The addresses that the deletion of a link tells about.
def leaving (h : Host) (name : String) : List Subnet :=
  (h.kernel.addressesOf name).filter (·.address.isGlobalUnicast)

theorem deleteLink_answers (answers : h.kernel.Answers) (root name : String) :
    ∃ k, Bridge.deleteLink (services root) name h = .ok (h.leaving name) { h with kernel := k } ∧
      Kernel.Table.Unplugged name h.kernel k := by
  have parted := Kernel.within_deleteWithAddresses kernel_part Kernel.Table.driver name
  cases there : h.kernel.named? name with
  | none =>
    obtain ⟨k,missing,unplugged⟩ := Kernel.Table.deleteWithAddresses_absent (answers.check _) there
    have ran := (congrFun parted.symm h).trans (Step.within_error missing)
    have nothing : h.leaving name = [] := by
      rw [leaving,Kernel.Table.addressesOf,there]
      rfl
    rw [nothing]
    exact ⟨k,(Step.bind_ok (Step.attempt_error ran)).trans rfl,unplugged⟩
  | some link =>
    obtain ⟨k,deleted,unplugged⟩ := Kernel.Table.deleteWithAddresses_ok (answers.serves _) there
    have ran := (congrFun parted.symm h).trans (Step.within_ok deleted)
    exact ⟨k,(Step.bind_ok (Step.attempt_ok ran)).trans rfl,unplugged⟩

variable {h h' : Host}

theorem iptables_teardown (nets : List Subnet) (identity : Identity) : masquerade.iptables.teardown nets identity =
    Step.within Host.iptables (fun iptables (h : Host) => { h with iptables })
      (Masquerade.Iptables.teardown Firewall.Iptables.Memory.ops nets identity) := rfl

theorem nft_teardown (nets : List Subnet) (identity : Identity) : masquerade.nftables.teardown nets identity =
    Step.within Host.nft (fun nft (h : Host) => { h with nft })
      (Masquerade.Nft.teardown Firewall.Nft.Memory.ops identity) := rfl

theorem iptables_teardownOne (steady : Steady h) (nets : List Subnet) (identity : Identity) :
    (∃ m, teardownOne masquerade.iptables nets identity h = .ok [] { h with iptables := m } ∧
      m.view = nets.foldl (teardownView (Masquerade.chainName identity.network identity.id)
        (Masquerade.chainComment identity.network identity.id)) h.iptables.view) ∨
    ∃ message, teardownOne masquerade.iptables nets identity h = .ok [message] h := by
  have usable : masquerade.iptables.supported h = (true,h) := Prod.ext steady.iptables.1 rfl
  have torn := iptables_teardown nets identity
  cases broken : h.iptables.failure with
  | none =>
    obtain ⟨m,ran,becomes⟩ := Masquerade.Iptables.teardown_working nets identity broken
    exact Or.inl ⟨m,Masquerade.Manager.teardownOne_ok ((congrFun torn h).trans (Step.within_ok ran)),becomes.view⟩
  | some message =>
    have ran := Masquerade.Iptables.teardown_failing nets identity broken
    cases nets with
    | nil =>
      refine Or.inl ⟨h.iptables,?_,rfl⟩
      exact Masquerade.Manager.teardownOne_ok ((congrFun torn h).trans (Step.within_ok ran))
    | cons net rest =>
      have failed := (congrFun torn h).trans (Step.within_error ran)
      exact Or.inr ⟨_,Masquerade.Manager.teardownOne_error failed usable⟩

theorem nft_teardownOne (steady : Steady h) (nets : List Subnet) (identity : Identity) :
    (∃ m, teardownOne masquerade.nftables nets identity h = .ok [] { h with nft := m } ∧
      m.ruleset.rules? Firewall.Nft.checksChain = (h.nft.ruleset.rules? Firewall.Nft.checksChain).map
        (ofOthers (Masquerade.instanceHash identity))) ∨
    ∃ message, teardownOne masquerade.nftables nets identity h = .ok [message] h := by
  have usable : masquerade.nftables.supported h = (true,h) := Prod.ext steady.nft.1 rfl
  have torn := nft_teardown nets identity
  cases broken : h.nft.failure with
  | none =>
    obtain ⟨m,ran,_,_,shown⟩ := Masquerade.Nft.teardown_working identity broken steady.nft.2
    refine Or.inl ⟨m,Masquerade.Manager.teardownOne_ok ((congrFun torn h).trans (Step.within_ok ran)),?_⟩
    rw [shown.rules,Function.update_self]
  | some message =>
    have ran := Masquerade.Nft.teardown_failing identity broken
    have failed := (congrFun torn h).trans (Step.within_error ran)
    exact Or.inr ⟨_,Masquerade.Manager.teardownOne_error failed usable⟩

-- Success means that neither tool was at fault.
theorem teardown_removes (steady : Steady h) (nets : List Subnet) (identity : Identity)
    (ran : masquerade.teardown nets identity h = .ok () h') :
    h'.iptables.view = nets.foldl (teardownView (Masquerade.chainName identity.network identity.id)
      (Masquerade.chainComment identity.network identity.id)) h.iptables.view ∧
    h'.nft.ruleset.rules? Firewall.Nft.checksChain = (h.nft.ruleset.rules? Firewall.Nft.checksChain).map
      (ofOthers (Masquerade.instanceHash identity)) := by
  rcases iptables_teardownOne steady nets identity with ⟨m,first,view⟩ | ⟨message,first⟩
  · have between : Steady { h with iptables := m } := by
      have kept := Masquerade.keeps_teardownOne iptables_steady nets identity h steady
      rwa [Step.outcome,first] at kept
    rcases nft_teardownOne between nets identity with ⟨m',second,rules⟩ | ⟨message,second⟩
    · have whole : masquerade.teardown nets identity h = .ok () { h with iptables := m,nft := m' } :=
        (Step.bind_ok first).trans ((Step.bind_ok second).trans rfl)
      cases ran.symm.trans whole
      exact ⟨view,rules⟩
    · have whole : masquerade.teardown nets identity h = .error (.teardown [message]) { h with iptables := m } :=
        (Step.bind_ok first).trans ((Step.bind_ok second).trans rfl)
      cases ran.symm.trans whole
  · rcases nft_teardownOne steady nets identity with ⟨m',second,rules⟩ | ⟨message',second⟩
    · have whole : masquerade.teardown nets identity h = .error (.teardown [message]) { h with nft := m' } :=
        (Step.bind_ok first).trans ((Step.bind_ok second).trans rfl)
      cases ran.symm.trans whole
    · have whole : masquerade.teardown nets identity h = .error (.teardown [message,message']) h :=
        (Step.bind_ok first).trans ((Step.bind_ok second).trans rfl)
      cases ran.symm.trans whole

theorem remove_removes (steady : Steady h) (root : String) (n : Config.Network)
    (masquerading : (n.layer3 && n.masquerade) = true) (ran : Bridge.remove (services root) n h = .ok () h') :
    h'.iptables.view = (h.leaving n.bridgeName).foldl (teardownView (Masquerade.chainName n.name "")
      (Masquerade.chainComment n.name "")) h.iptables.view ∧
    h'.nft.ruleset.rules? Firewall.Nft.checksChain = (h.nft.ruleset.rules? Firewall.Nft.checksChain).map
      (ofOthers (Masquerade.instanceHash (.ofNetwork n.name))) := by
  obtain ⟨k,deleted,_⟩ := deleteLink_answers steady.kernel root n.bridgeName
  have between : Steady { h with kernel := k } := by
    have kept := Bridge.keeps_deleteLink (services_steady root) n.bridgeName h steady
    rwa [Step.outcome,deleted] at kept
  have served : (services root).masquerade = masquerade := rfl
  have shape : Bridge.remove (services root) n = Bridge.deleteLink (services root) n.bridgeName >>= fun nets =>
      masquerade.teardown nets (.ofNetwork n.name) := by
    unfold Bridge.remove
    simp only [masquerading,if_true,served]
  rw [shape] at ran
  have rest : masquerade.teardown (h.leaving n.bridgeName) (.ofNetwork n.name) { h with kernel := k } = .ok () h' :=
    (Step.bind_ok deleted).symm.trans ran
  exact teardown_removes between (h.leaving n.bridgeName) (.ofNetwork n.name) rest

-- A successful removal leaves no rule of the network with nftables. With iptables it leaves none just if each jump to
-- the network's chain is for an address that the bridge still had and told about: rules are looked for by these alone.
theorem removal_frees_exactly (reached : Reachable root h) (addressed : n.layer3 = true)
    (masquerading : n.masquerade = true) (removed : Bridge.remove (services root) n h = .ok () h') :
    (∀ rules, h'.nft.ruleset.rules? Firewall.Nft.checksChain = some rules → ∀ s ∈ rules,
      Masquerade.Nft.isOwnedBy (Masquerade.instanceHash (.ofNetwork n.name)) s.listed = false) ∧
    (Masquerade.Iptables.Free h'.iptables.view (Masquerade.chainName n.name "") ↔
      Masquerade.Iptables.Covers (h.leaving n.bridgeName) h.iptables.view (Masquerade.chainName n.name "")
        (Masquerade.chainComment n.name "")) := by
  have steady := reachable_steady reached
  obtain ⟨view,rules⟩ := remove_removes steady root n (by rw [addressed,masquerading]; rfl) removed
  constructor
  · intro left held s member
    rw [rules] at held
    obtain ⟨before,_,rfl⟩ := Option.map_eq_some_iff.mp held
    simpa using (List.mem_filter.mp member).2
  · rw [view]
    exact Masquerade.Iptables.teardowns_free _ steady.iptables.2 n.name "" _

def pods : Config.Network where
  cniVersion := ""
  name := "pods"
  kind := ""
  capabilities := .empty
  management := { Config.AddressManagement.none with kind := "host-local",podSubnets := ["10.22.0.0/24"] }
  bridge := "br1"
  isGateway := true
  isDefaultGateway := false
  forceAddress := false
  masquerade := true
  masqueradeBackend := some "iptables"
  mtu := 1500
  hairpin := false
  promiscuous := false
  vlan := 0
  trunk := none
  preserveDefaultVlan := false
  checkMacSpoofing := false
  detectDuplicates := false
  withoutInterface := false
  portIsolation := false
  requestedMac := ""
  runtimeMac := ""

-- A host without links on which packets are forwarded already.
def bare : Host where
  kernel := .empty
  files := ⟨[(["net"],.directory),(["net","ipv4"],.directory),(["net","ipv6"],.directory),
    (["net","ipv6","conf"],.directory),(["net","ipv6","conf","all"],.directory),
    (["net","ipv4","ip_forward"],.file "1".toUTF8.toList),
    (["net","ipv6","conf","all","forwarding"],.file "1".toUTF8.toList)]⟩
  iptables := .initial
  nft := .initial

theorem bare_reachable : Reachable "/" bare := .first rfl rfl rfl

def provisioned : Host := bare.after "/" (.setup pods)

theorem provisioned_removed : (provisioned.iptables.view .v4 (Masquerade.chainName pods.name "")).isSome ∧
    ∃ h', Bridge.remove (services "/") pods provisioned = .ok () h' ∧
      (∀ rules, h'.nft.ruleset.rules? Firewall.Nft.checksChain = some rules → ∀ s ∈ rules,
        Masquerade.Nft.isOwnedBy (Masquerade.instanceHash (.ofNetwork pods.name)) s.listed = false) ∧
      (Masquerade.Iptables.Free h'.iptables.view (Masquerade.chainName pods.name "") ↔
        Masquerade.Iptables.Covers (provisioned.leaving pods.bridgeName) provisioned.iptables.view
          (Masquerade.chainName pods.name "") (Masquerade.chainComment pods.name "")) := by
  have reached : Reachable "/" provisioned := bare_reachable.next (.setup pods)
  have passed : (Bridge.remove (services "/") pods).passes provisioned (fun _ => true) = true := by decide +kernel
  obtain ⟨h',ran,_⟩ := Step.passes_ok passed
  have addressed : pods.layer3 = true := by decide +kernel
  exact ⟨by decide +kernel,h',ran,removal_frees_exactly reached addressed rfl ran⟩

-- The removal is tried while iptables fails, which deletes the bridge, and once more when it works again.
def retried : Host :=
  ((provisioned.after "/" (.iptablesBreaks "no lock")).after "/" (.remove pods)).after "/" .iptablesWorks

theorem retried_keeps_chain : ∃ h', Reachable "/" retried ∧ pods.layer3 = true ∧ pods.masquerade = true ∧
    Bridge.remove (services "/") pods retried = .ok () h' ∧
      ¬Masquerade.Iptables.Free h'.iptables.view (Masquerade.chainName pods.name "") := by
  have reached : Reachable "/" retried :=
    (((bare_reachable.next (.setup pods)).next (.iptablesBreaks "no lock")).next (.remove pods)).next .iptablesWorks
  have passed : (Bridge.remove (services "/") pods).passes retried
      (fun h' => (h'.iptables.view .v4 (Masquerade.chainName pods.name "")).isSome) = true := by decide +kernel
  have addressed : pods.layer3 = true := by decide +kernel
  obtain ⟨h',ran,there⟩ := Step.passes_ok passed
  refine ⟨h',reached,addressed,rfl,ran,fun free => ?_⟩
  rw [(free .v4).1] at there
  cases there

end Host

end HostNet
