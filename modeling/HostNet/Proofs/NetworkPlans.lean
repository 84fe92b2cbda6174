import HostNet.Config.Plan

namespace HostNet.Config

-- The checks of a declaration.
inductive Check where
  | vlanId
  | trunk
  | mac
  | interface
  | modes
  | podSubnets
  | backend
deriving DecidableEq, Repr

namespace Check

-- The order in which they are made.
def all : List Check := [.vlanId,.trunk,.mac,.interface,.modes,.podSubnets,.backend]

-- What a check asks of a declaration.
def Passes (n : Network) : Check → Prop
  | .vlanId => 0 ≤ n.vlan.toInt ∧ n.vlan.toInt ≤ 4094
  | .trunk => ∀ entries, n.trunk = some entries → ∃ ids, expandTrunk entries = .ok ids
  | .mac => n.runtimeMac = "" ∨ ∃ bytes, macBytes? n.runtimeMac = some bytes
  | .interface => ¬(n.management.kind ≠ "" ∧ n.withoutInterface = true)
  | .modes => ¬(n.hairpin = true ∧ n.promiscuous = true)
  | .podSubnets => n.management.kind ≠ "" → ∀ text ∈ n.management.podSubnets, ∃ net, Subnet.parse? text = some net
  | .backend => n.masqueradeBackend = none ∨ n.masqueradeBackend = some "iptables" ∨
      n.masqueradeBackend = some "nftables"

-- The fault that a check finds with a declaration, if it does not pass.
inductive Finds (n : Network) : Check → ConfigFault → Prop where
  | vlanId : Finds n .vlanId (.vlanId n.vlan.toInt)
  | trunk (given : n.trunk = some entries) (faulty : expandTrunk entries = .error fault) : Finds n .trunk (.trunk fault)
  | mac : Finds n .mac (.mac n.runtimeMac)
  | interface : Finds n .interface .ipamWithoutInterface
  | modes : Finds n .modes .hairpinAndPromiscuous
  | podSubnets (first : n.management.podSubnets.find? (fun text => (Subnet.parse? text).isNone) = some text) :
      Finds n .podSubnets (.podSubnet text)
  | backend (given : n.masqueradeBackend = some name) : Finds n .backend (.backend name)

theorem Finds.unique {c : Check} (one : c.Finds n fault) (two : c.Finds n other) : fault = other := by
  cases one with
  | trunk given faulty =>
    cases two with
    | trunk given' faulty' =>
      cases given.symm.trans given'
      cases faulty.symm.trans faulty'
      rfl
  | podSubnets first =>
    cases two with
    | podSubnets first' =>
      cases first.symm.trans first'
      rfl
  | backend given =>
    cases two with
    | backend given' =>
      cases given.symm.trans given'
      rfl
  | vlanId => cases two; rfl
  | mac => cases two; rfl
  | interface => cases two; rfl
  | modes => cases two; rfl

-- The fault that the first check finds which does not pass.
def FirstFault (n : Network) : List Check → ConfigFault → Prop
  | [],_ => False
  | c :: later,fault => ¬c.Passes n ∧ c.Finds n fault ∨ c.Passes n ∧ FirstFault n later fault

variable {n : Network} {checks : List Check} {c : Check} {fault other : ConfigFault}

theorem FirstFault.unique (one : FirstFault n checks fault) (two : FirstFault n checks other) : fault = other := by
  induction checks with
  | nil => exact one.elim
  | cons c later ih =>
    rcases one with ⟨fails,found⟩ | ⟨passes,one⟩ <;> rcases two with ⟨fails',found'⟩ | ⟨passes',two⟩
    · exact found.unique found'
    · exact absurd passes' fails
    · exact absurd passes fails'
    · exact ih one two

theorem FirstFault.fails (found : FirstFault n checks fault) : ¬∀ c ∈ checks, c.Passes n := by
  intro passed
  induction checks with
  | nil => exact found
  | cons c later ih =>
    obtain ⟨first,others⟩ := List.forall_mem_cons.mp passed
    rcases found with ⟨fails,_⟩ | ⟨_,found⟩
    · exact fails first
    · exact ih found others

-- A result that some checks have decided: with a value only if they all pass, else with the first fault.
def Decides (n : Network) (checks : List Check) (Q : α → Prop) : Except ConfigFault α → Prop
  | .ok a => (∀ c ∈ checks, c.Passes n) ∧ Q a
  | .error fault => FirstFault n checks fault

variable {α β : Type} {P : α → Prop} {Q : β → Prop}

theorem decides_bind {x : Except ConfigFault α} {f : α → Except ConfigFault β} (first : Decides n [c] P x)
    (rest : ∀ a, c.Passes n → P a → Decides n checks Q (f a)) : Decides n (c :: checks) Q (x >>= f) := by
  cases x with
  | error fault =>
    rcases first with failed | ⟨_,none⟩
    · exact .inl failed
    · exact none.elim
  | ok a =>
    have passes := first.1 c List.mem_cons_self
    have later := rest a passes first.2
    change Decides n (c :: checks) Q (f a)
    cases ended : f a with
    | error fault =>
      rw [ended] at later
      exact .inr ⟨passes,later⟩
    | ok b =>
      rw [ended] at later
      exact ⟨List.forall_mem_cons.mpr ⟨passes,later.1⟩,later.2⟩

theorem decides_if {refused : Bool} {rest : Except ConfigFault β} (fails : refused = true ↔ ¬c.Passes n)
    (found : c.Finds n fault) (others : c.Passes n → Decides n checks Q rest) :
    Decides n (c :: checks) Q (if refused then .error fault else rest) := by
  cases refused with
  | true => exact .inl ⟨fails.mp rfl,found⟩
  | false =>
    have passes : c.Passes n := Classical.byContradiction fun failed => nomatch fails.mpr failed
    have idle : Decides n [c] (fun _ : Unit => True) (.ok ()) := ⟨by simpa using passes,trivial⟩
    exact decides_bind idle fun _ _ _ => others passes

theorem decides_ok {b : β} (held : Q b) : Decides n [] Q (.ok b) := ⟨fun _ none => absurd none List.not_mem_nil,held⟩

theorem hasVlanId_decides : (!n.hasVlanId) = true ↔ ¬Check.vlanId.Passes n := by
  rw [Bool.not_eq_true',← Bool.not_eq_true,Network.hasVlanId,Bool.and_eq_true,decide_eq_true_iff,decide_eq_true_iff]
  rfl

-- The ids of the trunk, of which there are none without a trunk.
theorem vlans_decides : Decides n [.trunk] (fun ids => (n.trunk = none → ids = []) ∧
    ∀ entries, n.trunk = some entries → expandTrunk entries = .ok ids) n.vlans := by
  cases given : n.trunk with
  | none =>
    have known : n.vlans = .ok [] := by rw [Network.vlans,given]
    rw [known]
    exact ⟨by simp [Passes,given],fun _ => rfl,fun _ none => nomatch none⟩
  | some entries =>
    cases expanded : expandTrunk entries with
    | ok ids =>
      have known : n.vlans = .ok ids := by
        rw [Network.vlans,given]
        exact congrArg (Except.mapError ConfigFault.trunk) expanded
      rw [known]
      refine ⟨by simp [Passes,given,expanded],fun none => (nomatch none),fun _ same => ?_⟩
      cases same
      exact expanded
    | error fault =>
      have known : n.vlans = .error (.trunk fault) := by
        rw [Network.vlans,given]
        exact congrArg (Except.mapError ConfigFault.trunk) expanded
      rw [known]
      exact .inl ⟨by simp [Passes,given,expanded],.trunk given expanded⟩

theorem mac_decides : Decides n [.mac] (fun mac => mac = if n.runtimeMac = "" then none else some n.runtimeMac)
    n.mac := by
  unfold Network.mac
  by_cases empty : n.runtimeMac = ""
  · rw [empty]
    exact ⟨by simp [Passes,empty],rfl⟩
  · have nonempty : n.runtimeMac.isEmpty = false := by simpa using empty
    simp only [nonempty,Bool.false_eq_true,if_false,empty]
    cases read : macBytes? n.runtimeMac with
    | some bytes => exact ⟨by simp [Passes,read],rfl⟩
    | none => exact .inl ⟨by simp [Passes,empty,read],.mac⟩

theorem layer3_declared : n.layer3 = true ↔ n.management.kind ≠ "" := by simp [Network.layer3]

theorem interface_decides : (n.layer3 && n.withoutInterface) = true ↔ ¬Check.interface.Passes n := by
  rw [Bool.and_eq_true,layer3_declared,Passes,Classical.not_not]

theorem modes_decides : (n.hairpin && n.promiscuous) = true ↔ ¬Check.modes.Passes n := by
  rw [Bool.and_eq_true,Passes,Classical.not_not]

-- Texts are read in their order, up to the first that is no subnet.
theorem podSubnets_read (texts : List String) :
    (∃ nets, texts.mapM Network.podSubnet = .ok nets ∧ texts.map Subnet.parse? = nets.map some) ∨
      ∃ text, texts.find? (fun text => (Subnet.parse? text).isNone) = some text ∧
        texts.mapM Network.podSubnet = .error (.podSubnet text) := by
  induction texts with
  | nil => exact .inl ⟨[],rfl,rfl⟩
  | cons text rest ih =>
    rw [List.mapM_cons]
    cases read : Subnet.parse? text with
    | none =>
      have refused : Network.podSubnet text = .error (.podSubnet text) := by rw [Network.podSubnet,read]
      exact .inr ⟨text,by rw [List.find?_cons_of_pos (by simp [read])],by rw [refused]; rfl⟩
    | some net =>
      have taken : Network.podSubnet text = .ok net := by rw [Network.podSubnet,read]
      rw [taken]
      rcases ih with ⟨nets,others,same⟩ | ⟨later,found,others⟩
      · exact .inl ⟨net :: nets,by rw [others]; rfl,by rw [List.map_cons,List.map_cons,read,same]⟩
      · exact .inr ⟨later,by rw [List.find?_cons_of_neg (by simp [read]),found],by rw [others]; rfl⟩

theorem podSubnets_decides : Decides n [.podSubnets] (fun nets => if n.management.kind = "" then nets = []
    else n.management.podSubnets.map Subnet.parse? = nets.map some) n.podSubnets := by
  unfold Network.podSubnets
  by_cases unmanaged : n.management.kind = ""
  · have plain : n.layer3 = false := by simp [Network.layer3,unmanaged]
    rw [plain]
    exact ⟨by simp [Passes,unmanaged],by simp [unmanaged]⟩
  · rw [layer3_declared.mpr unmanaged,if_pos rfl]
    rcases podSubnets_read n.management.podSubnets with ⟨nets,read,same⟩ | ⟨text,found,refused⟩
    · rw [read]
      refine ⟨?_,by simpa only [if_neg unmanaged] using same⟩
      intro c among
      cases List.mem_singleton.mp among
      intro _ text listed
      obtain ⟨net,_,known⟩ := List.mem_map.mp (same ▸ List.mem_map_of_mem listed)
      exact ⟨net,known.symm⟩
    · rw [refused]
      refine .inl ⟨fun passes => ?_,.podSubnets found⟩
      obtain ⟨net,read⟩ := passes unmanaged text (List.mem_of_find?_eq_some found)
      have illegible := List.find?_some found
      rw [read] at illegible
      cases illegible

theorem backend_decides : Decides n [.backend] (fun backend => backend.map Firewall.Backend.name = n.masqueradeBackend)
    n.backend := by
  unfold Network.backend
  cases given : n.masqueradeBackend with
  | none => exact ⟨by simp [Passes,given],rfl⟩
  | some name =>
    by_cases first : name = "iptables"
    · subst first
      exact ⟨by simp [Passes,given],rfl⟩
    · by_cases second : name = "nftables"
      · subst second
        exact ⟨by simp [Passes,given],rfl⟩
      · have unknown : Firewall.Backend.ofName? name = none := by simp [Firewall.Backend.ofName?,first,second]
        simp only [unknown]
        exact .inl ⟨by simp [Passes,given,first,second],.backend given⟩

end Check

-- What the plan for a declaration consists of.
structure Drawn (n : Network) (p : Plan) : Prop where
  vlan : (p.vlan : Int) = n.vlan.toInt
  ascending : p.vlans.Pairwise (· < ·)
  within : ∀ id ∈ p.vlans, 1 ≤ id ∧ id ≤ 4094
  trunk : (n.trunk = none → p.vlans = []) ∧ ∀ entries, n.trunk = some entries → expandTrunk entries = .ok p.vlans
  filtering : p.filtering = true ↔ n.vlan.toInt ≠ 0 ∨ ∃ entries, n.trunk = some entries
  isGateway : p.isDefaultGateway = true → p.isGateway = true
  modes : ¬(p.hairpin = true ∧ p.promiscuous = true)
  podSubnets : if n.management.kind = "" then p.podSubnets = []
    else n.management.podSubnets.map Subnet.parse? = p.podSubnets.map some
  bridge : p.bridge = if n.bridge = "" then "br0" else n.bridge
  named : p.bridge ≠ ""
  mac : p.mac = if n.runtimeMac = "" then none else some n.runtimeMac
  backend : p.backend.map Firewall.Backend.name = n.masqueradeBackend

theorem expandTrunk_ascending (expanded : expandTrunk entries = .ok ids) :
    ids.Pairwise (· < ·) ∧ ∀ id ∈ ids, 1 ≤ id ∧ id ≤ 4094 := by
  unfold expandTrunk at expanded
  split at expanded
  · cases expanded
  · cases expanded
    have ascending : (List.range' 1 largestVlan).Pairwise (· < ·) := List.pairwise_lt_range'
    refine ⟨ascending.filter _,fun id among => ?_⟩
    obtain ⟨_,within⟩ := List.mem_range'_1.mp (List.mem_filter.mp among).1
    have largest : largestVlan = 4094 := rfl
    omega

namespace Network

theorem trunk_ascending {n : Network} (listed : (n.trunk = none → ids = []) ∧
    ∀ entries, n.trunk = some entries → expandTrunk entries = .ok ids) :
    ids.Pairwise (· < ·) ∧ ∀ id ∈ ids, 1 ≤ id ∧ id ≤ 4094 := by
  cases given : n.trunk with
  | none =>
    rw [listed.1 given]
    exact ⟨.nil,fun _ none => absurd none List.not_mem_nil⟩
  | some entries => exact expandTrunk_ascending (listed.2 entries given)

theorem filtering_iff (n : Network) : (n.vlan != 0 || n.trunk.isSome) = true ↔
    n.vlan.toInt ≠ 0 ∨ ∃ entries, n.trunk = some entries := by
  rw [Bool.or_eq_true,bne_iff_ne,Option.isSome_iff_exists]
  refine or_congr (not_congr ?_) Iff.rfl
  rw [← Int64.toInt_inj,Int64.toInt_zero]

theorem bridgeName_default (n : Network) : n.bridgeName = if n.bridge = "" then "br0" else n.bridge := by
  simp [bridgeName,defaultBridge]

theorem bridgeName_named (n : Network) : n.bridgeName ≠ "" := by
  rw [bridgeName_default]
  split
  · decide
  · assumption

-- The checks are made one after the other, and what they have read goes into the plan.
theorem plan_decides (n : Network) : Check.Decides n Check.all (Drawn n) n.plan := by
  unfold plan
  refine Check.decides_if Check.hasVlanId_decides .vlanId fun numbered => ?_
  refine Check.decides_bind Check.vlans_decides fun vlans _ listed => ?_
  refine Check.decides_bind Check.mac_decides fun mac _ addressed => ?_
  refine Check.decides_if Check.interface_decides .interface fun _ => ?_
  refine Check.decides_if Check.modes_decides .modes fun modes => ?_
  refine Check.decides_bind Check.podSubnets_decides fun podSubnets _ read => ?_
  refine Check.decides_bind Check.backend_decides fun backend _ chosen => ?_
  refine Check.decides_ok ?_
  obtain ⟨ascending,within⟩ := trunk_ascending listed
  exact {
    vlan := Int.toNat_of_nonneg numbered.1
    ascending
    within
    trunk := listed
    filtering := filtering_iff n
    isGateway := fun default => by simp only [Bool.or_eq_true]; exact .inr default
    modes
    podSubnets := read
    bridge := bridgeName_default n
    named := bridgeName_named n
    mac := addressed
    backend := chosen }

-- There is a plan for exactly the declarations that pass all checks; for each other one the first check in their order
-- that does not pass tells its fault.
theorem planned_exactly (n : Network) :
    ((∃ p, n.plan = .ok p) ↔ ∀ c ∈ Check.all, c.Passes n) ∧
    (∀ fault, n.plan = .error fault ↔ Check.FirstFault n Check.all fault) ∧
    ∀ p, n.plan = .ok p → Drawn n p := by
  have decided := plan_decides n
  cases ended : n.plan with
  | ok p =>
    rw [ended] at decided
    obtain ⟨passed,drawn⟩ := decided
    refine ⟨⟨fun _ => passed,fun _ => ⟨p,rfl⟩⟩,fun fault => ⟨fun refused => (nomatch refused),fun found => ?_⟩,?_⟩
    · exact absurd passed found.fails
    · intro other same
      cases same
      exact drawn
  | error fault =>
    rw [ended] at decided
    have found : Check.FirstFault n Check.all fault := decided
    refine ⟨⟨fun ⟨_,planned⟩ => (nomatch planned),fun passed => absurd passed found.fails⟩,fun other => ⟨?_,?_⟩,?_⟩
    · intro same
      cases same
      exact found
    · intro found'
      rw [found.unique found']
    · intro p planned
      cases planned

end Network
end HostNet.Config
