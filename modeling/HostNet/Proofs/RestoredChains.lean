import HostNet.Proofs.OwnRules
import HostNet.Proofs.Removal

namespace HostNet.Masquerade.Iptables
open Firewall.Iptables

-- No chain of a name, and no rule that sends packets to one.
structure Unknown (chain : String) (v : View) : Prop where
  absent : ∀ family, v family chain = none
  unentered : ∀ family rules, v family postrouting = some rules → ∀ rule ∈ rules, jumpsTo chain rule = false

-- What tearing down for a net leaves of rules.
def freed (chain comment : String) (rules : List Rule) (net : Subnet) : List Rule :=
  (rules.erase (jumpRule net.address.text chain comment)).erase (jumpRule net.text chain comment)

variable {v : View} {chain comment c : String} {family : Family} {rules jumps : List Rule} {rule : Rule}
  {nets : List Subnet}

section Lists

theorem appended_beside (rules jumps : List Rule) (absent : rule ∉ rules) :
    appended (rules ++ jumps) rule = rules ++ appended jumps rule := by
  by_cases there : rule ∈ jumps
  · rw [appended_there there,appended_there (List.mem_append_right _ there)]
  · have new : rule ∉ rules ++ jumps := fun member => (List.mem_append.mp member).elim absent there
    rw [appended_absent there,appended_absent new,List.append_assoc]

-- Rules that are new to a chain come behind all others.
theorem filled_beside (rules : List Rule) {new : List Rule} (apart : ∀ rule ∈ new, rule ∉ rules) (jumps : List Rule) :
    filled (rules ++ jumps) new = rules ++ filled jumps new := by
  induction new generalizing jumps with
  | nil => rfl
  | cons rule rest ih =>
    obtain ⟨absent,later⟩ := List.forall_mem_cons.mp apart
    rw [filled,List.foldl_cons,appended_beside rules jumps absent]
    exact ih later _

theorem filled_once (once : jumps.Nodup) (new : List Rule) : (filled jumps new).Nodup := by
  induction new generalizing jumps with
  | nil => exact once
  | cons rule rest ih => exact ih (appended_nodup once rule)

theorem frees_beside (clean : ∀ rule ∈ rules, jumpsTo chain rule = false) (nets : List Subnet) (jumps : List Rule) :
    nets.foldl (freed chain comment) (rules ++ jumps) = rules ++ nets.foldl (freed chain comment) jumps := by
  have absent : ∀ source, jumpRule source chain comment ∉ rules := fun source among => by
    cases (jumpsTo_jump source chain comment).symm.trans (clean _ among)
  induction nets generalizing jumps with
  | nil => rfl
  | cons net rest ih =>
    have first : freed chain comment (rules ++ jumps) net = rules ++ freed chain comment jumps net := by
      rw [freed,List.erase_append_right _ (absent _),List.erase_append_right _ (absent _),freed]
    rw [List.foldl_cons,first,ih,List.foldl_cons]

-- Jumps that are there once each are gone after a tear-down for all their nets.
theorem frees_all (once : jumps.Nodup)
    (known : ∀ rule ∈ jumps, ∃ net ∈ nets, rule = jumpRule net.text chain comment) :
    nets.foldl (freed chain comment) jumps = [] := by
  induction nets generalizing jumps with
  | nil =>
    refine List.eq_nil_iff_forall_not_mem.mpr fun rule member => ?_
    obtain ⟨_,nobody,_⟩ := known rule member
    cases nobody
  | cons net rest ih =>
    have onceErased := once.erase (jumpRule net.address.text chain comment)
    refine ih (onceErased.erase _) fun rule left => ?_
    obtain ⟨different,member⟩ := onceErased.mem_erase_iff.mp left
    obtain ⟨other,among,written⟩ := known rule (List.mem_of_mem_erase member)
    rcases List.mem_cons.mp among with rfl | later
    · exact absurd written different
    · exact ⟨other,later,written⟩

end Lists

section Views

-- What no net of a run changes is as it was.
theorem folds_keep {change : View → Subnet → View} (kept : ∀ w, ∀ net ∈ nets, change w net family c = w family c)
    (v : View) : nets.foldl change v family c = v family c := by
  induction nets generalizing v with
  | nil => rfl
  | cons net rest ih =>
    have later := ih fun w other among => kept w other (List.mem_cons_of_mem _ among)
    rw [List.foldl_cons,later,kept v net List.mem_cons_self]

theorem setups_apart (others : ∀ net ∈ nets, family ≠ net.family) (c : String) :
    nets.foldl (setupView chain comment) v family c = v family c :=
  folds_keep (fun _ net among => setupView_apart c (others net among)) v

theorem setups_beside (own : c ≠ chain) (inner : c ≠ postrouting) (nets : List Subnet) :
    nets.foldl (setupView chain comment) v family c = v family c := by
  refine folds_keep (fun w net _ => ?_) v
  by_cases same : family = net.family
  · subst same
    exact setupView_beside own inner
  · exact setupView_apart c same

theorem teardowns_beside (own : c ≠ chain) (inner : c ≠ postrouting) (nets : List Subnet) :
    nets.foldl (teardownView chain comment) v family c = v family c := by
  refine folds_keep (fun w net _ => ?_) v
  by_cases same : family = net.family
  · subst same
    exact teardownView_beside own inner
  · exact teardownView_apart c same

-- What runs make of the built-in chain: each family deals with its own nets.
theorem setups_entry (held : v family postrouting = some rules) (nets : List Subnet) :
    nets.foldl (setupView chain comment) v family postrouting =
      some (filled rules ((ofFamily family nets).map fun net => jumpRule net.text chain comment)) := by
  induction nets generalizing v rules with
  | nil => exact held
  | cons net rest ih =>
    by_cases same : family = net.family
    · subst same
      rw [List.foldl_cons,ih (setupView_entry held),ofFamily_own]
      rfl
    · rw [List.foldl_cons,ih ((setupView_apart postrouting same).trans held),ofFamily_other same]

theorem teardowns_entry (apart : chain ≠ postrouting) (nets : List Subnet) :
    nets.foldl (teardownView chain comment) v family postrouting =
      (v family postrouting).map ((ofFamily family nets).foldl (freed chain comment)) := by
  induction nets generalizing v with
  | nil => exact (congrFun Option.map_id _).symm
  | cons net rest ih =>
    rw [List.foldl_cons,ih]
    by_cases same : family = net.family
    · subst same
      rw [teardownView,View.set_chain _ _ _ _ apart.symm,View.set_same,Option.map_map,ofFamily_own]
      rfl
    · rw [teardownView_apart postrouting same,ofFamily_other same]

end Views

-- Tearing down for all nets that were set up, and for any others, leaves the tables as they were, if they had nothing
-- of the chain. Neither the rules of others nor those that are there twice are touched.
theorem teardowns_restore {added removed : List Subnet} (apart : chain ≠ postrouting) (unknown : Unknown chain v)
    (present : ∀ net ∈ added, (v net.family postrouting).isSome) (covered : ∀ net ∈ added, net ∈ removed) :
    removed.foldl (teardownView chain comment) (added.foldl (setupView chain comment) v) = v := by
  funext family c
  by_cases own : c = chain
  · subst own
    rw [teardowns_chain,unknown.absent family]
    split
    · rfl
    · rename_i nobody
      have others : ∀ net ∈ added, family ≠ net.family := fun net among same =>
        nobody ⟨net,covered net among,same.symm⟩
      rw [setups_apart others,unknown.absent family]
  by_cases inner : c = postrouting
  · subst inner
    rw [teardowns_entry apart]
    cases held : v family postrouting with
    | none =>
      have others : ∀ net ∈ added, family ≠ net.family := by
        rintro net among rfl
        have there := present net among
        rw [held] at there
        cases there
      rw [setups_apart others,held,Option.map_none]
    | some rules =>
      have clean := unknown.unentered family rules held
      have new : ∀ rule ∈ (ofFamily family added).map fun net => jumpRule net.text chain comment, rule ∉ rules := by
        intro rule member among
        obtain ⟨net,_,rfl⟩ := List.mem_map.mp member
        cases (jumpsTo_jump net.text chain comment).symm.trans (clean _ among)
      have filling := filled_beside rules new []
      rw [List.append_nil] at filling
      rw [setups_entry held,filling,Option.map_some,frees_beside clean]
      rw [frees_all (filled_once List.nodup_nil _) fun rule member => ?_,List.append_nil]
      obtain ⟨net,among,rfl⟩ := List.mem_map.mp (((mem_filled _ _ _).mp member).resolve_left List.not_mem_nil)
      obtain ⟨asked,same⟩ := List.mem_filter.mp among
      exact ⟨net,List.mem_filter.mpr ⟨covered net asked,same⟩,rfl⟩
  · rw [teardowns_beside own inner,setups_beside own inner]

-- The built-in chains, where packets of the narrow family meet some rules on their way out.
def ruled (rules : List Rule) : Memory :=
  Memory.initial.put .v4 natTable ((Memory.initial.tables .v4 natTable).put postrouting rules)

theorem ruled_view (rules : List Rule) :
    (ruled rules).view = Memory.initial.view.set .v4 postrouting (some rules) :=
  (Memory.place_becomes .initial .v4 postrouting rules).view

theorem ruled_unknown (network id : String) {rules : List Rule}
    (clean : ∀ rule ∈ rules, jumpsTo (chainName network id) rule = false) :
    Unknown (chainName network id) (ruled rules).view := by
  rw [ruled_view]
  refine ⟨fun family => ?_,fun family other held rule member => ?_⟩
  · rw [View.set_chain _ _ _ _ (chainName_postrouting network id)]
    exact initial_absent network id family
  · by_cases same : family = .v4
    · subst same
      rw [View.set_same] at held
      cases held
      exact clean rule member
    · rw [View.set_family _ _ _ _ same,Memory.initial_postrouting] at held
      cases held
      cases member

theorem ruled_present (rules : List Rule) (family : Family) : ((ruled rules).view family postrouting).isSome := by
  rw [ruled_view]
  by_cases same : family = .v4
  · subst same
    rw [View.set_same]
    rfl
  · rw [View.set_family _ _ _ _ same,Memory.initial_postrouting]
    rfl

section Undoing
variable {m : Memory} {identity : Identity}

-- Where nothing is known of an identity, tearing it down for whatever nets leaves all as it was.
theorem teardown_unknown (working : m.failure = none)
    (unknown : Unknown (chainName identity.network identity.id) m.view) (nets : List Subnet) :
    ∃ m', teardown Memory.ops nets identity m = .ok () m' ∧ Memory.Becomes m m.view m' := by
  obtain ⟨m',ran,becomes⟩ := teardown_working nets identity working
  have same : nets.foldl (teardownView (chainName identity.network identity.id)
      (chainComment identity.network identity.id)) m.view = m.view :=
    teardowns_restore (chainName_postrouting _ _) unknown (fun net (nobody : net ∈ []) => nomatch nobody)
      fun _ nobody => nomatch nobody
  rw [same] at becomes
  exact ⟨m',ran,becomes⟩

-- Where the tool works and nothing is known of an identity, installing sets up all nets and tearing down takes it all
-- back. There is nothing left to take back then, as there was nothing before.
theorem teardown_undoes_install (working : m.failure = none) (present : ∀ family, (m.view family postrouting).isSome)
    (unknown : Unknown (chainName identity.network identity.id) m.view) (nets : List Subnet) :
    (∃ m₁ m₂, install Memory.ops nets identity m = .ok () m₁ ∧
      (∀ net ∈ nets, Holds (chainName identity.network identity.id) (chainComment identity.network identity.id)
        m₁.view net) ∧
      teardown Memory.ops nets identity m₁ = .ok () m₂ ∧ Memory.Becomes m m.view m₂ ∧
      (∀ family, m₂.view family (chainName identity.network identity.id) = none) ∧
      ∀ others, ∃ m₃, teardown Memory.ops others identity m₂ = .ok () m₃ ∧ Memory.Becomes m m.view m₃) ∧
    ∀ others, ∃ m', teardown Memory.ops others identity m = .ok () m' ∧ Memory.Becomes m m.view m' := by
  refine ⟨?_,teardown_unknown working unknown⟩
  obtain ⟨m₁,installed,added⟩ := install_working nets identity working present
  obtain ⟨m₂,undone,removed⟩ := teardown_working nets identity (added.failure.trans working)
  have whole := added.trans removed
  rw [added.view,teardowns_restore (chainName_postrouting _ _) unknown (fun net _ => present net.family)
    fun _ among => among] at whole
  refine ⟨m₁,m₂,installed,?_,undone,whole,fun family => ?_,fun others => ?_⟩
  · rw [added.view]
    exact setups_hold (chainName_postrouting _ _) nets m.view
  · rw [whole.view]
    exact unknown.absent family
  · have still : Unknown (chainName identity.network identity.id) m₂.view := by
      rw [whole.view]
      exact unknown
    obtain ⟨m₃,again,idle⟩ := teardown_unknown (whole.failure.trans working) still others
    have altogether := whole.trans idle
    rw [whole.view] at altogether
    exact ⟨m₃,again,altogether⟩

end Undoing

-- Rules of others, of which two are equal.
def othersRules : List Rule := [["-j","RETURN"],["-s","10.23.0.1/24","-j","PETA-0"],["-j","RETURN"]]

-- Nets of both families, of which some have one address and two are equal.
def mixedNets : List Subnet :=
  [.ofAddress (.ofNat .v4 0x0A160001) 24,.ofAddress (.ofNat .v4 0x0A160001) 16,
    .ofAddress (.ofNat .v4 0x0A160001) 24,.ofAddress (.ofNat .v6 0xFD000000000000000000000000000001) 64]

theorem mixed_undone : (ruled othersRules).failure = none ∧
    (∀ family, ((ruled othersRules).view family postrouting).isSome) ∧
    Unknown (chainName "pods" "") (ruled othersRules).view ∧
    ∃ m₁ m₂, install Memory.ops mixedNets (.ofNetwork "pods") (ruled othersRules) = .ok () m₁ ∧
      (∀ net ∈ mixedNets, Holds (chainName "pods" "") (chainComment "pods" "") m₁.view net) ∧
      teardown Memory.ops mixedNets (.ofNetwork "pods") m₁ = .ok () m₂ ∧ m₂.view = (ruled othersRules).view := by
  have working : (ruled othersRules).failure = none := rfl
  have clean : ∀ rule ∈ othersRules, jumpsTo (chainName "pods" "") rule = false := by decide +kernel
  have unknown := ruled_unknown "pods" "" clean
  have both := @teardown_undoes_install _ (.ofNetwork "pods") working (ruled_present othersRules) unknown mixedNets
  obtain ⟨⟨m₁,m₂,installed,held,undone,whole,_⟩,_⟩ := both
  exact ⟨working,ruled_present othersRules,unknown,m₁,m₂,installed,held,undone,whole.view⟩

-- A tool that is broken installs nothing.
theorem broken_refuses : ∃ m nets identity, (∀ family, (m.view family postrouting).isSome) ∧
    Unknown (chainName identity.network identity.id) m.view ∧ ∀ m', install Memory.ops nets identity m ≠ .ok () m' := by
  have unknown := ruled_unknown "pods" "" (List.forall_mem_nil fun rule => jumpsTo (chainName "pods" "") rule = false)
  refine ⟨{ ruled [] with failure := some "no lock" },[default],.ofNetwork "pods",ruled_present [],unknown,?_⟩
  intro m' installed
  cases (Step.bind_error (setupNet_failing rfl)).symm.trans installed

end HostNet.Masquerade.Iptables
