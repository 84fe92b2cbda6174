import HostNet.Proofs.InstanceRuns
import HostNet.Proofs.MasqueradeChains

namespace HostNet.Masquerade

namespace Iptables
open Firewall.Iptables

variable {m m' : Memory} {chain comment : String} {net other : Subnet} {v : View}

-- All that is set up for a net is there.
structure Holds (chain comment : String) (v : View) (net : Subnet) : Prop where
  own : ∃ rules, v net.family chain = some rules ∧ acceptRule net comment ∈ rules ∧
    masqueradeRule net.family comment ∈ rules
  entry : ∃ rules, v net.family postrouting = some rules ∧ jumpRule net.text chain comment ∈ rules

theorem setupView_holds (apart : chain ≠ postrouting) (v : View) (net : Subnet) :
    Holds chain comment (setupView chain comment v net) net := by
  refine ⟨⟨_,setupView_own apart,?_,?_⟩,⟨_,by rw [setupView,View.set_same],?_⟩⟩
  · exact (mem_appended _ _ _).mpr (Or.inl ((mem_appended _ _ _).mpr (Or.inr rfl)))
  · exact (mem_appended _ _ _).mpr (Or.inr rfl)
  · exact (mem_appended _ _ _).mpr (Or.inr rfl)

theorem setupView_keeps (apart : chain ≠ postrouting) (holds : Holds chain comment v net) (other : Subnet) :
    Holds chain comment (setupView chain comment v other) net := by
  obtain ⟨⟨own,held,accepts,masquerades⟩,⟨jumps,entered,jump⟩⟩ := holds
  by_cases same : net.family = other.family
  · rw [same] at held entered masquerades
    refine ⟨⟨_,by rw [same]; exact setupView_own apart,?_,?_⟩,⟨_,by rw [same]; exact setupView_entry entered,?_⟩⟩
    · rw [held,Option.getD_some]
      exact (mem_appended _ _ _).mpr (Or.inl ((mem_appended _ _ _).mpr (Or.inl accepts)))
    · rw [held,Option.getD_some,same]
      exact (mem_appended _ _ _).mpr (Or.inl ((mem_appended _ _ _).mpr (Or.inl masquerades)))
    · exact (mem_appended _ _ _).mpr (Or.inl jump)
  · refine ⟨⟨own,?_,accepts,masquerades⟩,⟨jumps,?_,jump⟩⟩
    · rw [setupView_apart _ same,held]
    · rw [setupView_apart _ same,entered]

theorem setups_keep (apart : chain ≠ postrouting) (holds : Holds chain comment v net) (nets : List Subnet) :
    Holds chain comment (nets.foldl (setupView chain comment) v) net := by
  induction nets generalizing v with
  | nil => exact holds
  | cons other rest ih => exact ih (setupView_keeps apart holds other)

theorem setups_hold (apart : chain ≠ postrouting) (nets : List Subnet) (v : View) :
    ∀ net ∈ nets, Holds chain comment (nets.foldl (setupView chain comment) v) net := by
  induction nets generalizing v with
  | nil => simp
  | cons first rest ih =>
    intro net among
    rcases List.mem_cons.mp among with rfl | later
    · exact setups_keep apart (setupView_holds apart v net) rest
    · exact ih _ net later

-- Success shows that the tool worked and that the built-in chain was there.
theorem setupNet_ok (apart : chain ≠ postrouting) (ran : setupNet Memory.ops chain comment net m = .ok () m') :
    m.failure = none ∧ (m.view net.family postrouting).isSome ∧
      Memory.Becomes m (setupView chain comment m.view net) m' := by
  cases broken : m.failure with
  | some message => cases (setupNet_failing broken).symm.trans ran
  | none =>
    cases present : m.view net.family postrouting with
    | none =>
      obtain ⟨m₃,filled,becomes⟩ := setupNet_filled chain comment net broken
      have absent : m₃.view net.family postrouting = none := by
        rw [becomes.view,View.set_chain _ _ _ _ apart.symm,present]
      have refused := Memory.appendUnique_absent (jumpRule net.text chain comment) (becomes.failure.trans broken) absent
      cases (filled.trans (Step.mapError_error refused)).symm.trans ran
    | some jumps =>
      obtain ⟨m₁,done,becomes⟩ := setupNet_working comment net broken apart (by rw [present]; rfl)
      cases done.symm.trans ran
      exact ⟨rfl,rfl,becomes⟩

theorem setupNets_ok (apart : chain ≠ postrouting) (nets : List Subnet)
    (ran : nets.forM (setupNet Memory.ops chain comment) m = .ok () m') :
    (nets ≠ [] → m.failure = none) ∧ Memory.Becomes m (nets.foldl (setupView chain comment) m.view) m' := by
  induction nets generalizing m with
  | nil => cases ran; exact ⟨fun some => absurd rfl some,Memory.Becomes.refl _⟩
  | cons net rest ih =>
    obtain ⟨_,m₁,first,others⟩ := Step.of_bind ran
    obtain ⟨working,_,b₁⟩ := setupNet_ok apart first
    obtain ⟨_,b₂⟩ := ih others
    rw [b₁.view] at b₂
    exact ⟨fun _ => working,b₁.trans b₂⟩

theorem setupNets_present (apart : chain ≠ postrouting) (nets : List Subnet)
    (ran : nets.forM (setupNet Memory.ops chain comment) m = .ok () m') :
    ∀ net ∈ nets, (m.view net.family postrouting).isSome := by
  induction nets generalizing m with
  | nil => simp
  | cons first rest ih =>
    obtain ⟨_,m₁,begun,others⟩ := Step.of_bind ran
    obtain ⟨_,present,becomes⟩ := setupNet_ok apart begun
    refine List.forall_mem_cons.mpr ⟨present,fun net among => ?_⟩
    have later := ih others net among
    rw [becomes.view] at later
    by_cases same : net.family = first.family
    · rw [same]
      exact present
    · rwa [setupView_apart _ same] at later

theorem setupNet_idle (working : m.failure = none) (holds : Holds chain comment m.view net) :
    setupNet Memory.ops chain comment net m = .ok () m := by
  obtain ⟨⟨own,held,accepts,masquerades⟩,⟨jumps,entered,jump⟩⟩ := holds
  have listed : ((m.tables net.family natTable).map Prod.fst).contains chain = true := by
    have found : (m.tables net.family natTable).find? chain = some own := held
    rw [Chains.names_contain,found]
    rfl
  refine (Step.bind_ok (Step.mapError_ok (Memory.listChains_working working))).trans ?_
  simp only [listed,Bool.not_true,Bool.false_eq_true,if_false]
  refine (Step.bind_ok (Step.mapError_ok (Memory.appendUnique_idle working held accepts))).trans ?_
  refine (Step.bind_ok (Step.mapError_ok (Memory.appendUnique_idle working held masquerades))).trans ?_
  exact Step.mapError_ok (Memory.appendUnique_idle working entered jump)

theorem setupNets_idle (working : m.failure = none) (nets : List Subnet)
    (hold : ∀ net ∈ nets, Holds chain comment m.view net) :
    nets.forM (setupNet Memory.ops chain comment) m = .ok () m := by
  induction nets with
  | nil => rfl
  | cons net rest ih =>
    refine (Step.bind_ok (setupNet_idle working (hold net (by simp)))).trans ?_
    exact ih fun net among => hold net (List.mem_cons_of_mem _ among)

-- A successful install leaves nothing to do for another one.
theorem install_again (ran : install Memory.ops nets identity m = .ok () m') :
    install Memory.ops nets identity m' = .ok () m' := by
  have apart := chainName_postrouting identity.network identity.id
  obtain ⟨working,becomes⟩ := setupNets_ok apart nets ran
  cases nets with
  | nil => rfl
  | cons net rest =>
    refine setupNets_idle (becomes.failure.trans (working (by simp))) _ ?_
    rw [becomes.view]
    exact setups_hold apart _ m.view

end Iptables

namespace Nft
open Firewall.Nft Firewall.Nft.Ruleset

-- Rules as they are without their handles.
def unnumbered (rules : List Stored) : List Stored :=
  rules.map fun s => { s with listed := { s.listed with handle := 0 } }

-- Memories with the same rules in the same order. Handles, the number of transactions and the last script may differ.
structure Alike (m m' : Memory) : Prop where
  usable : m'.usable = m.usable
  failure : m'.failure = m.failure
  table : m'.ruleset.table = m.ruleset.table
  rules : ∀ chain, (m'.ruleset.rules? chain).map unnumbered = (m.ruleset.rules? chain).map unnumbered

theorem Alike.refl (m : Memory) : Alike m m := ⟨rfl,rfl,rfl,fun _ => rfl⟩

theorem unnumbered_append (one two : List Stored) : unnumbered (one ++ two) = unnumbered one ++ unnumbered two :=
  List.map_append

theorem unnumbered_numbered (chain : String) (comment : Option String) (last last' : Nat) (rules : List Rule) :
    unnumbered (numbered chain comment last rules) = unnumbered (numbered chain comment last' rules) := by
  induction rules generalizing last last' with
  | nil => rfl
  | cons rule rest ih => exact congrArg (List.cons _) (ih (last + 1) (last' + 1))

-- A second install replaces the rules of the first by the same rules.
theorem install_again (sound : SoundRules m) (ran : install Memory.ops nets identity m = .ok () m') :
    ∃ m'', install Memory.ops nets identity m' = .ok () m'' ∧ Alike m' m'' := by
  cases broken : m.failure with
  | some message => cases (install_failing nets identity broken).symm.trans ran
  | none =>
    obtain ⟨m₁,ran₁,_,failing₁,shown₁⟩ := install_working nets identity broken sound
    cases ran₁.symm.trans ran
    have sound' : SoundRules m' := by
      have kept := masquerader_sound.install nets identity m sound
      rwa [show (Masquerader.nft Memory.ops).install nets identity = install Memory.ops nets identity from rfl,
        Step.outcome_ok ran] at kept
    obtain ⟨m₂,ran₂,usable₂,failing₂,shown₂⟩ := install_working nets identity (failing₁.trans broken) sound'
    refine ⟨m₂,ran₂,usable₂,failing₂,shown₂.table.trans shown₁.table.symm,fun chain => ?_⟩
    rw [shown₂.rules,shown₁.rules]
    by_cases hooked : chain = postroutingChain
    · subst hooked
      rw [Function.update_self,Function.update_self,Option.map_some,Option.map_some,shared,shared,
        unnumbered_numbered postroutingChain none m'.ruleset.lastHandle m.ruleset.lastHandle]
    · rw [Function.update_of_ne hooked,Function.update_of_ne hooked]
      by_cases shared : chain = checksChain
      · subst shared
        rw [Function.update_self,Function.update_self,Function.update_of_ne checks_postrouting,Function.update_self,
          Option.getD_some,(install_checks nets identity _ _).1,Option.map_some,Option.map_some,unnumbered_append,
          unnumbered_append,unnumbered_numbered checksChain _ (m'.ruleset.lastHandle + 3) (m.ruleset.lastHandle + 3)]
      · rw [Function.update_of_ne shared,Function.update_of_ne shared,Function.update_of_ne hooked,
          Function.update_of_ne shared]

end Nft

end HostNet.Masquerade
