import HostNet.Masquerade.Manager
import HostNet.Proofs.MasqueradeChains
import HostNet.Proofs.MasqueradeRules
import HostNet.Proofs.PacketRules
import HostNet.Proofs.StepKeeps

namespace HostNet.Masquerade.Iptables
open Firewall.Iptables

theorem goesTo_jump (c : String) (net : Subnet) (chain comment : String) :
    goesTo c (jumpRule net.text chain comment) ↔ c = chain := by
  have reads : readRule (jumpRule net.text chain comment) =
      some ⟨fun p => net.contains p.source && true,some chain⟩ := by
    simp [jumpRule,commented,readRule,Subnet.parse_text,Reading.also]
  constructor
  · rintro ⟨r,known,target⟩
    rw [reads] at known
    cases known
    exact (Option.some.inj target).symm
  · rintro rfl
    exact ⟨_,reads,rfl⟩

-- The nat tables as they are when only masquerading has changed them: POSTROUTING holds jumps, none of them twice, and
-- there is one for every chain of an instance.
structure Orderly (v : View) : Prop where
  jumps : ∀ family, ∃ rules, v family postrouting = some rules ∧ rules.Nodup ∧
    ∀ rule ∈ rules, ∃ (net : Subnet) (chain comment : String), rule = jumpRule net.text chain comment
  entered : ∀ {family network id rules}, v family postrouting = some rules →
    (v family (chainName network id)).isSome → ∃ rule ∈ rules, goesTo (chainName network id) rule

variable {v : View} {network id comment : String}

theorem Orderly.present (orderly : Orderly v) (family : Family) : (v family postrouting).isSome := by
  obtain ⟨rules,held,_⟩ := orderly.jumps family
  exact Option.isSome_iff_exists.mpr ⟨rules,held⟩

theorem orderly_setup (orderly : Orderly v) (net : Subnet) :
    Orderly (setupView (chainName network id) comment v net) := by
  obtain ⟨rules,held,once,jumping⟩ := orderly.jumps net.family
  have post : setupView (chainName network id) comment v net net.family postrouting =
    some (appended rules (jumpRule net.text (chainName network id) comment)) := setupView_entry held
  constructor
  · intro family
    by_cases same : family = net.family
    · subst family
      refine ⟨_,post,appended_nodup once _,fun rule member => ?_⟩
      rcases (mem_appended _ _ _).mp member with old | rfl
      · exact jumping rule old
      · exact ⟨net,_,_,rfl⟩
    · obtain ⟨others,known,facts⟩ := orderly.jumps family
      exact ⟨others,(setupView_apart _ same).trans known,facts⟩
  · intro family network' id' others known there
    by_cases same : family = net.family
    · subst family
      cases post.symm.trans known
      by_cases own : chainName network' id' = chainName network id
      · exact ⟨_,(mem_appended _ _ _).mpr (Or.inr rfl),(goesTo_jump _ _ _ _).mpr own⟩
      · rw [setupView_beside own (chainName_postrouting network' id')] at there
        obtain ⟨rule,member,goes⟩ := orderly.entered held there
        exact ⟨rule,(mem_appended _ _ _).mpr (Or.inl member),goes⟩
    · rw [setupView_apart _ same] at known there
      exact orderly.entered known there

theorem orderly_teardown (orderly : Orderly v) (net : Subnet) :
    Orderly (teardownView (chainName network id) comment v net) := by
  have apart := chainName_postrouting network id
  obtain ⟨rules,held,once,jumping⟩ := orderly.jumps net.family
  have post : teardownView (chainName network id) comment v net net.family postrouting = some
      ((rules.erase (jumpRule net.address.text (chainName network id) comment)).erase
        (jumpRule net.text (chainName network id) comment)) := teardownView_entry apart held
  have part : List.Sublist ((rules.erase (jumpRule net.address.text (chainName network id) comment)).erase
      (jumpRule net.text (chainName network id) comment)) rules :=
    (List.erase_sublist ..).trans (List.erase_sublist ..)
  constructor
  · intro family
    by_cases same : family = net.family
    · subst family
      exact ⟨_,post,once.sublist part,fun rule member => jumping rule (part.subset member)⟩
    · obtain ⟨others,known,facts⟩ := orderly.jumps family
      exact ⟨others,(teardownView_apart _ same).trans known,facts⟩
  · intro family network' id' others known there
    by_cases same : family = net.family
    · subst family
      cases post.symm.trans known
      by_cases own : chainName network' id' = chainName network id
      · rw [own,teardownView_own] at there
        cases there
      · rw [teardownView_beside own (chainName_postrouting network' id')] at there
        obtain ⟨rule,member,goes⟩ := orderly.entered held there
        -- What is erased jumps to the chain that goes, and this rule jumps to another.
        have other : ∀ source, rule ≠ jumpRule source (chainName network id) comment := by
          intro source eq
          obtain ⟨n,chain,c,rfl⟩ := jumping rule member
          exact own (((goesTo_jump _ _ _ _).mp goes).trans (jumpRule_inj.mp eq).2.1)
        refine ⟨rule,?_,goes⟩
        rw [List.mem_erase_of_ne (other _),List.mem_erase_of_ne (other _)]
        exact member
    · rw [teardownView_apart _ same] at known there
      exact orderly.entered known there

end HostNet.Masquerade.Iptables
