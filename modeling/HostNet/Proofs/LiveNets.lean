import HostNet.Proofs.InstanceRuns
import HostNet.Proofs.MasqueradedTraffic
import Mathlib.Data.Set.List

namespace HostNet.Masquerade.Nft
open Firewall (Packet)
open Firewall.Nft Firewall.Nft.Ruleset

def Call.nets : Call → List Subnet
  | .install nets => nets
  | .teardown _ => []

-- The nets that an identity has after a run: those of its last call, where calls at which the tool failed do not count.
def live (attempts : List Attempt) (identity : Identity) : List Subnet :=
  match (attempts.filter fun a => a.identity = identity ∧ a.failure = none).getLast? with
  | some a => a.call.nets
  | none => []

theorem Call.rules_nets (c : Call) (identity : Identity) :
    c.rules identity = c.nets.map fun net => (ruleFor net,some (instanceComment identity)) := by
  cases c <;> rfl

variable {m : Memory} {a : Attempt} {attempts : List Attempt} {identity : Identity}

theorem live_same (working : a.failure = none) : live (attempts ++ [a]) a.identity = a.call.nets := by
  rw [live,List.filter_append,List.filter_cons_of_pos (by simp [working]),List.filter_nil,List.getLast?_concat]

theorem live_other (apart : ¬(a.identity = identity ∧ a.failure = none)) :
    live (attempts ++ [a]) identity = live attempts identity := by
  rw [live,List.filter_append,List.filter_cons_of_neg (by simpa using apart),List.filter_nil,List.append_nil]
  rfl

theorem after_last (m : Memory) (attempts : List Attempt) (a : Attempt) :
    after m (attempts ++ [a]) = (a.outcome (after m attempts)).2 := List.foldl_append

theorem outcome_checks (broken : a.failure = some message) : (a.outcome m).2.ruleset = m.ruleset := by
  obtain ⟨_,ran⟩ := @outcome_failing m a message broken
  rw [ran]

theorem sound_run (attempts : List Attempt) : SoundRules (after Memory.initial attempts) :=
  after_sound attempts empty_sound

-- What an identity owns after a run is what its live nets ask for.
theorem owned_live (attempts : List Attempt)
    (apart : ∀ a ∈ attempts, instanceHash a.identity = instanceHash identity → a.identity = identity) :
    bare (owned identity (after Memory.initial attempts)) =
      (live attempts identity).map fun net => (ruleFor net,some (instanceComment identity)) := by
  -- From the end: the last call decides, and what it finds is what the calls before it left.
  induction attempts using List.reverseRecOn with
  | nil => rfl
  | append_singleton attempts a ih =>
    have before := ih fun b member => apart b (List.mem_append_left _ member)
    have isolated := attempt_isolated a (sound_run attempts)
    rw [after_last]
    by_cases own : a.identity = identity
    · subst own
      cases failure : a.failure with
      | none => rw [isolated.own (isolated.succeeds failure),live_same failure,Call.rules_nets]
      | some message =>
        rw [live_other (by simp [failure]),← before,owned,owned,checks,checks,outcome_checks failure]
    · have other : instanceHash identity ≠ instanceHash a.identity := fun same => own (apart a (by simp) same.symm)
      rw [outcome_apart other (sound_run attempts),before,live_other (by simp [own])]

-- Every rule in the shared chain belongs to an identity of the run.
theorem checks_owned (attempts : List Attempt) (s : Stored) (member : s ∈ checks (after Memory.initial attempts)) :
    ∃ a ∈ attempts, isOwnedBy (instanceHash a.identity) s.listed = true := by
  induction attempts using List.reverseRecOn with
  | nil => cases member
  | append_singleton attempts a ih =>
    rw [after_last] at member
    cases own : isOwnedBy (instanceHash a.identity) s.listed with
    | true => exact ⟨a,by simp,own⟩
    | false =>
      have others := (attempt_isolated a (sound_run attempts)).others
      have foreign : s ∈ ofOthers (instanceHash a.identity) (checks (a.outcome (after Memory.initial attempts)).2) :=
        List.mem_filter.mpr ⟨member,by simp [own]⟩
      rw [others] at foreign
      obtain ⟨b,among,owner⟩ := ih (List.mem_of_mem_filter foreign)
      exact ⟨b,List.mem_append_left _ among,owner⟩

theorem checks_live (attempts : List Attempt)
    (apart : ∀ a ∈ attempts, ∀ b ∈ attempts, instanceHash a.identity = instanceHash b.identity →
      a.identity = b.identity) (rule : Rule) :
    rule ∈ (checks (after Memory.initial attempts)).map Stored.rule ↔
      ∃ a ∈ attempts, ∃ net ∈ live attempts a.identity, rule = ruleFor net := by
  have held : ∀ a ∈ attempts, (owned a.identity (after Memory.initial attempts)).map Stored.rule =
      (live attempts a.identity).map ruleFor := by
    intro a member
    have rules := congrArg (List.map Prod.fst) (owned_live attempts fun b among same => apart b among a member same)
    rwa [bare,List.map_map,List.map_map] at rules
  constructor
  · intro member
    obtain ⟨s,stored,rfl⟩ := List.mem_map.mp member
    obtain ⟨a,among,owner⟩ := checks_owned attempts s stored
    have own : s.rule ∈ (owned a.identity (after Memory.initial attempts)).map Stored.rule :=
      List.mem_map_of_mem (List.mem_filter.mpr ⟨stored,owner⟩)
    rw [held a among] at own
    obtain ⟨net,lives,same⟩ := List.mem_map.mp own
    exact ⟨a,among,net,lives,same.symm⟩
  · rintro ⟨a,among,net,lives,rfl⟩
    have own : ruleFor net ∈ (owned a.identity (after Memory.initial attempts)).map Stored.rule := by
      rw [held a among]
      exact List.mem_map_of_mem lives
    obtain ⟨s,stored,same⟩ := List.mem_map.mp own
    exact List.mem_map.mpr ⟨s,List.mem_of_mem_filter stored,same⟩

-- Before anything was installed there are no rules, and from then on the entries stand in front of them.
theorem entries_run (attempts : List Attempt) :
    ((after Memory.initial attempts).ruleset.rules? postroutingChain).map bare =
        some (sharedRules.map fun rule => (rule,none)) ∨
      (after Memory.initial attempts).ruleset.rules? postroutingChain = none ∧
        checks (after Memory.initial attempts) = [] := by
  induction attempts using List.reverseRecOn with
  | nil => exact .inr ⟨rfl,rfl⟩
  | append_singleton attempts a ih =>
    have isolated := attempt_isolated a (sound_run attempts)
    rw [after_last]
    cases failure : a.failure with
    | some message =>
      rw [checks,outcome_checks failure]
      exact ih
    | none =>
      have done := isolated.succeeds failure
      cases call : a.call with
      | install nets => exact .inl (isolated.postrouting done ⟨nets,call⟩)
      | teardown nets =>
        rw [isolated.elsewhere postroutingChain checks_postrouting.symm fun _ => ⟨nets,call⟩]
        refine ih.imp_right fun nothing => ⟨nothing.1,?_⟩
        have own : owned a.identity (a.outcome (after Memory.initial attempts)).2 = [] := by
          have rules := isolated.own done
          rw [call] at rules
          exact List.map_eq_nil_iff.mp rules
        have others :
            ofOthers (instanceHash a.identity) (checks (a.outcome (after Memory.initial attempts)).2) = [] := by
          rw [isolated.others,nothing.2]
          rfl
        refine List.eq_nil_iff_forall_not_mem.mpr fun s member => ?_
        have neither := List.filter_eq_nil_iff.mp own s member
        exact List.filter_eq_nil_iff.mp others s member (by simpa using neither)

theorem ruleFor_matches {net other : Subnet} (same : ruleFor net = ruleFor other) (b : Address) :
    net.address = other.address ∧ net.contains b = other.contains b := by
  rw [ruleFor,ruleFor,Rule.masquerade.injEq] at same
  exact ⟨same.1,by rw [← Subnet.trunc_contains,same.2,Subnet.trunc_contains]⟩

theorem unentered_leaves {r : Ruleset} (absent : r.rules? postroutingChain = none) (p : Packet) :
    ¬r.masquerades p := by
  unfold Ruleset.masquerades
  intro masqueraded
  cases depth : r.chains.length with
  | zero => rw [depth] at masqueraded; cases masqueraded
  | succ depth' =>
    rw [depth,walk,absent] at masqueraded
    cases masqueraded

-- Packets are masqueraded for the nets that are live, in whatever order calls came and went: those that the address
-- of a net sends out of the net, unless to many hosts at once.
theorem live_nets_masqueraded (attempts : List Attempt)
    (apart : ∀ a ∈ attempts, ∀ b ∈ attempts, instanceHash a.identity = instanceHash b.identity →
      a.identity = b.identity) (p : Packet) :
    (after Memory.initial attempts).ruleset.masquerades p ↔
      (Subnet.multicast p.family).contains p.destination = false ∧
        ∃ a ∈ attempts, ∃ net ∈ live attempts a.identity,
          net.family = p.family ∧ p.source = net.address ∧ net.trunc.contains p.destination = false := by
  have members := checks_live attempts apart
  have written : (checks (after Memory.initial attempts)).map Stored.rule ∈ Set.range (List.map ruleFor) := by
    rw [Set.range_list_map]
    intro rule member
    obtain ⟨_,_,net,_,same⟩ := (members rule).mp member
    exact ⟨net,same.symm⟩
  obtain ⟨nets,listed⟩ := written
  have lives : (∃ net ∈ nets, p.source = net.address ∧ net.contains p.destination = false) ↔
      ∃ a ∈ attempts, ∃ net ∈ live attempts a.identity,
        net.family = p.family ∧ p.source = net.address ∧ net.trunc.contains p.destination = false := by
    constructor
    · rintro ⟨net,member,source,outside⟩
      obtain ⟨a,among,other,lives,same⟩ := (members (ruleFor net)).mp (listed ▸ List.mem_map_of_mem member)
      obtain ⟨address,contained⟩ := ruleFor_matches same p.destination
      have sent : p.source = other.address := source.trans address
      exact ⟨a,among,other,lives,congrArg Address.family sent.symm,sent,by
        rw [Subnet.trunc_contains,← contained,outside]⟩
    · rintro ⟨a,among,net,lives,_,source,outside⟩
      have member := (members (ruleFor net)).mpr ⟨a,among,net,lives,rfl⟩
      rw [← listed] at member
      obtain ⟨other,known,same⟩ := List.mem_map.mp member
      obtain ⟨address,contained⟩ := ruleFor_matches same p.destination
      exact ⟨other,known,source.trans address.symm,by rw [contained,← Subnet.trunc_contains,outside]⟩
  rw [← lives]
  rcases entries_run attempts with entered | ⟨absent,empty⟩
  · refine entered_masquerades p nets listed.symm ?_
    have rules := congrArg (Option.map (List.map Prod.fst)) entered
    rw [Option.map_map,Option.map_some,List.map_map] at rules
    refine Eq.trans ?_ (rules.trans ?_)
    · refine congrArg (Option.map · _) (funext fun stored => ?_)
      rw [Function.comp_apply,bare,List.map_map]
      rfl
    · rfl
  · rw [empty] at listed
    have nobody : nets = [] := List.map_eq_nil_iff.mp listed
    subst nobody
    constructor
    · intro masqueraded
      exact absurd masqueraded (unentered_leaves absent p)
    · rintro ⟨_,net,member,_⟩
      cases member

-- Two interfaces with one address in nets of different length, and a call at which the tool failed.
def overlapping : List Attempt :=
  let net : Nat → Subnet := .ofAddress (.ofNat .v4 0x0A160001)
  [⟨⟨"pods","eth0","a"⟩,.install [net 24],none⟩,⟨⟨"pods","eth1","a"⟩,.install [net 16],none⟩,
    ⟨.ofNetwork "pods",.install [.ofAddress (.ofNat .v6 (0xFD <<< 120)) 64],none⟩,
    ⟨⟨"pods","eth0","a"⟩,.install [net 16],some "busy"⟩]

-- The narrower net sends to a neighbour in the wider one, until it is given up.
theorem overlapping_masqueraded :
    let leave : Attempt := ⟨⟨"pods","eth0","a"⟩,.teardown [],none⟩
    let p : Packet := ⟨.ofNat .v4 0x0A160001,.ofNat .v4 0x0A160105,rfl⟩
    (∀ a ∈ overlapping ++ [leave], ∀ b ∈ overlapping ++ [leave],
      instanceHash a.identity = instanceHash b.identity → a.identity = b.identity) ∧
    (after Memory.initial overlapping).ruleset.masquerades p ∧
    ¬(after Memory.initial (overlapping ++ [leave])).ruleset.masquerades p := by
  intro leave p
  have distinct : (household.map instanceHash).Nodup := by decide +kernel
  have known : ∀ a ∈ overlapping ++ [leave], a.identity ∈ household := by decide
  have apart : ∀ a ∈ overlapping ++ [leave], ∀ b ∈ overlapping ++ [leave],
      instanceHash a.identity = instanceHash b.identity → a.identity = b.identity :=
    fun a first b second => List.inj_on_of_nodup_map distinct (known a first) (known b second)
  refine ⟨apart,?_,?_⟩
  · rw [live_nets_masqueraded overlapping (fun a first b second => apart a (List.mem_append_left _ first) b
      (List.mem_append_left _ second)) p]
    decide
  · rw [live_nets_masqueraded (overlapping ++ [leave]) apart p]
    decide

end HostNet.Masquerade.Nft
