import HostNet.Proofs.MasqueradeChains
import HostNet.Proofs.MasqueradeRules
import HostNet.Proofs.PacketRules
import Mathlib.Data.List.Induction

namespace HostNet.Masquerade.Iptables
open Firewall (Packet Verdict)
open Firewall.Iptables

theorem targetOf_accept (p : Packet) (net : Subnet) (comment : String) :
    targetOf p (acceptRule net comment) = if net.contains p.destination then some "ACCEPT" else none := by
  simp [targetOf,acceptRule,commented,readRule,Subnet.parse_text,Reading.also]

theorem targetOf_masquerade (p : Packet) (family : Family) (comment : String) :
    targetOf p (masqueradeRule family comment) =
      if (Subnet.multicast family).contains p.destination then none else some "MASQUERADE" := by
  cases sent : (Subnet.multicast family).contains p.destination <;>
    simp [targetOf,masqueradeRule,commented,readRule,Subnet.parse_text,Reading.also,sent]

theorem targetOf_jump (p : Packet) (net : Subnet) (chain comment : String) :
    targetOf p (jumpRule net.text chain comment) = if net.contains p.source then some chain else none := by
  simp [targetOf,jumpRule,commented,readRule,Subnet.parse_text,Reading.also]

theorem masquerade_accept (net : Subnet) (family : Family) (comment : String) :
    masqueradeRule family comment ≠ acceptRule net comment := by simp [acceptRule,masqueradeRule,commented]

-- The net that the chain of a family begins with.
def firstNet (nets : List Subnet) (family : Family) : Option Subnet := nets.find? (·.family == family)

-- What the tables of a family hold after nets were set up where nothing was. All nets have the chain in common,
-- so a net that is not the first of its family is accepted only after the rest was masqueraded.
structure Filled (chain comment : String) (nets : List Subnet) (family : Family) (v : View) : Prop where
  absent : firstNet nets family = none → v family chain = none
  own : firstNet nets family = some first → ∃ more,
    v family chain = some (acceptRule first comment :: masqueradeRule family comment :: more) ∧
      ∀ rule ∈ more, ∃ net, rule = acceptRule net comment
  jumps : ∃ rules, v family postrouting = some rules ∧
    ∀ rule, rule ∈ rules ↔ ∃ net ∈ nets, net.family = family ∧ rule = jumpRule net.text chain comment

theorem appended_again (first second : Rule) (more : List Rule) (rule : Rule) :
    ∃ others, appended (appended (first :: second :: more) rule) second = first :: second :: others ∧
      ∀ other ∈ others, other ∈ more ∨ other = rule := by
  by_cases there : (first :: second :: more).contains rule = true
  · refine ⟨more,?_,fun other member => Or.inl member⟩
    rw [appended,appended,if_pos there,if_pos (by simp)]
  · refine ⟨more ++ [rule],?_,fun other member => by simpa using member⟩
    rw [appended,appended,if_neg there,if_pos (by simp)]
    rfl

variable {chain comment : String} {nets : List Subnet} {family : Family} {v : View}

theorem filled_other (net : Subnet) (other : family ≠ net.family) (filled : Filled chain comment nets family v) :
    Filled chain comment (nets ++ [net]) family (setupView chain comment v net) := by
  have kept (c : String) : setupView chain comment v net family c = v family c := setupView_apart c other
  have first : firstNet (nets ++ [net]) family = firstNet nets family := by
    simp [firstNet,List.find?_append,Ne.symm other]
  refine ⟨fun none => ?_,fun found => ?_,?_⟩
  · rw [kept]; exact filled.absent (first ▸ none)
  · rw [kept]; exact filled.own (first ▸ found)
  · obtain ⟨rules,held,members⟩ := filled.jumps
    refine ⟨rules,(kept postrouting).trans held,fun rule => (members rule).trans ?_⟩
    constructor
    · rintro ⟨n,member,same⟩
      exact ⟨n,List.mem_append_left _ member,same⟩
    · rintro ⟨n,member,same,written⟩
      rcases List.mem_append.mp member with old | new
      · exact ⟨n,old,same,written⟩
      · exact absurd same.symm (List.mem_singleton.mp new ▸ other)

theorem filled_same (net : Subnet) (apart : chain ≠ postrouting) (filled : Filled chain comment nets net.family v) :
    Filled chain comment (nets ++ [net]) net.family (setupView chain comment v net) := by
  obtain ⟨rules,held,members⟩ := filled.jumps
  have own : setupView chain comment v net net.family chain = some (appended (appended
    ((v net.family chain).getD []) (acceptRule net comment)) (masqueradeRule net.family comment)) := setupView_own apart
  refine ⟨fun none => ?_,?_,?_⟩
  · simp [firstNet,List.find?_append] at none
  · intro first found
    cases known : firstNet nets net.family with
    | none =>
      rw [firstNet,List.find?_append,show nets.find? (·.family == net.family) = none from known] at found
      obtain rfl : net = first := by simpa using found
      rw [filled.absent known] at own
      refine ⟨[],own.trans ?_,fun _ member => by cases member⟩
      simp [appended,masquerade_accept]
    | some earlier =>
      rw [firstNet,List.find?_append,show nets.find? (·.family == net.family) = some earlier from known] at found
      obtain rfl : earlier = first := by simpa using found
      obtain ⟨more,before,accepting⟩ := filled.own known
      obtain ⟨others,after,from_⟩ := appended_again (acceptRule earlier comment)
        (masqueradeRule net.family comment) more (acceptRule net comment)
      rw [before,Option.getD_some,after] at own
      refine ⟨others,own,fun rule member => ?_⟩
      rcases from_ rule member with old | rfl
      · exact accepting rule old
      · exact ⟨net,rfl⟩
  · refine ⟨appended rules (jumpRule net.text chain comment),setupView_entry held,fun rule => ?_⟩
    rw [mem_appended,members rule]
    constructor
    · rintro (⟨n,member,same⟩ | rfl)
      · exact ⟨n,List.mem_append_left _ member,same⟩
      · exact ⟨net,by simp,rfl,rfl⟩
    · rintro ⟨n,member,same,written⟩
      rcases List.mem_append.mp member with old | new
      · exact Or.inl ⟨n,old,same,written⟩
      · exact Or.inr (List.mem_singleton.mp new ▸ written)

theorem setupNets_filled (comment : String) (nets : List Subnet) (apart : chain ≠ postrouting)
    (absent : v family chain = none) (empty : v family postrouting = some []) :
    Filled chain comment nets family (nets.foldl (setupView chain comment) v) := by
  -- From the end: what a net adds depends on the nets set up before it.
  induction nets using List.reverseRecOn with
  | nil => exact ⟨fun _ => absent,(nomatch ·),[],empty,by simp⟩
  | append_singleton nets net ih =>
    rw [List.foldl_append]
    by_cases same : family = net.family
    · subst family
      exact filled_same net apart ih
    · exact filled_other net same ih

-- Behind a jump there is nothing new: a packet that several jumps match goes through the same chain each time.
theorem walk_jumps (call : String → Option Verdict) (p : Packet) (rules : List Rule)
    (jumps : ∀ rule ∈ rules, ∃ net : Subnet, rule = jumpRule net.text chain comment)
    (own : verdictAt call chain = call chain) :
    walkRules call p rules =
      if rules.any fun rule => (targetOf p rule).isSome then call chain else none := by
  induction rules with
  | nil => rfl
  | cons rule rest ih =>
    obtain ⟨net,rfl⟩ := jumps rule (by simp)
    have further := ih fun rule member => jumps rule (List.mem_cons_of_mem _ member)
    rw [walkRules] at further ⊢
    rw [List.findSome?_cons,further,targetOf_jump,List.any_cons,targetOf_jump]
    cases matched : net.contains p.source with
    | true => cases reached : call chain <;> simp [own,reached]
    | false => simp

theorem walk_accepting (call : String → Option Verdict) (p : Packet) (rules : List Rule)
    (accepting : ∀ rule ∈ rules, ∃ net, rule = acceptRule net comment) :
    walkRules call p rules ≠ some .masqueraded := by
  intro found
  obtain ⟨rule,member,reached⟩ := List.exists_of_findSome?_eq_some found
  obtain ⟨net,rfl⟩ := accepting rule member
  rw [targetOf_accept] at reached
  split at reached
  · cases reached
  · cases reached

theorem walk_own (call : String → Option Verdict) (p : Packet) (first : Subnet) (family : Family) (more : List Rule)
    (accepting : ∀ rule ∈ more, ∃ net, rule = acceptRule net comment) :
    walkRules call p (acceptRule first comment :: masqueradeRule family comment :: more) = some .masqueraded ↔
      first.contains p.destination = false ∧ (Subnet.multicast family).contains p.destination = false := by
  have further := walk_accepting call p more accepting
  rw [walkRules] at further ⊢
  rw [List.findSome?_cons,List.findSome?_cons,targetOf_accept,targetOf_masquerade]
  cases inside : first.contains p.destination <;>
    cases several : (Subnet.multicast family).contains p.destination <;>
    simp [verdictAt,further]

theorem chainName_target (call : String → Option Verdict) (network id : String) :
    verdictAt call (chainName network id) = call (chainName network id) := by
  have accept := chainName_apart network id "ACCEPT" (by decide)
  have masquerade := chainName_apart network id "MASQUERADE" (by decide)
  unfold verdictAt
  split
  · rename_i same; exact absurd same accept
  · rename_i same; exact absurd same masquerade
  · rfl

theorem contains_family {net : Subnet} {a : Address} (inside : net.contains a = true) : net.family = a.family := by
  unfold Subnet.contains at inside
  exact (beq_iff_eq.mp (Bool.and_eq_true_iff.mp inside).1).symm

theorem firstNet_none (none : firstNet nets family = none) (net : Subnet) (member : net ∈ nets) :
    net.family ≠ family := by
  have other := List.find?_eq_none.mp none net member
  simpa using other

-- The rules of POSTROUTING match what comes from any of the nets.
theorem jumps_match (p : Packet) (rules : List Rule)
    (members : ∀ rule, rule ∈ rules ↔ ∃ net ∈ nets, net.family = p.family ∧ rule = jumpRule net.text chain comment) :
    (rules.any fun rule => (targetOf p rule).isSome) = true ↔ ∃ net ∈ nets, net.contains p.source = true := by
  rw [List.any_eq_true]
  constructor
  · rintro ⟨rule,member,matched⟩
    obtain ⟨net,known,_,rfl⟩ := (members rule).mp member
    rw [targetOf_jump] at matched
    split at matched
    · rename_i inside; exact ⟨net,known,inside⟩
    · cases matched
  · rintro ⟨net,known,inside⟩
    refine ⟨jumpRule net.text chain comment,(members _).mpr ⟨net,known,contains_family inside,rfl⟩,?_⟩
    rw [targetOf_jump,if_pos inside]
    rfl

theorem filled_masquerades {m : Memory} (network id : String) (p : Packet)
    (filled : Filled (chainName network id) comment nets p.family m.view) :
    m.masquerades p ↔ (∃ net ∈ nets, net.contains p.source = true) ∧
      (Subnet.multicast p.family).contains p.destination = false ∧
      ∀ first, firstNet nets p.family = some first → first.contains p.destination = false := by
  obtain ⟨rules,held,members⟩ := filled.jumps
  have jumping : ∀ rule ∈ rules, ∃ net : Subnet, rule = jumpRule net.text (chainName network id) comment := by
    intro rule member
    obtain ⟨net,_,_,same⟩ := (members rule).mp member
    exact ⟨net,same⟩
  have through (depth : Nat) : walk (m.tables p.family natTable) p (depth + 1) postrouting =
      if rules.any fun rule => (targetOf p rule).isSome then
        walk (m.tables p.family natTable) p depth (chainName network id) else none := by
    have shown : (m.tables p.family natTable).find? postrouting = some rules := held
    rw [walk,shown]
    exact walk_jumps _ p rules jumping (chainName_target _ network id)
  unfold Memory.masquerades
  cases known : firstNet nets p.family with
  | none =>
    have nobody : ¬ ∃ net ∈ nets, net.contains p.source = true := by
      rintro ⟨net,member,inside⟩
      exact firstNet_none known net member (contains_family inside)
    cases (m.tables p.family natTable).length with
    | zero => simp [walk,nobody]
    | succ depth =>
      rw [through,if_neg (mt (jumps_match p rules members).mp nobody)]
      simp [nobody]
  | some first =>
    obtain ⟨more,own,accepting⟩ := filled.own known
    have shown : (m.tables p.family natTable).find? (chainName network id) = some _ := own
    -- POSTROUTING and the chain are two entries of the table, so the walk does not stop before the chain.
    have deep : 2 ≤ (m.tables p.family natTable).length :=
      Firewall.two_entries _ (chainName network id) postrouting (chainName_postrouting network id)
        (Option.isSome_iff_exists.mpr ⟨_,own⟩) (Option.isSome_iff_exists.mpr ⟨_,held⟩)
    obtain ⟨depth,same⟩ := Nat.exists_eq_add_of_le' deep
    rw [same,through,walk,shown,Option.getD_some]
    by_cases somebody : ∃ net ∈ nets, net.contains p.source = true
    · rw [if_pos ((jumps_match p rules members).mpr somebody),walk_own _ p first p.family more accepting]
      simp [somebody,and_comm]
    · rw [if_neg (mt (jumps_match p rules members).mp somebody)]
      simp [somebody]

theorem install_masquerades (nets : List Subnet) (identity : Identity) :
    ∃ m, install Memory.ops nets identity Memory.initial = .ok () m ∧ ∀ p : Packet, m.masquerades p ↔
      (∃ net ∈ nets, net.contains p.source = true) ∧ (Subnet.multicast p.family).contains p.destination = false ∧
        ∀ first, firstNet nets p.family = some first → first.contains p.destination = false := by
  obtain ⟨m,ran,becomes⟩ := install_working nets identity rfl fun family =>
    Option.isSome_iff_exists.mpr ⟨_,Memory.initial_postrouting family⟩
  refine ⟨m,ran,fun p => ?_⟩
  have filled := setupNets_filled (chainComment identity.network identity.id) nets (chainName_postrouting _ _)
    (initial_absent identity.network identity.id p.family) (Memory.initial_postrouting p.family)
  rw [← becomes.view] at filled
  exact filled_masquerades identity.network identity.id p filled

-- Between two hosts of a net a packet is masqueraded just if the net is not the first of its family, nor inside it.
-- What comes from elsewhere or goes to several receivers never is, and what leaves the nets always is.
theorem installed_rules_sort_packets (nets : List Subnet) (identity : Identity) :
    ∃ m, install Memory.ops nets identity Memory.initial = .ok () m ∧ ∀ p : Packet,
      ((∃ net ∈ nets, net.contains p.source = true ∧ net.contains p.destination = true) →
        (¬m.masquerades p ↔ (Subnet.multicast p.family).contains p.destination = true ∨
          ∃ first, firstNet nets p.family = some first ∧ first.contains p.destination = true)) ∧
      ((Subnet.multicast p.family).contains p.destination = true → ¬m.masquerades p) ∧
      ((∀ net ∈ nets, net.contains p.source = false) → ¬m.masquerades p) ∧
      ((∃ net ∈ nets, net.contains p.source = true) → (Subnet.multicast p.family).contains p.destination = false →
        (∀ net ∈ nets, net.contains p.destination = false) → m.masquerades p) := by
  obtain ⟨m,ran,sorted⟩ := install_masquerades nets identity
  refine ⟨m,ran,fun p => ⟨?_,?_,?_,?_⟩⟩
  · rintro ⟨net,member,source,_⟩
    rw [sorted p]
    constructor
    · intro kept
      by_contra neither
      obtain ⟨single,outside⟩ := not_or.mp neither
      refine kept ⟨⟨net,member,source⟩,Bool.eq_false_iff.mpr single,fun first known => ?_⟩
      exact Bool.eq_false_iff.mpr fun inside => outside ⟨first,known,inside⟩
    · rintro either ⟨_,single,outside⟩
      rcases either with several | ⟨first,known,inside⟩
      · rw [several] at single; cases single
      · rw [outside first known] at inside; cases inside
  · intro several masqueraded
    rw [((sorted p).mp masqueraded).2.1] at several
    cases several
  · intro nobody masqueraded
    obtain ⟨net,member,source⟩ := ((sorted p).mp masqueraded).1
    rw [nobody net member] at source
    cases source
  · intro somebody single leaving
    exact (sorted p).mpr ⟨somebody,single,fun first known => leaving first (List.mem_of_find?_eq_some known)⟩

-- The second of two nets comes after its family's rest was masqueraded.
theorem second_net_masqueraded : ∃ m,
    install Memory.ops [.ofAddress (.ofNat .v4 0x0a000001) 24,.ofAddress (.ofNat .v4 0x0a000101) 24]
      (.ofNetwork "pods") Memory.initial = .ok () m ∧
    (Subnet.ofAddress (.ofNat .v4 0x0a000101) 24).contains (.ofNat .v4 0x0a000105) = true ∧
    (Subnet.ofAddress (.ofNat .v4 0x0a000101) 24).contains (.ofNat .v4 0x0a000106) = true ∧
    m.masquerades ⟨.ofNat .v4 0x0a000105,.ofNat .v4 0x0a000106,rfl⟩ := by
  obtain ⟨m,ran,sorted⟩ := install_masquerades
    [.ofAddress (.ofNat .v4 0x0a000001) 24,.ofAddress (.ofNat .v4 0x0a000101) 24] (.ofNetwork "pods")
  refine ⟨m,ran,by decide,by decide,(sorted _).mpr ⟨?_,by decide,?_⟩⟩
  · exact ⟨.ofAddress (.ofNat .v4 0x0a000101) 24,by simp,by decide⟩
  · intro first known
    cases known
    decide

end HostNet.Masquerade.Iptables

namespace HostNet

namespace Subnet

theorem trunc_contains (s : Subnet) (a : Address) : s.trunc.contains a = s.contains a := by
  have size : s.trunc.size = s.size := rfl
  have start : s.trunc.address.value / s.size = s.address.value / s.size := by
    change s.address.value / s.size * s.size / s.size = s.address.value / s.size
    exact Nat.mul_div_cancel _ (by simp [Subnet.size,Nat.shiftLeft_eq])
  unfold contains
  rw [size,start]
  rfl

theorem multicast_family (family : Family) (a : Address) (inside : (multicast family).contains a = true) :
    a.family = family := by
  unfold contains at inside
  rw [beq_iff_eq.mp (Bool.and_eq_true_iff.mp inside).1]
  cases family <;> rfl

end Subnet

namespace Masquerade.Nft
open Firewall (Packet Verdict)
open Firewall.Nft Firewall.Nft.Ruleset

theorem numbered_rules (chain : String) (comment : Option String) (last : Nat) (rules : List Rule) :
    (numbered chain comment last rules).map Stored.rule = rules := by
  induction rules generalizing last with
  | nil => rfl
  | cons rule rest ih => rw [numbered,List.map_cons,ih]

theorem walk_nets (go : String → Option Verdict) (p : Packet) (nets : List Subnet) :
    walkRules go p (nets.map ruleFor) = some .masqueraded ↔
      ∃ net ∈ nets, p.source = net.address ∧ net.contains p.destination = false := by
  induction nets with
  | nil => simp [walkRules]
  | cons net rest ih =>
    rw [List.map_cons,ruleFor,walkRules,Subnet.trunc_contains]
    by_cases matched : p.source = net.address ∧ net.contains p.destination = false
    · have family : net.trunc.family = p.family := by rw [Packet.family,matched.1]; rfl
      rw [if_pos ⟨matched.1,family,by simp [matched.2]⟩]
      exact ⟨fun _ => ⟨net,by simp,matched⟩,fun _ => rfl⟩
    · rw [if_neg (fun met => matched ⟨met.1,by simpa using met.2.2⟩),ih]
      simp [matched]

theorem walk_shared (go : String → Option Verdict) (p : Packet) : walkRules go p sharedRules =
    if (Subnet.multicast p.family).contains p.destination then some .left else go checksChain := by
  have own : ∀ family, (Subnet.multicast family).contains p.destination = true → family = p.family :=
    fun family inside => (Subnet.multicast_family family p.destination inside).symm.trans p.sameFamily
  simp only [sharedRules,walkRules]
  by_cases several : (Subnet.multicast p.family).contains p.destination = true
  · rw [if_pos several]
    cases family : p.family with
    | v4 => rw [family] at several; rw [if_pos several]
    | v6 => rw [family] at several; rw [if_pos several,ite_self]
  · have apart : ∀ family, ¬(Subnet.multicast family).contains p.destination = true := fun family inside =>
      several (own family inside ▸ inside)
    rw [if_neg several,if_neg (apart .v4),if_neg (apart .v6)]

-- Behind the entries that all instances share only the nets of the shared chain count, and none if it is not there.
theorem entered_masquerades {r : Ruleset} (p : Packet) (nets : List Subnet)
    (checks : ((r.rules? checksChain).getD []).map Stored.rule = nets.map ruleFor)
    (postrouting : (r.rules? postroutingChain).map (·.map Stored.rule) = some sharedRules) :
    r.masquerades p ↔ (Subnet.multicast p.family).contains p.destination = false ∧
      ∃ net ∈ nets, p.source = net.address ∧ net.contains p.destination = false := by
  obtain ⟨entries,held,entered⟩ := Option.map_eq_some_iff.mp postrouting
  have first : ∀ depth, walk r p (depth + 1) postroutingChain =
      if (Subnet.multicast p.family).contains p.destination then some .left else walk r p depth checksChain := by
    intro depth
    rw [walk,held,Option.getD_some,entered,walk_shared]
  have second : ∀ depth, walk r p (depth + 1) checksChain = walkRules (walk r p depth) p (nets.map ruleFor) := by
    intro depth
    rw [walk,checks]
  have nonempty : 1 ≤ r.chains.length := by
    cases listed : r.chains with
    | nil => rw [rules?,listed] at held; cases held
    | cons _ _ => simp
  obtain ⟨depth,same⟩ := Nat.exists_eq_add_of_le' nonempty
  unfold Ruleset.masquerades
  rw [same,first]
  by_cases several : (Subnet.multicast p.family).contains p.destination = true
  · simp [several]
  · rw [if_neg several]
    cases depth with
    | succ depth =>
      rw [second,walk_nets]
      simp [several]
    | zero =>
      -- With one chain only there is nothing behind the entries.
      have absent : r.rules? checksChain = none := by
        by_contra there
        have deep := Firewall.two_entries r.chains checksChain postroutingChain checks_postrouting
          (Option.isSome_iff_ne_none.mpr there) (Option.isSome_iff_exists.mpr ⟨_,held⟩)
        omega
      rw [absent] at checks
      have nobody : nets = [] := List.map_eq_nil_iff.mp checks.symm
      subst nobody
      simp [walk]

theorem ruleset_masquerades {r : Ruleset} (p : Packet) (nets : List Subnet)
    (checks : r.rules? checksChain = some (numbered checksChain comment last (nets.map ruleFor)))
    (postrouting : r.rules? postroutingChain = some (shared start)) :
    r.masquerades p ↔ (Subnet.multicast p.family).contains p.destination = false ∧
      ∃ net ∈ nets, p.source = net.address ∧ net.contains p.destination = false :=
  entered_masquerades p nets (by rw [checks,Option.getD_some,numbered_rules])
    (by rw [postrouting,Option.map_some,shared,numbered_rules])

theorem install_masquerades (nets : List Subnet) (identity : Identity) :
    ∃ m, install Memory.ops nets identity Memory.initial = .ok () m ∧ ∀ p : Packet, m.ruleset.masquerades p ↔
      (Subnet.multicast p.family).contains p.destination = false ∧
        ∃ net ∈ nets, p.source = net.address ∧ net.contains p.destination = false := by
  obtain ⟨m,ran,_,_,shown⟩ := install_working nets identity (m := Memory.initial) rfl empty_sound
  have checks : m.ruleset.rules? checksChain =
      some (numbered checksChain (some (instanceComment identity)) 3 (nets.map ruleFor)) := by
    rw [shown.rules,Function.update_of_ne checks_postrouting,Function.update_self]
    rfl
  have postrouting : m.ruleset.rules? postroutingChain = some (shared 0) := by
    rw [shown.rules,Function.update_self]
    rfl
  exact ⟨m,ran,fun p => ruleset_masquerades p nets checks postrouting⟩

end Masquerade.Nft

namespace Masquerade
open Firewall (Packet)

-- With iptables all that comes from a net leaves it masqueraded, with nftables only what its bridge sends itself: the
-- two do the same to a packet just if both or neither of these is so.
theorem backends_agree_exactly (nets : List Subnet) (identity : Identity) :
    ∃ m m', Iptables.install Firewall.Iptables.Memory.ops nets identity Firewall.Iptables.Memory.initial = .ok () m ∧
      Nft.install Firewall.Nft.Memory.ops nets identity Firewall.Nft.Memory.initial = .ok () m' ∧
      ∀ p : Packet, (m.masquerades p ↔ m'.ruleset.masquerades p) ↔
        ((Subnet.multicast p.family).contains p.destination = true ∨
          ((∃ net ∈ nets, net.contains p.source = true) ∧
            (∀ first, Iptables.firstNet nets p.family = some first → first.contains p.destination = false) ↔
          ∃ net ∈ nets, p.source = net.address ∧ net.contains p.destination = false)) := by
  obtain ⟨m,ran,sorted⟩ := Iptables.install_masquerades nets identity
  obtain ⟨m',ran',sorted'⟩ := Nft.install_masquerades nets identity
  refine ⟨m,m',ran,ran',fun p => ?_⟩
  rw [sorted p,sorted' p]
  by_cases several : (Subnet.multicast p.family).contains p.destination = true
  · simp [several]
  · simp [several]

-- A host behind the bridge is masqueraded by iptables alone.
theorem host_behind_bridge : ∃ m m',
    Iptables.install Firewall.Iptables.Memory.ops [.ofAddress (.ofNat .v4 0x0a160001) 24] (.ofNetwork "pods")
      Firewall.Iptables.Memory.initial = .ok () m ∧
    Nft.install Firewall.Nft.Memory.ops [.ofAddress (.ofNat .v4 0x0a160001) 24] (.ofNetwork "pods")
      Firewall.Nft.Memory.initial = .ok () m' ∧
    m.masquerades ⟨.ofNat .v4 0x0a160005,.ofNat .v4 0x08080808,rfl⟩ ∧
    ¬m'.ruleset.masquerades ⟨.ofNat .v4 0x0a160005,.ofNat .v4 0x08080808,rfl⟩ := by
  obtain ⟨m,ran,sorted⟩ := Iptables.install_masquerades [.ofAddress (.ofNat .v4 0x0a160001) 24] (.ofNetwork "pods")
  obtain ⟨m',ran',sorted'⟩ := Nft.install_masquerades [.ofAddress (.ofNat .v4 0x0a160001) 24] (.ofNetwork "pods")
  refine ⟨m,m',ran,ran',(sorted _).mpr ⟨?_,by decide,?_⟩,?_⟩
  · exact ⟨.ofAddress (.ofNat .v4 0x0a160001) 24,by simp,by decide⟩
  · intro first known
    cases known
    decide
  · rw [sorted' _]
    rintro ⟨_,net,member,source,_⟩
    rw [List.mem_singleton.mp member] at source
    revert source
    decide

end Masquerade
end HostNet
