import HostNet.Proofs.MasqueradedTraffic
import HostNet.Proofs.OwnRules

namespace HostNet.Masquerade

namespace Iptables
open Firewall.Iptables

-- The rules of a chain that was filled for nets of one family: masquerading comes behind the first net.
def chainRules (family : Family) (comment : String) : List Subnet → List Rule
  | [] => []
  | net :: rest => acceptRule net comment :: masqueradeRule family comment :: rest.map fun net => acceptRule net comment

theorem acceptRule_injective (comment : String) : Function.Injective fun net => acceptRule net comment := by
  intro net other same
  have texts : net.text = other.text := by simpa [acceptRule,commented] using same
  exact Subnet.text_injective texts

theorem jumpRule_injective (chain comment : String) :
    Function.Injective fun net : Subnet => jumpRule net.text chain comment := by
  intro net other same
  exact Subnet.text_injective (jumpRule_inj.mp same).1

theorem map_eraseDups [BEq α] [LawfulBEq α] [BEq β] [LawfulBEq β] {f : α → β} (injective : Function.Injective f)
    (l : List α) : (l.map f).eraseDups = l.eraseDups.map f := by
  induction l using List.reverseRecOn with
  | nil => rfl
  | append_singleton rest a ih =>
    have known : f a ∈ rest.map f ↔ a ∈ rest := List.mem_map_of_injective injective
    rw [List.map_append,List.map_singleton,eraseDups_last,eraseDups_last,ih]
    by_cases there : a ∈ rest
    · rw [if_pos there,if_pos (known.mpr there)]
    · rw [if_neg there,if_neg (mt known.mp there),List.map_append,List.map_singleton]

theorem chainRules_append (family : Family) (comment : String) (nets : List Subnet) (net : Subnet) :
    appended (appended (chainRules family comment nets) (acceptRule net comment)) (masqueradeRule family comment) =
      chainRules family comment (if net ∈ nets then nets else nets ++ [net]) := by
  have other : ∀ net, masqueradeRule family comment ≠ acceptRule net comment := fun net =>
    masquerade_accept net family comment
  cases nets with
  | nil => simp [chainRules,appended,other]
  | cons first rest =>
    have masqueraded : ∀ more, masqueradeRule family comment ∈ chainRules family comment (first :: more) := by
      simp [chainRules]
    have known : acceptRule net comment ∈ chainRules family comment (first :: rest) ↔ net ∈ first :: rest := by
      rw [chainRules,List.mem_cons,List.mem_cons,List.mem_cons,(acceptRule_injective comment).eq_iff,
        List.mem_map_of_injective (acceptRule_injective comment)]
      simp [(other net).symm]
    by_cases there : net ∈ first :: rest
    · rw [if_pos there,appended_there (known.mpr there),appended_there (masqueraded _)]
    · have longer : chainRules family comment (first :: rest) ++ [acceptRule net comment] =
          chainRules family comment (first :: rest ++ [net]) := by simp [chainRules]
      rw [if_neg there,appended_absent (mt known.mp there),longer]
      exact appended_there (masqueraded _)

theorem filled_chainRules (family : Family) (comment : String) (nets : List Subnet)
    (same : ∀ net ∈ nets, net.family = family) :
    filled [] (nets.flatMap (netRules comment)) = chainRules family comment nets.eraseDups := by
  induction nets using List.reverseRecOn with
  | nil => rfl
  | append_singleton rest net ih =>
    have before := ih fun net among => same net (List.mem_append_left _ among)
    have last : netRules comment net = [acceptRule net comment,masqueradeRule family comment] := by
      rw [netRules,same net (by simp)]
    rw [List.flatMap_append,filled_append,before,List.flatMap_singleton,last,eraseDups_last]
    refine (chainRules_append family comment _ net).trans ?_
    simp only [List.mem_eraseDups]

-- What belongs to an identity.
def belongings (identity : Identity) (m : Memory) (family : Family) : OwnRules :=
  ownRules (chainName identity.network identity.id) m.view family

def OwnRules.none : OwnRules := ⟨[],[]⟩

structure OwnRules.Begins (a b : OwnRules) : Prop where
  rules : a.rules <+: b.rules
  jumps : a.jumps <+: b.jumps

section Installs
variable {identity : Identity} {nets : List Subnet} {m m' c c' : Memory} {family : Family}

theorem installed_belongings (ran : install Memory.ops nets identity m = .ok () m') :
    belongings identity m' family =
      ⟨filled (belongings identity m family).rules
          ((ofFamily family nets).flatMap (netRules (chainComment identity.network identity.id))),
        filled (belongings identity m family).jumps
          ((ofFamily family nets).map fun net =>
            jumpRule net.text (chainName identity.network identity.id)
              (chainComment identity.network identity.id))⟩ := by
  have apart := chainName_postrouting identity.network identity.id
  obtain ⟨_,becomes⟩ := setupNets_ok apart nets ran
  rw [belongings,becomes.view,ownRules_setups nets apart]
  rfl

-- Appending to what there was gives what appending to nothing gives only if what there was is the beginning of it.
theorem replaced_iff (fresh : belongings identity c family = .none)
    (ran : install Memory.ops nets identity m = .ok () m') (alone : install Memory.ops nets identity c = .ok () c') :
    belongings identity m' family = belongings identity c' family ↔
      (belongings identity m family).Begins (belongings identity c' family) := by
  rw [installed_belongings ran,installed_belongings alone,fresh]
  simp only [OwnRules.mk.injEq,OwnRules.none]
  rw [filled_unseen,filled_unseen]
  exact ⟨fun ⟨rules,jumps⟩ => ⟨rules,jumps⟩,fun ⟨rules,jumps⟩ => ⟨rules,jumps⟩⟩

theorem fresh_belongings (fresh : belongings identity c family = .none)
    (ran : install Memory.ops nets identity c = .ok () c') : belongings identity c' family =
      ⟨chainRules family (chainComment identity.network identity.id) (ofFamily family nets).eraseDups,
        (ofFamily family nets).eraseDups.map fun net =>
          jumpRule net.text (chainName identity.network identity.id) (chainComment identity.network identity.id)⟩ := by
  have same : ∀ net ∈ ofFamily family nets, net.family = family := by
    intro net among
    simpa using (List.mem_filter.mp among).2
  rw [installed_belongings ran,fresh,OwnRules.none,filled_chainRules family _ _ same,filled_fresh,
    map_eraseDups (jumpRule_injective _ _)]

theorem chainRules_begins (family : Family) (comment : String) {one two : List Subnet} (begins : one <+: two) :
    chainRules family comment one <+: chainRules family comment two := by
  obtain ⟨rest,rfl⟩ := begins
  cases one with
  | nil => exact List.nil_prefix
  | cons net more => exact ⟨rest.map fun net => acceptRule net comment,by simp [chainRules]⟩

-- From nothing, the rules begin as those of the other list do if the nets themselves do, each counted where it comes
-- first.
theorem begins_iff (fresh : belongings identity m family = .none) (fresh' : belongings identity c family = .none)
    (ran : install Memory.ops first identity m = .ok () m') (alone : install Memory.ops second identity c = .ok () c') :
    (belongings identity m' family).Begins (belongings identity c' family) ↔
      (ofFamily family first).eraseDups <+: (ofFamily family second).eraseDups := by
  rw [fresh_belongings fresh ran,fresh_belongings fresh' alone]
  constructor
  · rintro ⟨_,jumps⟩
    exact (List.prefix_map_iff_of_injective (jumpRule_injective _ _)).mp jumps
  · intro nets
    exact ⟨chainRules_begins _ _ nets,nets.map _⟩

theorem setups_present (chain comment : String) (nets : List Subnet) (v : View)
    (present : ∀ family, (v family postrouting).isSome) (family : Family) :
    (nets.foldl (setupView chain comment) v family postrouting).isSome := by
  induction nets generalizing v with
  | nil => exact present family
  | cons net rest ih => exact ih _ (setupView_postrouting v present)

-- A tool that works does one install after another.
theorem installs_working (first second : List Subnet) (identity : Identity) (working : m.failure = none)
    (present : ∀ family, (m.view family postrouting).isSome) :
    ∃ m₁ m₂, install Memory.ops first identity m = .ok () m₁ ∧ install Memory.ops second identity m₁ = .ok () m₂ := by
  obtain ⟨m₁,one,becomes⟩ := install_working first identity working present
  obtain ⟨m₂,two,_⟩ := install_working second identity (becomes.failure.trans working) fun family => by
    rw [becomes.view]
    exact setups_present _ _ first m.view present family
  exact ⟨m₁,m₂,one,two⟩

theorem initial_present (family : Family) : (Memory.initial.view family postrouting).isSome := by
  rw [Memory.initial_postrouting]
  rfl

theorem initial_belongings (identity : Identity) (family : Family) :
    belongings identity Memory.initial family = .none := by
  rw [belongings,ownRules,initial_absent,Memory.initial_postrouting]
  rfl

end Installs

end Iptables

section Reinstalling
variable (identity : Identity) (first second : List Subnet)

-- Installing again replaces what an identity had with one tool and only adds to it with the other. There it comes to
-- the same only if what the identity had is what the new rules begin with, in each family.
theorem reinstalling_exactly :
    (∀ m m₁ m₂ n n', m.ruleset.Reached → n.ruleset.Reached → Nft.owned identity n = [] →
      Nft.install Firewall.Nft.Memory.ops first identity m = .ok () m₁ →
      Nft.install Firewall.Nft.Memory.ops second identity m₁ = .ok () m₂ →
      Nft.install Firewall.Nft.Memory.ops second identity n = .ok () n' →
      Nft.bare (Nft.owned identity m₂) = Nft.bare (Nft.owned identity n')) ∧
    (∀ m m₁ m₂ c c', (∀ family, Iptables.belongings identity c family = .none) →
      Iptables.install Firewall.Iptables.Memory.ops first identity m = .ok () m₁ →
      Iptables.install Firewall.Iptables.Memory.ops second identity m₁ = .ok () m₂ →
      Iptables.install Firewall.Iptables.Memory.ops second identity c = .ok () c' →
      ((∀ family, Iptables.belongings identity m₂ family = Iptables.belongings identity c' family) ↔
        ∀ family, (Iptables.belongings identity m₁ family).Begins (Iptables.belongings identity c' family)) ∧
      ((∀ family, Iptables.belongings identity m family = .none) →
        ((∀ family, Iptables.belongings identity m₂ family = Iptables.belongings identity c' family) ↔
          ∀ family, (Iptables.ofFamily family first).eraseDups <+: (Iptables.ofFamily family second).eraseDups))) := by
  constructor
  · intro m m₁ m₂ n n' reached reached' _ one two alone
    rw [Nft.install_replaces (Nft.install_sound reached.sound one) two,Nft.install_replaces reached'.sound alone]
  · intro m m₁ m₂ c c' fresh one two alone
    have again := forall_congr' fun family => Iptables.replaced_iff (fresh family) two alone
    refine ⟨again,fun clean => again.trans ?_⟩
    exact forall_congr' fun family => Iptables.begins_iff (clean family) (fresh family) one alone

end Reinstalling

-- A network whose second net comes later, or comes instead of the first.
def oldNet : Subnet := .ofAddress (.ofNat .v4 0x0A160001) 24
def newNet : Subnet := .ofAddress (.ofNat .v4 0x0A160101) 24

theorem grown_reinstalled : ∃ m₁ m₂ c' n₁ n₂ n',
    Iptables.install Firewall.Iptables.Memory.ops [oldNet] (.ofNetwork "pods") .initial = .ok () m₁ ∧
    Iptables.install Firewall.Iptables.Memory.ops [oldNet,newNet] (.ofNetwork "pods") m₁ = .ok () m₂ ∧
    Iptables.install Firewall.Iptables.Memory.ops [oldNet,newNet] (.ofNetwork "pods") .initial = .ok () c' ∧
    Nft.install Firewall.Nft.Memory.ops [oldNet] (.ofNetwork "pods") .initial = .ok () n₁ ∧
    Nft.install Firewall.Nft.Memory.ops [oldNet,newNet] (.ofNetwork "pods") n₁ = .ok () n₂ ∧
    Nft.install Firewall.Nft.Memory.ops [oldNet,newNet] (.ofNetwork "pods") .initial = .ok () n' ∧
    (∀ family, Iptables.belongings (.ofNetwork "pods") m₂ family = Iptables.belongings (.ofNetwork "pods") c' family) ∧
    Nft.bare (Nft.owned (.ofNetwork "pods") n₂) = Nft.bare (Nft.owned (.ofNetwork "pods") n') := by
  obtain ⟨m₁,m₂,one,two⟩ := Iptables.installs_working [oldNet] [oldNet,newNet] (.ofNetwork "pods") rfl
    Iptables.initial_present
  obtain ⟨c',alone,_⟩ := Iptables.install_working [oldNet,newNet] (.ofNetwork "pods") rfl Iptables.initial_present
  have reached : Firewall.Nft.Memory.initial.ruleset.Reached := .empty
  obtain ⟨n₁,first,_,working,_⟩ := Nft.install_working [oldNet] (.ofNetwork "pods") rfl reached.sound
  obtain ⟨n₂,second,_⟩ := Nft.install_working [oldNet,newNet] (.ofNetwork "pods") (working.trans rfl)
    (Nft.install_sound reached.sound first)
  obtain ⟨n',only,_⟩ := Nft.install_working [oldNet,newNet] (.ofNetwork "pods") rfl reached.sound
  obtain ⟨replaces,exactly⟩ := reinstalling_exactly (.ofNetwork "pods") [oldNet] [oldNet,newNet]
  have fresh := Iptables.initial_belongings (.ofNetwork "pods")
  have begins : ∀ family, (Iptables.ofFamily family [oldNet]).eraseDups <+:
      (Iptables.ofFamily family [oldNet,newNet]).eraseDups := by
    intro family
    cases family <;> decide
  refine ⟨m₁,m₂,c',n₁,n₂,n',one,two,alone,first,second,only,?_,?_⟩
  · exact ((exactly _ _ _ _ _ fresh one two alone).2 fresh).mpr begins
  · exact replaces _ _ _ _ _ reached reached rfl first second only

-- A net that came instead stands behind the one that should be gone.
theorem old_net_kept : ∃ m₁ m₂ c',
    (∀ family, Iptables.belongings (.ofNetwork "pods") .initial family = .none) ∧
    Iptables.install Firewall.Iptables.Memory.ops [oldNet] (.ofNetwork "pods") .initial = .ok () m₁ ∧
    Iptables.install Firewall.Iptables.Memory.ops [newNet] (.ofNetwork "pods") m₁ = .ok () m₂ ∧
    Iptables.install Firewall.Iptables.Memory.ops [newNet] (.ofNetwork "pods") .initial = .ok () c' ∧
    Iptables.belongings (.ofNetwork "pods") m₂ .v4 ≠ Iptables.belongings (.ofNetwork "pods") c' .v4 := by
  obtain ⟨m₁,m₂,one,two⟩ := Iptables.installs_working [oldNet] [newNet] (.ofNetwork "pods") rfl Iptables.initial_present
  obtain ⟨c',alone,_⟩ := Iptables.install_working [newNet] (.ofNetwork "pods") rfl Iptables.initial_present
  have fresh := Iptables.initial_belongings (.ofNetwork "pods")
  refine ⟨m₁,m₂,c',fresh,one,two,alone,fun same => ?_⟩
  have begins := (Iptables.begins_iff (fresh .v4) (fresh .v4) one alone).mp
    ((Iptables.replaced_iff (fresh .v4) two alone).mp same)
  have apart : ¬(Iptables.ofFamily .v4 [oldNet]).eraseDups <+: (Iptables.ofFamily .v4 [newNet]).eraseDups := by decide
  exact apart begins

end HostNet.Masquerade
