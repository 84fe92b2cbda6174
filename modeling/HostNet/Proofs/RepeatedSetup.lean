import HostNet.Proofs.CarriedGateways
import HostNet.Proofs.Removal
import HostNet.Proofs.RepeatedInstalls
import HostNet.Proofs.SetupWalls

namespace HostNet

open Step (Keeps)

namespace Masquerade

-- What the memories of both tools share: a tool may be broken, with a message that it fails with, and is repaired.
class Breakable (μ : Type) where
  failure : μ → Option String
  repaired : μ → μ
  repaired_self : failure m = none → repaired m = m

namespace Breakable

instance : Breakable Firewall.Iptables.Memory where
  failure := (·.failure)
  repaired m := { m with failure := none }
  repaired_self {m} works := by cases m; cases works; rfl

instance : Breakable Firewall.Nft.Memory where
  failure := (·.failure)
  repaired m := { m with failure := none }
  repaired_self {m} works := by cases m; cases works; rfl

-- Where a step that does nothing while its tool is broken has led, once the tool is repaired.
theorem attempted [Breakable μ] {x : Step μ ε Unit} (ran : x m = .ok () m') (works : failure m = none)
    (kept : failure m' = failure m) (idle : ∀ h message, failure h = some message → (x.outcome h).2 = h)
    (troubled : repaired h = m) :
    let after := repaired (x.outcome h).2
    after = m ∨ after = m' := by
  cases broken : failure h with
  | some message =>
    left
    rw [idle h message broken,troubled]
  | none =>
    cases (repaired_self broken).symm.trans troubled
    right
    rw [Step.outcome_ok ran,repaired_self (kept.trans works)]

end Breakable

theorem Iptables.install_kept {m m' : Firewall.Iptables.Memory}
    (ran : install Firewall.Iptables.Memory.ops nets identity m = .ok () m') :
    m'.usable = m.usable ∧ m'.failure = m.failure := by
  obtain ⟨_,becomes⟩ := setupNets_ok (chainName_postrouting identity.network identity.id) nets ran
  exact ⟨becomes.usable,becomes.failure⟩

theorem Nft.install_kept {m m' : Firewall.Nft.Memory}
    (ran : install Firewall.Nft.Memory.ops nets identity m = .ok () m') :
    m'.usable = m.usable ∧ m'.failure = m.failure := by
  have kept := (masquerader_keeps (I := fun k => k.usable = m.usable ∧ k.failure = m.failure)
    fun _ _ _ held _ => held).install nets identity m ⟨rfl,rfl⟩
  rwa [show (Masquerader.nft Firewall.Nft.Memory.ops).install nets identity =
    install Firewall.Nft.Memory.ops nets identity from rfl,Step.outcome_ok ran] at kept

end Masquerade

namespace Host

open Config (Plan Network)
open Firewall (Backend)
open Bridge (prepare protect)
open Masquerade (Breakable)

-- A host without its troubles.
def quiet (h : Host) : Host where
  kernel := h.kernel.quiet
  files := h.files
  iptables := Breakable.repaired h.iptables
  nft := Breakable.repaired h.nft

-- No request is refused and no tool is broken. Listings may still be interrupted.
structure Calm (h : Host) : Prop where
  kernel : h.kernel.Answers
  iptables : h.iptables.failure = none
  nft : h.nft.failure = none

-- Hosts that are the same but for listings, their interruptions, and what `Nft.Alike` leaves open.
structure Alike (t t' : Host) : Prop where
  kernel : t'.kernel.quiet = t.kernel.quiet
  refusals : t'.kernel.refusals = t.kernel.refusals
  files : t'.files = t.files
  iptables : t'.iptables = t.iptables
  nft : Masquerade.Nft.Alike t.nft t'.nft

variable {s t h y : Host} {root : String} {p : Plan} {gateways : List Subnet}

-- An attempt on the walls does nothing if they are broken, and else what it would do if they were not.
theorem protect_attempted (ran : protect (services root) p gateways s = .ok () t) (iptables : s.iptables.failure = none)
    (nft : s.nft.failure = none) (troubled : h.quiet.walls = s.walls) :
    let after := ((protect (services root) p gateways).outcome h).2.quiet.walls
    after = s.walls ∨ after = t.walls := by
  obtain ⟨sameIptables,sameNft⟩ := Prod.ext_iff.mp troubled
  change Breakable.repaired h.iptables = s.iptables at sameIptables
  change Breakable.repaired h.nft = s.nft at sameNft
  cases masquerading : p.layer3 && p.masquerade with
  | false => rw [protect_idle masquerading]; exact Or.inl troubled
  | true =>
    have same : chosen h.walls p.backend = chosen s.walls p.backend :=
      chosen_usable (congrArg (·.usable) sameIptables) (congrArg (·.usable) sameNft) _
    have outcome : (protect (services root) p gateways).outcome h =
        ((masquerade.of (chosen s.walls p.backend)).install gateways (.ofNetwork p.network)).outcome h := by
      unfold Step.outcome
      rw [protect_installs masquerading,same]
    rw [protect_installs masquerading] at ran
    rw [outcome]
    cases backend : chosen s.walls p.backend with
    | iptables =>
      rw [backend,iptables_install] at ran
      rw [iptables_install]
      obtain ⟨m,installed,rfl⟩ := Step.of_within ran
      rw [Step.outcome_within]
      simp only [walls,quiet,sameNft,Prod.mk.injEq,and_true]
      exact Breakable.attempted installed iptables (Masquerade.Iptables.install_kept installed).2
        (fun _ _ broken => Masquerade.Iptables.install_failing gateways _ broken) sameIptables
    | nftables =>
      rw [backend,nft_install] at ran
      rw [nft_install]
      obtain ⟨m,installed,rfl⟩ := Step.of_within ran
      rw [Step.outcome_within]
      simp only [walls,quiet,sameIptables,Prod.mk.injEq,true_and]
      have idle (m : Firewall.Nft.Memory) (message : String) (broken : m.failure = some message) :=
        congrArg Prod.snd (Step.outcome_error (Masquerade.Nft.install_failing gateways (.ofNetwork p.network) broken))
      exact Breakable.attempted installed nft (Masquerade.Nft.install_kept installed).2 idle sameNft

theorem protect_again (sound : Masquerade.Nft.SoundRules s.nft)
    (ran : protect (services root) p gateways s = .ok () t) :
    ∃ t', protect (services root) p gateways t = .ok () t' ∧ t'.iptables = t.iptables ∧
      Masquerade.Nft.Alike t.nft t'.nft := by
  cases masquerading : p.layer3 && p.masquerade with
  | false =>
    rw [protect_idle masquerading]
    exact ⟨t,rfl,rfl,Masquerade.Nft.Alike.refl _⟩
  | true =>
    rw [protect_installs masquerading] at ran ⊢
    cases backend : chosen s.walls p.backend with
    | iptables =>
      rw [backend,iptables_install] at ran
      obtain ⟨m,installed,rfl⟩ := Step.of_within ran
      have still : chosen ({ s with iptables := m } : Host).walls p.backend = .iptables :=
        (chosen_usable (w := (m,s.nft)) (v := s.walls) (Masquerade.Iptables.install_kept installed).1 rfl _).trans
          backend
      have again := Masquerade.Iptables.install_again installed
      rw [still,iptables_install]
      exact ⟨_,Step.within_ok again,rfl,Masquerade.Nft.Alike.refl _⟩
    | nftables =>
      rw [backend,nft_install] at ran
      obtain ⟨m,installed,rfl⟩ := Step.of_within ran
      have still : chosen ({ s with nft := m } : Host).walls p.backend = .nftables :=
        (chosen_usable (w := (s.iptables,m)) (v := s.walls) rfl (Masquerade.Nft.install_kept installed).1 _).trans
          backend
      obtain ⟨m',again,alike⟩ := Masquerade.Nft.install_again sound installed
      rw [still,nft_install]
      exact ⟨_,Step.within_ok again,rfl,alike⟩

-- Wherever a troubled attempt has led the walls, another one leads them where they should be.
theorem protect_retried (sound : Masquerade.Nft.SoundRules s.nft)
    (ran : protect (services root) p gateways s = .ok () t) (led : y.walls = s.walls ∨ y.walls = t.walls) :
    ∃ t', protect (services root) p gateways y = .ok () t' ∧ t'.kernel = y.kernel ∧ t'.files = y.files ∧
      t'.iptables = t.iptables ∧ Masquerade.Nft.Alike t.nft t'.nft := by
  rcases led with start | finish
  · exact ⟨_,protect_ok root ran start,rfl,rfl,rfl,Masquerade.Nft.Alike.refl _⟩
  · obtain ⟨t',again,iptables,nft⟩ := protect_again sound ran
    exact ⟨_,protect_ok root again finish,rfl,rfl,iptables,nft⟩

theorem quiet_ground (same : y.quiet = h.quiet) : y.ground = h.ground :=
  congrArg (fun h : Host => (⟨h.kernel,h.files⟩ : Bridge.Ground)) same

theorem Calm.walls (calm : h.Calm) : h.quiet.walls = h.walls :=
  Prod.ext (Breakable.repaired_self calm.iptables) (Breakable.repaired_self calm.nft)

theorem Beside.quiet_walls (beside : Beside h u) : u.quiet.walls = h.quiet.walls :=
  Prod.ext (congrArg Breakable.repaired beside.iptables) (congrArg Breakable.repaired beside.nft)

-- Where an attempt leads that troubles may end early: some of the stages are made, and the walls are either as they
-- were or as they should be.
theorem attempt_leads (planned : n.plan = .ok p) (calm : s.Calm) (troubled : h.quiet = s.quiet)
    (prepared : prepare (services root) p s = .ok (bridge,gateways) u)
    (shielded : protect (services root) p gateways u = .ok () t) :
    let x := ((Bridge.setup (services root) n).outcome h).2
    (∃ first, first <+: Bridge.stages root p ∧ Stage.run first s.ground = some x.ground) ∧
      (x.quiet.walls = s.walls ∨ x.quiet.walls = t.walls) := by
  have carried := prepare_carries root p
  obtain ⟨through,told⟩ := carried.done trivial prepared
  have start : h.quiet.walls = s.walls := by rw [troubled,calm.walls]
  have beside := carried.done_beside prepared
  rw [← quiet_ground troubled,Bridge.setup_planned _ planned]
  rw [← quiet_ground troubled] at through
  cases begun : prepare (services root) p h with
  | error e h₁ =>
    rw [Step.outcome_error (Step.bind_error begun)]
    obtain ⟨_,first,part,reached⟩ := carried.broken trivial begun through
    exact ⟨⟨first,part,reached⟩,Or.inl ((carried.broken_beside begun).quiet_walls.trans start)⟩
  | ok made h₁ =>
    obtain ⟨all,told'⟩ := carried.done trivial begun
    have ground : h₁.ground = u.ground := Option.some.inj (all.symm.trans through)
    rw [ground] at told'
    cases told.unique told'
    rw [Step.outcome_bind begun,Step.outcome_then_pure]
    obtain ⟨kernel,files⟩ := protect_beside root p gateways h₁
    refine ⟨⟨_,List.prefix_rfl,?_⟩,?_⟩
    · rw [all,Host.ground,Host.ground,kernel,files]
    · have walls := protect_attempted shielded (by rw [beside.iptables]; exact calm.iptables)
        (by rw [beside.nft]; exact calm.nft)
        (((carried.done_beside begun).quiet_walls.trans start).trans beside.walls.symm)
      rw [← beside.walls]
      exact walls

-- Whatever became of a first attempt, a set-up that succeeds without troubles succeeds once they are over, tells about
-- the same bridge and leads to the same state.
theorem setup_converges (reached : s.nft.ruleset.Reached) (calm : s.Calm)
    (succeeded : Bridge.setup (services root) n s = .ok bridge t) (troubled : h.quiet = s.quiet)
    (cleared : y.quiet = ((Bridge.setup (services root) n).outcome h).2.quiet) (calmed : y.Calm) :
    ∃ t', Bridge.setup (services root) n y = .ok bridge t' ∧ Alike t t' := by
  cases planned : n.plan with
  | error e =>
    cases (Bridge.setup_unplanned _ planned s).symm.trans succeeded
  | ok p =>
    have carried := prepare_carries root p
    rw [Bridge.setup_planned _ planned] at succeeded
    obtain ⟨⟨bridge',gateways⟩,u,prepared,rest⟩ := Step.of_bind succeeded
    obtain ⟨_,_,shielded,done⟩ := Step.of_bind rest
    cases done
    obtain ⟨through,told⟩ := carried.done trivial prepared
    have beside := carried.done_beside prepared
    obtain ⟨⟨first,part,reached'⟩,walls⟩ := attempt_leads planned calm troubled prepared shielded
    rw [← cleared,calmed.walls] at walls
    have resumed : Stage.run (Bridge.stages root p) y.ground = some u.ground := by
      rw [quiet_ground cleared]
      exact Stage.run_again (Bridge.stages_resumable root p) part reached' through
    obtain ⟨made,y₁,again,ground,told',beside'⟩ := carried.succeeds trivial calmed.kernel resumed
    cases told.unique told'
    have sound : Masquerade.Nft.SoundRules u.nft := by rw [beside.nft]; exact reached.sound
    rw [← beside'.walls,← beside.walls] at walls
    obtain ⟨t',shielded',kernel,files,iptables,nft⟩ := protect_retried sound shielded walls
    obtain ⟨kernel₁,files₁⟩ := protect_ok_beside shielded
    refine ⟨t',?_,⟨?_,?_,?_,iptables,nft⟩⟩
    · rw [Bridge.setup_planned _ planned]
      exact (Step.bind_ok again).trans ((Step.bind_ok shielded').trans rfl)
    · rw [kernel,kernel₁]
      exact congrArg Bridge.Ground.kernel ground
    · rw [kernel,kernel₁,beside'.refusals,beside.refusals]
      exact calmed.kernel.trans calm.kernel.symm
    · rw [files,files₁]
      exact congrArg Bridge.Ground.files ground

-- A bare host on which no address can be added, some listings will be interrupted, and iptables is broken.
def hindered : Host where
  kernel := { bare.kernel with interruptions := 3,refusals := [(.addAddress,.notPermitted)] }
  files := bare.files
  iptables := { bare.iptables with failure := some "no lock" }
  nft := bare.nft

-- What an attempt leaves there, when the troubles are over.
def recovered : Host := (hindered.after "/" (.setup pods)).quiet

theorem hindered_converges : bare.nft.ruleset.Reached ∧ bare.Calm ∧ hindered.quiet = bare.quiet ∧
    ((Bridge.setup (services "/") pods).outcome hindered).1.isOk = false ∧ recovered.Calm ∧
    ∃ bridge t, Bridge.setup (services "/") pods bare = .ok bridge t ∧
      ∃ t', Bridge.setup (services "/") pods recovered = .ok bridge t' ∧ Alike t t' := by
  have calm : bare.Calm := ⟨rfl,rfl,rfl⟩
  have calmed : recovered.Calm := ⟨rfl,rfl,rfl⟩
  have answered : ((Bridge.setup (services "/") pods).outcome bare).1.toOption.isSome = true := by decide +kernel
  obtain ⟨bridge,told⟩ := Option.isSome_iff_exists.mp answered
  have ran := Step.of_told told
  exact ⟨.empty,calm,rfl,by decide +kernel,calmed,bridge,_,ran,
    setup_converges (h := hindered) .empty calm ran rfl rfl calmed⟩

def filtered : Config.Network := { pods with masqueradeBackend := some "nftables" }

def once : Host := bare.after "/" (.setup filtered)

def twice : Host := once.after "/" (.setup filtered)

-- A repeated set-up first deletes the rules of the one before, which the script tells.
theorem repeated_script : bare.nft.ruleset.Reached ∧ bare.Calm ∧ ∃ bridge,
    Bridge.setup (services "/") filtered bare = .ok bridge once ∧
      Bridge.setup (services "/") filtered once = .ok bridge twice ∧ twice.nft.lastScript ≠ once.nft.lastScript := by
  have answered : ((Bridge.setup (services "/") filtered).outcome bare).1.toOption.isSome = true := by decide +kernel
  have same : ((Bridge.setup (services "/") filtered).outcome once).1.toOption =
      ((Bridge.setup (services "/") filtered).outcome bare).1.toOption := by decide +kernel
  have other : (twice.nft.lastScript != once.nft.lastScript) = true := by decide +kernel
  obtain ⟨bridge,told⟩ := Option.isSome_iff_exists.mp answered
  exact ⟨.empty,⟨rfl,rfl,rfl⟩,bridge,Step.of_told told,Step.of_told (same.trans told),bne_iff_ne.mp other⟩

end Host

end HostNet
