import HostNet.Proofs.SetupParts

namespace HostNet

namespace Step

-- A step keeps a property if it holds afterwards whenever it held before, also where the step fails.
def Keeps (I : σ → Prop) (x : Step σ ε α) : Prop := ∀ s, I s → I (x.outcome s).2

variable {I : σ → Prop}

theorem keeps_pure (a : α) : Keeps I (pure a : Step σ ε α) := fun _ held => held

theorem keeps_throw (e : ε) : Keeps I (throw e : Step σ ε α) := fun _ held => held

theorem keeps_ofExcept (result : Except ε α) : Keeps I (ofExcept result) := by
  cases result with
  | ok a => exact keeps_pure a
  | error e => exact keeps_throw e

theorem keeps_if {c : Prop} [Decidable c] {x y : Step σ ε α} (yes : Keeps I x) (no : Keeps I y) :
    Keeps I (if c then x else y) := by
  split
  · exact yes
  · exact no

theorem keeps_bind {x : Step σ ε α} {f : α → Step σ ε β} (first : Keeps I x) (rest : ∀ a, Keeps I (f a)) :
    Keeps I (x >>= f) := by
  intro s held
  have between := first s held
  unfold outcome at between ⊢
  cases ran : x s with
  | ok a t =>
    rw [ran] at between
    rw [bind_ok ran]
    exact rest a t between
  | error e t =>
    rw [ran] at between
    rw [bind_error ran]
    exact between

theorem keeps_attempt {x : Step σ ε α} (inner : Keeps I x) : Keeps I (attempt x : Step σ ε' (Except ε α)) := by
  intro s held
  have after := inner s held
  unfold outcome attempt at *
  cases ran : x s <;> rw [ran] at after <;> exact after

theorem keeps_mapError {x : Step σ ε α} (f : ε → ε') (inner : Keeps I x) : Keeps I (mapError f x) := by
  intro s held
  have after := inner s held
  unfold outcome mapError at *
  cases ran : x s <;> rw [ran] at after <;> exact after

theorem keeps_update {f : σ → Except ε σ} (kept : ∀ s t, I s → f s = .ok t → I t) : Keeps I (update f) := by
  intro s held
  unfold outcome update
  cases ran : f s with
  | ok t => exact kept s t held ran
  | error e => exact held

theorem keeps_ofState {x : StateM σ α} (kept : ∀ s, I s → I (x s).2) : Keeps I (ofState x : Step σ ε α) := kept

theorem keeps_within {J : τ → Prop} {get : σ → τ} {set : τ → σ → σ} {x : Step τ ε α} (inner : Keeps J x)
    (part : ∀ s, I s → J (get s)) (whole : ∀ s t, I s → J t → I (set t s)) : Keeps I (within get set x) := by
  intro s held
  have after := inner (get s) (part s held)
  unfold outcome within at *
  cases ran : x (get s) <;> rw [ran] at after <;> exact whole s _ held after

end Step

open Step (Keeps)

-- Services all of whose requests keep a property, and what is made of them.
structure Kernel.Driver.Keeps (I : σ → Prop) (d : Driver σ) : Prop where
  linkByName : ∀ name, Step.Keeps I (d.linkByName name)
  addresses : ∀ index, Step.Keeps I (d.addresses index)
  addLink : ∀ request, Step.Keeps I (d.addLink request)
  modifyLink : ∀ request, Step.Keeps I (d.modifyLink request)
  setUp : ∀ index, Step.Keeps I (d.setUp index)
  setPromiscuous : ∀ index, Step.Keeps I (d.setPromiscuous index)
  deleteLink : ∀ index, Step.Keeps I (d.deleteLink index)
  addAddress : ∀ index net, Step.Keeps I (d.addAddress index net)

structure Masquerade.Masquerader.Keeps (I : σ → Prop) (b : Masquerader σ) : Prop where
  supported : ∀ s, I s → I (b.supported s).2
  install : ∀ nets identity, Step.Keeps I (b.install nets identity)
  teardown : ∀ nets identity, Step.Keeps I (b.teardown nets identity)

structure Services.Keeps (I : σ → Prop) (s : Services σ) : Prop where
  kernel : s.kernel.Keeps I
  enableForwarding : ∀ family, Step.Keeps I (s.enableForwarding family)
  setParameter : ∀ name value, Step.Keeps I (s.setParameter name value)
  iptables : s.masquerade.iptables.Keeps I
  nftables : s.masquerade.nftables.Keeps I

variable {I : σ → Prop} {J : τ → Prop} {get : σ → τ} {set : τ → σ → σ}

namespace Kernel

theorem Driver.Keeps.within {d : Driver τ} (inner : d.Keeps J) (part : ∀ s, I s → J (get s))
    (whole : ∀ s t, I s → J t → I (set t s)) : (d.within get set).Keeps I where
  linkByName name := Step.keeps_within (inner.linkByName name) part whole
  addresses index := Step.keeps_within (inner.addresses index) part whole
  addLink request := Step.keeps_within (inner.addLink request) part whole
  modifyLink request := Step.keeps_within (inner.modifyLink request) part whole
  setUp index := Step.keeps_within (inner.setUp index) part whole
  setPromiscuous index := Step.keeps_within (inner.setPromiscuous index) part whole
  deleteLink index := Step.keeps_within (inner.deleteLink index) part whole
  addAddress index net := Step.keeps_within (inner.addAddress index net) part whole

theorem keeps_retryFrom {ask : Step σ Error (Listing α)} (kept : Step.Keeps I ask) (last : Option α) (attempts : Nat) :
    Step.Keeps I (retryFrom ask last attempts) := by
  induction attempts generalizing last with
  | zero =>
    cases last with
    | none => exact Step.keeps_throw _
    | some value => exact Step.keeps_pure value
  | succ attempts ih =>
    refine Step.keeps_bind (Step.keeps_attempt kept) fun answer => ?_
    cases answer with
    | ok answer => exact Step.keeps_if (ih (some answer.value)) (Step.keeps_pure answer.value)
    | error e =>
      cases e with
      | interrupted => exact ih last
      | refused reason => exact Step.keeps_throw _
      | socket reason => exact Step.keeps_throw _
      | other message => exact Step.keeps_throw _

theorem Driver.Keeps.find {d : Driver σ} (kept : d.Keeps I) (name : String) : Step.Keeps I (d.find name) :=
  Step.keeps_mapError _ (keeps_retryFrom (kept.linkByName name) none maxAttempts)

theorem Driver.Keeps.addressesOf {d : Driver σ} (kept : d.Keeps I) (index : Nat) : Step.Keeps I (d.addressesOf index) :=
  keeps_retryFrom (kept.addresses (some index)) none maxAttempts

theorem Driver.Keeps.deleteWithAddresses {d : Driver σ} (kept : d.Keeps I) (name : String) :
    Step.Keeps I (d.deleteWithAddresses name) := by
  refine Step.keeps_bind (kept.find name) fun link => ?_
  refine Step.keeps_bind (Step.keeps_mapError _ (kept.addressesOf link.index)) fun addresses => ?_
  exact Step.keeps_bind (Step.keeps_mapError _ (kept.deleteLink link.index)) fun _ => Step.keeps_pure _

end Kernel

namespace Masquerade

theorem Masquerader.Keeps.within {b : Masquerader τ} (inner : b.Keeps J) (part : ∀ s, I s → J (get s))
    (whole : ∀ s t, I s → J t → I (set t s)) : (b.within get set).Keeps I where
  supported s held := whole s _ held (inner.supported (get s) (part s held))
  install nets identity := Step.keeps_within (inner.install nets identity) part whole
  teardown nets identity := Step.keeps_within (inner.teardown nets identity) part whole

theorem keeps_teardownOne {b : Masquerader σ} (kept : b.Keeps I) (nets : List Subnet) (identity : Identity) :
    Step.Keeps I (Manager.teardownOne b nets identity) := by
  refine Step.keeps_bind (Step.keeps_attempt (kept.teardown nets identity)) fun result => ?_
  cases result with
  | ok _ => exact Step.keeps_pure _
  | error e =>
    refine Step.keeps_bind (Step.keeps_ofState kept.supported) fun supported => ?_
    cases supported <;> exact Step.keeps_pure _

variable {m : Manager σ}

theorem keeps_setup (first : m.iptables.Keeps I) (second : m.nftables.Keeps I) (requested : Option Firewall.Backend)
    (nets : List Subnet) (identity : Identity) : Step.Keeps I (m.setup requested nets identity) := by
  have selecting : ∀ s, I s → I (m.select requested s).2 := by
    intro s held
    cases requested with
    | some backend => exact held
    | none =>
      have one := first.supported s held
      simp only [Manager.select,bind,StateT.bind]
      cases usable : m.iptables.supported s with
      | mk answer t =>
        rw [usable] at one
        cases answer with
        | true => exact one
        | false =>
          have two := second.supported t one
          simp only [Bool.false_eq_true,if_false,StateT.bind]
          cases other : m.nftables.supported t with
          | mk answer u =>
            rw [other] at two
            cases answer <;> exact two
  refine Step.keeps_bind (Step.keeps_ofState selecting) fun backend => ?_
  cases backend with
  | iptables => exact first.install nets identity
  | nftables => exact second.install nets identity

theorem keeps_teardown (first : m.iptables.Keeps I) (second : m.nftables.Keeps I) (nets : List Subnet)
    (identity : Identity) : Step.Keeps I (m.teardown nets identity) := by
  refine Step.keeps_bind (keeps_teardownOne first nets identity) fun one => ?_
  refine Step.keeps_bind (keeps_teardownOne second nets identity) fun two => ?_
  exact Step.keeps_if (Step.keeps_pure ()) (Step.keeps_throw _)

end Masquerade

end HostNet

namespace HostNet.Bridge
open Config (Plan Network)
variable {I : σ → Prop} {s : Services σ}

theorem keeps_place (kept : s.kernel.Keeps I) (p : Plan) : Step.Keeps I (place s p) := by
  refine Step.keeps_bind (Step.keeps_attempt (kept.addLink _)) fun answer => ?_
  cases answer with
  | ok _ => exact Step.keeps_pure _
  | error e => exact Step.keeps_if (Step.keeps_mapError _ (kept.modifyLink _)) (Step.keeps_throw _)

theorem keeps_ensure (kept : s.Keeps I) (p : Plan) : Step.Keeps I (ensure s p) := by
  have promoting : Step.Keeps I (promote s p) := Step.keeps_bind (kept.kernel.find p.bridge) fun link =>
    Step.keeps_mapError _ (kept.kernel.setPromiscuous link.index)
  rw [ensure_parts]
  refine Step.keeps_bind (Step.keeps_bind (keeps_place kept.kernel p) fun _ =>
    Step.keeps_if promoting (Step.keeps_pure ())) fun _ => ?_
  refine Step.keeps_bind (kept.kernel.find p.bridge) fun link => ?_
  refine Step.keeps_bind (Step.keeps_ofExcept _) fun bridge => ?_
  refine Step.keeps_bind (Step.keeps_attempt (kept.setParameter _ _)) fun _ => ?_
  exact Step.keeps_bind (Step.keeps_mapError _ (kept.kernel.setUp _)) fun _ => Step.keeps_pure _

theorem keeps_addGateways (kept : s.kernel.Keeps I) (index : Nat) (existing : List String) (nets : List Subnet) :
    Step.Keeps I (addGateways s index existing nets) := by
  induction nets with
  | nil => exact Step.keeps_pure _
  | cons net nets ih =>
    cases known : net.gateway with
    | error e => rw [addGateways_stuck _ _ _ _ known]; exact Step.keeps_throw _
    | ok gateway =>
      rw [addGateways_cons _ _ _ _ known]
      refine Step.keeps_bind (Step.keeps_if (Step.keeps_mapError _ (kept.addAddress _ _)) (Step.keeps_pure ()))
        fun _ => ?_
      exact Step.keeps_bind ih fun _ => Step.keeps_pure _

theorem keeps_ensureGateways (kept : s.kernel.Keeps I) (bridge : Kernel.Bridge) (p : Plan) :
    Step.Keeps I (ensureGateways s bridge p) := by
  rw [ensureGateways_listing]
  exact Step.keeps_bind (Step.keeps_mapError _ (kept.addressesOf bridge.link.index)) fun _ =>
    keeps_addGateways kept _ _ _

theorem keeps_prepare (kept : s.Keeps I) (p : Plan) : Step.Keeps I (prepare s p) := by
  refine Step.keeps_bind (Step.keeps_if ?_ (Step.keeps_pure ())) fun _ => ?_
  · exact Step.keeps_bind (kept.enableForwarding .v4) fun _ => kept.enableForwarding .v6
  · refine Step.keeps_bind (keeps_ensure kept p) fun bridge => ?_
    refine Step.keeps_bind (Step.keeps_if ?_ (Step.keeps_pure [])) fun _ => Step.keeps_pure _
    exact keeps_ensureGateways kept.kernel bridge p

theorem keeps_carryOut (kept : s.Keeps I) (p : Plan) : Step.Keeps I (carryOut s p) := by
  rw [carryOut_parts]
  refine Step.keeps_bind (keeps_prepare kept p) fun made => Step.keeps_bind ?_ fun _ => Step.keeps_pure _
  exact Step.keeps_if (Masquerade.keeps_setup kept.iptables kept.nftables _ _ _) (Step.keeps_pure ())

theorem keeps_setup (kept : s.Keeps I) (n : Network) : Step.Keeps I (setup s n) :=
  Step.keeps_bind (Step.keeps_ofExcept _) fun p => keeps_carryOut kept p

theorem keeps_deleteLink (kept : s.Keeps I) (name : String) : Step.Keeps I (deleteLink s name) := by
  refine Step.keeps_bind (Step.keeps_attempt (kept.kernel.deleteWithAddresses name)) fun answer => ?_
  cases answer with
  | ok nets => exact Step.keeps_pure nets
  | error e => exact Step.keeps_if (Step.keeps_pure []) (Step.keeps_throw e)

theorem keeps_remove (kept : s.Keeps I) (n : Network) : Step.Keeps I (remove s n) := by
  refine Step.keeps_bind (keeps_deleteLink kept n.bridgeName) fun nets => ?_
  exact Step.keeps_if (Masquerade.keeps_teardown kept.iptables kept.nftables nets _) (Step.keeps_pure ())

end HostNet.Bridge
