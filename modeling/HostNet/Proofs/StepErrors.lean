import HostNet.Proofs.CarriedStages
import HostNet.Proofs.SetupParts

namespace HostNet

namespace Step

-- A step fails with no other errors than these.
def Raises (E : ε → Prop) (x : Step σ ε α) : Prop := ∀ s e t, x s = .error e t → E e

variable {E : ε → Prop}

theorem raises_pure (a : α) : Raises E (pure a : Step σ ε α) := fun _ _ _ ran => nomatch ran

theorem raises_throw (one : E e) : Raises E (throw e : Step σ ε α) := by
  intro s e' t ran
  cases ran
  exact one

theorem raises_ofExcept {result : Except ε α} (one : ∀ e, result = .error e → E e) :
    Raises E (ofExcept result : Step σ ε α) := by
  cases result with
  | ok a => exact raises_pure a
  | error e => exact raises_throw (one e rfl)

theorem raises_ofState (x : StateM σ α) : Raises E (ofState x : Step σ ε α) := fun _ _ _ ran => nomatch ran

theorem raises_attempt (x : Step σ ε' α) : Raises E (attempt x : Step σ ε (Except ε' α)) := by
  intro s e t ran
  cases inner : x s with
  | ok a u => cases (attempt_ok inner).symm.trans ran
  | error e' u => cases (attempt_error inner).symm.trans ran

theorem raises_if {c : Prop} [Decidable c] {x y : Step σ ε α} (yes : Raises E x) (no : Raises E y) :
    Raises E (if c then x else y) := by
  split
  · exact yes
  · exact no

theorem raises_bind {x : Step σ ε α} {f : α → Step σ ε β} (first : Raises E x) (rest : ∀ a, Raises E (f a)) :
    Raises E (x >>= f) := by
  intro s e t ran
  cases begun : x s with
  | ok a u => exact rest a u e t ((bind_ok begun).symm.trans ran)
  | error e' u => cases (bind_error begun).symm.trans ran; exact first s _ _ begun

theorem raises_forM {f : β → Step σ ε PUnit} (each : ∀ b, Raises E (f b)) (list : List β) :
    Raises E (list.forM f) := by
  induction list with
  | nil => exact raises_pure _
  | cons b rest ih => exact raises_bind (each b) fun _ => ih

theorem raises_mapError {f : ε' → ε} (each : ∀ e, E (f e)) (x : Step σ ε' α) : Raises E (mapError f x) := by
  intro s e t ran
  cases inner : x s with
  | ok a u => cases (mapError_ok inner).symm.trans ran
  | error e' u => cases (mapError_error inner).symm.trans ran; exact each e'

theorem raises_within {get : σ → τ} {set : τ → σ → σ} {x : Step τ ε α} (inner : Raises E x) :
    Raises E (within get set x) := by
  intro s e t ran
  obtain ⟨u,failed,_⟩ := of_within_error ran
  exact inner _ e u failed

end Step

open Step (Raises)

-- Errors that a declared network alone causes.
def Error.declared : Error → Bool
  | .config _ | .ipam _ => true
  | _ => false

-- A step that fails for other reasons only.
abbrev Blameless (x : Step σ Error α) : Prop := Raises (fun e => e.declared = false) x

theorem asking_blameless {f : ε → Error} (other : ∀ e, (f e).declared = false) (x : Step σ ε α) :
    Blameless (Step.mapError f x) := Step.raises_mapError other x

theorem Kernel.Driver.find_blameless (d : Driver σ) (name : String) : Blameless (d.find name) := by
  refine Step.raises_mapError (fun e => ?_) _
  split <;> rfl

namespace Sysctl

theorem get_blameless (root name : String) : Blameless (get root name) := by
  intro files e files' ran
  unfold get at ran
  cases read : files.read (path root name) with
  | ok text => rw [read] at ran; cases ran
  | error e' => rw [read] at ran; cases ran; rfl

theorem set_blameless (root name value : String) : Blameless (set root name value) := by
  intro files e files' ran
  unfold set Step.update at ran
  cases wrote : files.write (path root name) value with
  | ok _ => simp only [wrote,Except.mapError] at ran; cases ran
  | error e' => simp only [wrote,Except.mapError] at ran; cases ran; rfl

theorem enableForwarding_blameless (root : String) (family : Family) : Blameless (enableForwarding root family) :=
  Step.raises_bind (get_blameless root _) fun _ => Step.raises_if (Step.raises_pure ()) (set_blameless root _ _)

end Sysctl

namespace Masquerade

theorem Iptables.install_blameless (ops : Firewall.Iptables.Ops σ) (nets : List Subnet) (identity : Identity) :
    Blameless (Iptables.install ops nets identity) := by
  refine Step.raises_forM (fun net => ?_) nets
  refine Step.raises_bind (asking_blameless (fun _ => rfl) _) fun chains => ?_
  dsimp only
  rw [Step.when_bind]
  refine Step.raises_bind (Step.raises_if (asking_blameless (fun _ => rfl) _) (Step.raises_pure ())) fun _ => ?_
  refine Step.raises_bind (asking_blameless (fun _ => rfl) _) fun _ => ?_
  exact Step.raises_bind (asking_blameless (fun _ => rfl) _) fun _ => asking_blameless (fun _ => rfl) _

theorem Nft.install_blameless (ops : Firewall.Nft.Ops σ) (nets : List Subnet) (identity : Identity) :
    Blameless (Nft.install ops nets identity) :=
  Step.raises_bind (asking_blameless (fun _ => rfl) _) fun _ => asking_blameless (fun _ => rfl) _

end Masquerade

namespace Bridge
open Config (Plan)

theorem place_blameless (s : Services σ) (p : Plan) : Blameless (place s p) := by
  refine Step.raises_bind (Step.raises_attempt _) fun answer => ?_
  cases answer with
  | ok _ => exact Step.raises_pure ()
  | error e => exact Step.raises_if (asking_blameless (fun _ => rfl) _) (Step.raises_throw rfl)

theorem promote_blameless (s : Services σ) (p : Plan) : Blameless (promote s p) :=
  Step.raises_bind (s.kernel.find_blameless p.bridge) fun _ => asking_blameless (fun _ => rfl) _

theorem finish_blameless (s : Services σ) (p : Plan) : Blameless (finish s p) := by
  refine Step.raises_bind (s.kernel.find_blameless p.bridge) fun link => ?_
  refine Step.raises_bind (Step.raises_ofExcept fun e refused => ?_) fun bridge => ?_
  · unfold Kernel.Bridge.ofLink at refused
    split at refused
    · cases refused
    · cases refused; rfl
  · refine Step.raises_bind (Step.raises_attempt _) fun _ => ?_
    exact Step.raises_bind (asking_blameless (fun _ => rfl) _) fun _ => Step.raises_pure _

theorem ensure_blameless (s : Services σ) (p : Plan) : Blameless (ensure s p) := by
  rw [ensure_parts]
  refine Step.raises_bind (Step.raises_bind (place_blameless s p) fun _ => ?_) fun _ => finish_blameless s p
  exact Step.raises_if (promote_blameless s p) (Step.raises_pure ())

theorem addGateways_blameless (s : Services σ) (index : Nat) (existing : List String) {nets : List Subnet}
    (known : ∀ net ∈ nets, ∃ gateway, net.gateway = .ok gateway) : Blameless (addGateways s index existing nets) := by
  induction nets with
  | nil => exact Step.raises_pure _
  | cons net rest ih =>
    obtain ⟨gateway,first⟩ := known net List.mem_cons_self
    rw [addGateways_cons _ _ _ _ first]
    refine Step.raises_bind (Step.raises_if (asking_blameless (fun _ => rfl) _) (Step.raises_pure ())) fun _ => ?_
    exact Step.raises_bind (ih fun net among => known net (List.mem_cons_of_mem _ among)) fun _ => Step.raises_pure _

theorem ensureGateways_blameless (s : Services σ) (bridge : Kernel.Bridge) {p : Plan}
    (known : ∀ net ∈ p.podSubnets, ∃ gateway, net.gateway = .ok gateway) :
    Blameless (ensureGateways s bridge p) := by
  rw [ensureGateways_listing]
  exact Step.raises_bind (asking_blameless (fun _ => rfl) _) fun _ => addGateways_blameless s _ _ known

-- A plan whose subnets all have gateways is not what a set-up fails for.
theorem carryOut_blameless (root : String) {p : Plan}
    (known : ∀ net ∈ p.podSubnets, ∃ gateway, net.gateway = .ok gateway) : Blameless (carryOut (Host.services root) p) := by
  have enabling : ∀ family, Blameless ((Host.services root).enableForwarding family) := by
    intro family
    rw [Host.enabling]
    exact Step.raises_within (Sysctl.enableForwarding_blameless root family)
  have served : (Host.services root).masquerade = Host.masquerade := by rw [Host.services]
  have installing : ∀ backend nets identity, Blameless ((Host.masquerade.of backend).install nets identity) := by
    intro backend nets identity
    cases backend with
    | iptables => exact Step.raises_within (Masquerade.Iptables.install_blameless _ nets identity)
    | nftables => exact Step.raises_within (Masquerade.Nft.install_blameless _ nets identity)
  rw [carryOut_parts]
  refine Step.raises_bind (Step.raises_bind (Step.raises_if ?_ (Step.raises_pure ())) fun _ => ?_) fun made => ?_
  · exact Step.raises_bind (enabling .v4) fun _ => enabling .v6
  · refine Step.raises_bind (ensure_blameless _ p) fun bridge => ?_
    refine Step.raises_bind (Step.raises_if ?_ (Step.raises_pure [])) fun _ => Step.raises_pure _
    exact ensureGateways_blameless _ bridge known
  · refine Step.raises_bind (Step.raises_if ?_ (Step.raises_pure ())) fun _ => Step.raises_pure _
    rw [served]
    exact Step.raises_bind (Step.raises_ofState _) fun backend => installing backend _ _

end Bridge
end HostNet
