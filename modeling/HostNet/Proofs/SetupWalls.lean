import HostNet.Proofs.CarriedStages

namespace HostNet.Host

open Config (Plan)
open Firewall (Backend)
open Bridge (protect)

abbrev Walls := Firewall.Iptables.Memory × Firewall.Nft.Memory

def walls (h : Host) : Walls := (h.iptables,h.nft)

def walled (w : Walls) (h : Host) : Host := { h with iptables := w.1,nft := w.2 }

theorem Beside.walls (beside : Beside h u) : u.walls = h.walls := Prod.ext beside.iptables beside.nft

-- The backend that is installed with.
def chosen (w : Walls) : Option Backend → Backend
  | some backend => backend
  | none => if w.1.usable then .iptables else if w.2.usable then .nftables else .iptables

theorem chosen_usable {w v : Walls} (iptables : w.1.usable = v.1.usable) (nft : w.2.usable = v.2.usable)
    (requested : Option Backend) : chosen w requested = chosen v requested := by
  cases requested with
  | some backend => rfl
  | none => rw [chosen,chosen,iptables,nft]

theorem select_chosen (h : Host) (requested : Option Backend) :
    masquerade.select requested h = (chosen h.walls requested,h) := by
  cases requested with
  | some backend => rfl
  | none =>
    have first : masquerade.iptables.supported h = (h.iptables.usable,h) := rfl
    have second : masquerade.nftables.supported h = (h.nft.usable,h) := rfl
    unfold Masquerade.Manager.select chosen walls
    simp only [bind,StateT.bind,first]
    cases h.iptables.usable with
    | true => rfl
    | false =>
      simp only [second,bind,StateT.bind,Bool.false_eq_true,if_false]
      cases h.nft.usable <;> rfl

variable {s t h y : Host} {root : String} {p : Plan} {gateways : List Subnet}

theorem protect_installs (masquerading : (p.layer3 && p.masquerade) = true) (root : String) (gateways : List Subnet)
    (h : Host) : protect (services root) p gateways h =
      (masquerade.of (chosen h.walls p.backend)).install gateways (.ofNetwork p.network) h := by
  have served : (services root).masquerade = masquerade := by rw [services]
  have selected : (Step.ofState (masquerade.select p.backend) : Step Host Error Backend) h =
      .ok (chosen h.walls p.backend) h := by rw [Step.ofState,select_chosen]
  rw [protect,if_pos masquerading,served]
  exact Step.bind_ok selected

theorem protect_idle (idle : (p.layer3 && p.masquerade) = false) (root : String) (gateways : List Subnet) :
    protect (services root) p gateways = pure () := by
  rw [protect,idle]
  rfl

theorem iptables_install (nets : List Subnet) (identity : Masquerade.Identity) :
    (masquerade.of .iptables).install nets identity = Step.within Host.iptables
      (fun iptables (h : Host) => { h with iptables })
      (Masquerade.Iptables.install Firewall.Iptables.Memory.ops nets identity) := rfl

theorem nft_install (nets : List Subnet) (identity : Masquerade.Identity) :
    (masquerade.of .nftables).install nets identity = Step.within Host.nft (fun nft (h : Host) => { h with nft })
      (Masquerade.Nft.install Firewall.Nft.Memory.ops nets identity) := rfl

-- The firewall is set up on the walls alone.
theorem protect_outcome (root : String) (p : Plan) (gateways : List Subnet) (same : y.walls = h.walls) :
    (protect (services root) p gateways).outcome y = (((protect (services root) p gateways).outcome h).1,
      y.walled ((protect (services root) p gateways).outcome h).2.walls) := by
  cases masquerading : p.layer3 && p.masquerade with
  | false =>
    rw [protect_idle masquerading]
    change (_,y) = (_,y.walled h.walls)
    rw [← same]
    rfl
  | true =>
    have alike : ∀ h, (protect (services root) p gateways).outcome h =
        ((masquerade.of (chosen h.walls p.backend)).install gateways (.ofNetwork p.network)).outcome h := by
      intro h
      unfold Step.outcome
      rw [protect_installs masquerading]
    obtain ⟨sameIptables,sameNft⟩ := Prod.ext_iff.mp same
    change y.iptables = h.iptables at sameIptables
    change y.nft = h.nft at sameNft
    rw [alike,alike,same]
    cases chosen h.walls p.backend with
    | iptables =>
      rw [iptables_install,Step.outcome_within,Step.outcome_within,sameIptables]
      simp only [walls,walled,← sameNft]
    | nftables =>
      rw [nft_install,Step.outcome_within,Step.outcome_within,sameNft]
      simp only [walls,walled,← sameIptables]

theorem protect_ok (root : String) (ran : protect (services root) p gateways h = .ok () u) (same : y.walls = h.walls) :
    protect (services root) p gateways y = .ok () (y.walled u.walls) := by
  have outcome := protect_outcome root p gateways same
  rw [Step.outcome_ok ran] at outcome
  cases again : protect (services root) p gateways y with
  | ok _ w => rw [Step.outcome_ok again] at outcome; cases outcome; rfl
  | error e w => rw [Step.outcome_error again] at outcome; cases outcome

theorem protect_beside (root : String) (p : Plan) (gateways : List Subnet) (h : Host) :
    ((protect (services root) p gateways).outcome h).2.kernel = h.kernel ∧
      ((protect (services root) p gateways).outcome h).2.files = h.files := by
  rw [protect_outcome root p gateways (rfl : h.walls = h.walls)]
  exact ⟨rfl,rfl⟩

theorem protect_ok_beside (ran : protect (services root) p gateways h = .ok () u) :
    u.kernel = h.kernel ∧ u.files = h.files := by
  have kept := protect_beside root p gateways h
  rwa [Step.outcome_ok ran] at kept

end HostNet.Host
