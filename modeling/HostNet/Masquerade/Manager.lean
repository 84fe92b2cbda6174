import HostNet.Masquerade.Iptables
import HostNet.Masquerade.Nft

namespace HostNet.Masquerade
open Firewall (Backend)

structure Masquerader (σ : Type) where
  supported : StateM σ Bool
  install : List Subnet → Identity → Step σ Error Unit
  teardown : List Subnet → Identity → Step σ Error Unit

def Masquerader.iptables (ops : Firewall.Iptables.Ops σ) : Masquerader σ where
  supported := ops.supported
  install := Iptables.install ops
  teardown := Iptables.teardown ops

-- Masquerading with nftables. Rules are found by the identity alone.
def Masquerader.nft (ops : Firewall.Nft.Ops σ) : Masquerader σ where
  supported := ops.supported
  install := Nft.install ops
  teardown := fun _ identity => Nft.teardown ops identity

def Masquerader.within (get : σ → τ) (set : τ → σ → σ) (m : Masquerader τ) : Masquerader σ where
  supported := fun s =>
    let (b,t) := m.supported (get s)
    (b,set t s)
  install := fun nets identity => Step.within get set (m.install nets identity)
  teardown := fun nets identity => Step.within get set (m.teardown nets identity)

-- Rules are installed with one backend and removed from both, because either may have been used before.
structure Manager (σ : Type) where
  iptables : Masquerader σ
  nftables : Masquerader σ

namespace Manager

def of (m : Manager σ) : Backend → Masquerader σ
  | .iptables => m.iptables
  | .nftables => m.nftables

-- The backend to install with: the one asked for, else iptables unless only nftables can be used.
def select (m : Manager σ) : Option Backend → StateM σ Backend
  | some backend => pure backend
  | none => do
    if ← m.iptables.supported then return .iptables
    if ← m.nftables.supported then return .nftables
    return .iptables

def setup (m : Manager σ) (requested : Option Backend) (nets : List Subnet) (identity : Identity) :
    Step σ Error Unit := do
  let backend ← Step.ofState (m.select requested)
  (m.of backend).install nets identity

-- What went wrong while one backend removed its rules, unless the backend cannot be used.
def teardownOne (b : Masquerader σ) (nets : List Subnet) (identity : Identity) :
    Step σ Error (List String) := do
  match ← Step.attempt (b.teardown nets identity) with
  | .ok () => return []
  | .error e =>
    if ← Step.ofState b.supported then return [Error.message e] else return []

def teardown (m : Manager σ) (nets : List Subnet) (identity : Identity) : Step σ Error Unit := do
  let first ← teardownOne m.iptables nets identity
  let second ← teardownOne m.nftables nets identity
  let messages := first ++ second
  if messages.isEmpty then return ()
  throw (.teardown messages)

end Manager
end HostNet.Masquerade
