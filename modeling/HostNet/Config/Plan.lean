import HostNet.Config.Mac
import HostNet.Config.Network
import HostNet.Subnet.Text

namespace HostNet.Config
open Firewall (Backend)

-- What a declared network asks for, with every choice made. There is none for a declaration with a fault.
structure Plan where
  network : String
  bridge : String
  mtu : Nat
  promiscuous : Bool
  hairpin : Bool
  isGateway : Bool
  isDefaultGateway : Bool
  vlan : Nat
  vlans : List Nat
  filtering : Bool
  preserveDefaultVlan : Bool
  mac : Option String
  podSubnets : List Subnet
  layer3 : Bool
  masquerade : Bool
  backend : Option Backend
deriving DecidableEq, Repr

def defaultBridge : String := "br0"

namespace Network

def bridgeName (n : Network) : String := if n.bridge.isEmpty then defaultBridge else n.bridge

def layer3 (n : Network) : Bool := !n.management.kind.isEmpty

-- Whether the VLAN id is one that a port can have, where zero is none.
def hasVlanId (n : Network) : Bool := 0 ≤ n.vlan.toInt && n.vlan.toInt ≤ largestVlan

def vlans (n : Network) : Except ConfigFault (List Nat) :=
  match n.trunk with
  | none => .ok []
  | some entries => (expandTrunk entries).mapError .trunk

def mac (n : Network) : Except ConfigFault (Option String) :=
  if n.runtimeMac.isEmpty then .ok none
  else if (macBytes? n.runtimeMac).isSome then .ok (some n.runtimeMac)
  else .error (.mac n.runtimeMac)

def podSubnet (text : String) : Except ConfigFault Subnet :=
  match Subnet.parse? text with
  | some net => .ok net
  | none => .error (.podSubnet text)

-- The subnets for pods, which count only if the bridge has addresses.
def podSubnets (n : Network) : Except ConfigFault (List Subnet) :=
  if n.layer3 then n.management.podSubnets.mapM podSubnet else .ok []

def backend (n : Network) : Except ConfigFault (Option Backend) :=
  match n.masqueradeBackend with
  | none => .ok none
  | some name =>
    match Backend.ofName? name with
    | some backend => .ok (some backend)
    | none => .error (.backend name)

-- The choices for the network, or the first fault of its declaration.
def plan (n : Network) : Except ConfigFault Plan := do
  if !n.hasVlanId then throw (.vlanId n.vlan.toInt)
  let vlans ← n.vlans
  let mac ← n.mac
  if n.layer3 && n.withoutInterface then throw .ipamWithoutInterface
  if n.hairpin && n.promiscuous then throw .hairpinAndPromiscuous
  let podSubnets ← n.podSubnets
  let backend ← n.backend
  return {
    network := n.name
    bridge := n.bridgeName
    mtu := n.mtu.toNat
    promiscuous := n.promiscuous
    hairpin := n.hairpin
    isGateway := n.isGateway || n.isDefaultGateway
    isDefaultGateway := n.isDefaultGateway
    vlan := n.vlan.toInt.toNat
    vlans
    filtering := n.vlan != 0 || n.trunk.isSome
    preserveDefaultVlan := n.preserveDefaultVlan
    mac
    podSubnets
    layer3 := n.layer3
    masquerade := n.masquerade
    backend }

end Network
end HostNet.Config
