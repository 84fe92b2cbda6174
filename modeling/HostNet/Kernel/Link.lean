import HostNet.Subnet.Text

namespace HostNet.Kernel

inductive LinkKind where
  | bridge (filtering : Option Bool)
  | vlan (id : Nat)
  | veth
  | other (name : String)
  | device
deriving DecidableEq, Repr

def LinkKind.text : LinkKind → String
  | .bridge _ => "bridge"
  | .vlan _ => "vlan"
  | .veth => "veth"
  | .other name => name
  | .device => "device"

structure Link where
  index : Nat
  name : String
  mtu : Nat
  kind : LinkKind
  up : Bool
  promiscuous : Bool
  parent : Option Nat
deriving DecidableEq, Repr

structure LinkAddress where
  index : Nat
  net : Subnet
deriving DecidableEq, Repr

-- An entry of a routing table. Without a destination it is the default route.
structure Route where
  destination : Option Subnet
  gateway : Option Address
  output : Option Nat
  table : Nat
deriving DecidableEq, Repr

-- The VLANs of bridge ports, by the index of the port in ascending order.
abbrev PortVlans := List (Nat × List Nat)

def PortVlans.put (vlans : PortVlans) (index : Nat) (ids : List Nat) : PortVlans :=
  vlans.takeWhile (·.1 < index) ++ [(index,ids)] ++ (vlans.dropWhile (·.1 < index)).filter (·.1 != index)

-- A bridge to make or change. An MTU of zero and an absent switch leave the value to the kernel.
structure BridgeRequest where
  name : String
  mtu : Nat
  filtering : Option Bool
deriving DecidableEq, Repr

-- A VLAN interface to make or change. An MTU of zero is the parent's.
structure VlanRequest where
  name : String
  parent : Nat
  id : Nat
  mtu : Nat
deriving DecidableEq, Repr

inductive LinkRequest where
  | bridge (b : BridgeRequest)
  | vlan (v : VlanRequest)
deriving DecidableEq, Repr

def LinkRequest.name : LinkRequest → String
  | .bridge b => b.name
  | .vlan v => v.name

-- A listing, which may have been interrupted part-way.
structure Listing (α : Type) where
  value : α
  interrupted : Bool
deriving DecidableEq, Repr

def Listing.complete (value : α) : Listing α := ⟨value,false⟩

end HostNet.Kernel
