import HostNet.Kernel.Error
import HostNet.Kernel.Link

namespace HostNet.Kernel

inductive BridgeOption where
  | filtering (on : Bool)
  | forwardDelay (delay : Nat)
deriving DecidableEq, Repr

inductive VlanOption where
  | id (id : Nat)
  | looseBinding (on : Bool)
deriving DecidableEq, Repr

-- What a link tells of its type: its name, data of it, or whose port it is. Data of types that nothing is asked about
-- are not told apart.
inductive TypeInfo where
  | name (name : String)
  | bridge (options : List BridgeOption)
  | vlan (options : List VlanOption)
  | foreign
  | port
deriving DecidableEq, Repr

inductive PortInfo where
  | vlan (id : Nat)
  | mode (mode : Nat)
deriving DecidableEq, Repr

inductive LinkAttribute where
  | name (name : String)
  | alias (name : String)
  | mtu (mtu : Nat)
  | parent (index : Nat)
  | type (info : List TypeInfo)
  | port (info : List PortInfo)
  | request (mask : Nat)
deriving DecidableEq, Repr

-- A message about a link, or about a link as a bridge port.
structure LinkMessage where
  asPort : Bool
  index : Nat
  flags : Nat
  change : Nat
  attributes : List LinkAttribute
deriving DecidableEq, Repr

inductive AddressAttribute where
  | address (a : Address)
  | own (a : Address)
  | label (text : String)
deriving DecidableEq, Repr

structure AddressMessage where
  family : Family
  index : Nat
  length : Nat
  attributes : List AddressAttribute
deriving DecidableEq, Repr

-- An attribute of a route. A destination may be a label in place of an address.
inductive RouteAttribute where
  | destination (a : Address)
  | destinationLabel (label : Nat)
  | gateway (a : Address)
  | output (index : Nat)
  | table (table : Nat)
  | priority (priority : Nat)
deriving DecidableEq, Repr

structure RouteMessage where
  family : Option Family
  length : Nat
  table : Nat
  attributes : List RouteAttribute
deriving DecidableEq, Repr

def knownTypes : List (String × String) := [
  ("dummy","Dummy"),("ifb","Ifb"),("bridge","Bridge"),("tun","Tun"),("nlmon","Nlmon"),("vlan","Vlan"),
  ("veth","Veth"),("vxlan","Vxlan"),("bond","Bond"),("ipvlan","IpVlan"),("ipvtap","IpVtap"),
  ("macvlan","MacVlan"),("macvtap","MacVtap"),("gretap","GreTap"),("ip6gretap","GreTap6"),
  ("ipip","IpIp"),("ip6tnl","Ip6Tnl"),("sit","SitTun"),("gre","GreTun"),("ip6gre","GreTun6"),
  ("vti","Vti"),("vrf","Vrf"),("gtp","Gtp"),("ipoib","Ipoib"),("wireguard","Wireguard"),
  ("xfrm","Xfrm"),("macsec","MacSec"),("hsr","Hsr"),("geneve","Geneve"),("netkit","Netkit")]

-- The type of a link with its data, which count only if they are data of that type.
def LinkKind.ofInfo (name : Option String) (data : Option TypeInfo) : LinkKind :=
  match name with
  | none => .device
  | some "bridge" =>
    match data with
    | some (.bridge options) => .bridge (options.findSome? fun
      | .filtering on => some on
      | _ => none)
    | _ => .bridge none
  | some "vlan" =>
    match data with
    | some (.vlan options) => .vlan ((options.findSome? fun
      | .id id => some id
      | _ => none).getD 0)
    | _ => .vlan 0
  | some "veth" => .veth
  | some name => .other (((knownTypes.lookup name).map String.toLower).getD name)

-- Of attributes of one kind the last one counts, so the order of attributes of different kinds does not matter.
def lastOf (read : α → Option β) (items : List α) : Option β := items.reverse.findSome? read

def TypeInfo.name? : TypeInfo → Option String
  | .name text => some text
  | _ => none

def TypeInfo.data? : TypeInfo → Option TypeInfo
  | .bridge options => some (.bridge options)
  | .vlan options => some (.vlan options)
  | .foreign => some .foreign
  | _ => none

def LinkKind.ofInfos (info : List TypeInfo) : LinkKind :=
  .ofInfo (lastOf TypeInfo.name? info) (lastOf TypeInfo.data? info)

namespace LinkAttribute

def name? : LinkAttribute → Option String
  | .name text => some text
  | _ => none

def mtu? : LinkAttribute → Option Nat
  | .mtu n => some n
  | _ => none

def parent? : LinkAttribute → Option Nat
  | .parent index => some index
  | _ => none

def kind? : LinkAttribute → Option LinkKind
  | .type info => some (.ofInfos info)
  | _ => none

def portVlans : LinkAttribute → List Nat
  | .port info => info.filterMap fun
    | .vlan id => some id
    | .mode _ => none
  | _ => []

end LinkAttribute

def upFlag : Nat := 1

def promiscuousFlag : Nat := 256

def LinkMessage.link (m : LinkMessage) : Link where
  index := m.index
  name := (lastOf LinkAttribute.name? m.attributes).getD ""
  mtu := (lastOf LinkAttribute.mtu? m.attributes).getD 0
  kind := (lastOf LinkAttribute.kind? m.attributes).getD .device
  up := m.flags &&& upFlag != 0
  promiscuous := m.flags &&& promiscuousFlag != 0
  parent := lastOf LinkAttribute.parent? m.attributes

def LinkMessage.portVlans? (m : LinkMessage) : Option (Nat × List Nat) :=
  match m.attributes.flatMap LinkAttribute.portVlans with
  | [] => none
  | ids => some (m.index,ids)

def subnet? (a : Address) (length : Nat) : Option Subnet :=
  if h : length ≤ a.family.width then some ⟨a,length,h⟩ else none

def AddressMessage.own? (m : AddressMessage) : Option Address :=
  lastOf (fun | .own a => some a | _ => none) m.attributes

def AddressMessage.given? (m : AddressMessage) : Option Address :=
  lastOf (fun | .address a => some a | _ => none) m.attributes

-- The address that a message tells of. On a link between two points the address without a mark is the other end's.
def AddressMessage.linkAddress? (m : AddressMessage) : Option LinkAddress := do
  return ⟨m.index,← subnet? (← m.own?.or m.given?) m.length⟩

def RouteMessage.route (m : RouteMessage) : Route where
  destination := (lastOf (fun
    | .destination a => some (subnet? a m.length)
    | .destinationLabel _ => some none
    | _ => none) m.attributes).join
  gateway := lastOf (fun | .gateway a => some a | _ => none) m.attributes
  output := lastOf (fun | .output index => some index | _ => none) m.attributes
  table := (lastOf (fun | .table table => some table | _ => none) m.attributes).getD m.table

def LinkMessage.ofAttributes (attributes : List LinkAttribute) : LinkMessage := ⟨false,0,0,0,attributes⟩

def mtuAttribute (mtu : Nat) : List LinkAttribute := if mtu = 0 then [] else [.mtu mtu]

def LinkRequest.message : LinkRequest → LinkMessage
  | .bridge b =>
    let options := match b.filtering with
      | none => []
      | some on => [.bridge [.filtering on]]
    .ofAttributes (.name b.name :: mtuAttribute b.mtu ++ [.type (.name "bridge" :: options)])
  | .vlan v =>
    .ofAttributes (.name v.name :: .parent v.parent :: mtuAttribute v.mtu ++
      [.type [.name "vlan",.vlan [.id v.id]]])

def LinkMessage.setting (index flag : Nat) : LinkMessage := ⟨false,index,flag,flag,[]⟩

def LinkMessage.portListing : LinkMessage := ⟨true,0,0,0,[.request 2]⟩

def isMulticast (a : Address) : Bool := (Subnet.multicast a.family).contains a

-- The message that gives a link an address. A multicast address is joined, not assigned.
def AddressMessage.adding (index : Nat) (net : Subnet) : AddressMessage :=
  ⟨net.family,index,net.length,
    if isMulticast net.address then [] else [.address net.address,.own net.address]⟩

-- What the kernel sends. An error of zero is an acknowledgement. Of a message of another kind only its number, its
-- size and how it is shown are known.
inductive Content where
  | link (m : LinkMessage)
  | deletedLink (m : LinkMessage)
  | address (m : AddressMessage)
  | route (m : RouteMessage)
  | other (number size : Nat) (shown : String)
  | error (reason : OsError)
  | done
deriving DecidableEq, Repr

-- A reply, which may say that the listing it belongs to was interrupted.
structure Reply where
  content : Content
  interrupted : Bool
deriving DecidableEq, Repr

namespace Content

def failure? : Content → Option Error
  | .error reason => if reason.code = 0 then none else some (.ofReason reason)
  | _ => none

def link? : Content → Option Link
  | .link m => some m.link
  | _ => none

def portVlans? : Content → Option (Nat × List Nat)
  | .link m => m.portVlans?
  | _ => none

def linkAddress? (index : Option Nat) : Content → Option LinkAddress
  | .address m => m.linkAddress?.filter fun a => index.all (· == a.index)
  | _ => none

def route? : Content → Option Route
  | .route m => some m.route
  | _ => none

end Content

-- Collects what replies to a listing tell. It fails with the first failure, except that an interruption only marks
-- the listing.
def collect (read : Content → Option α) : List Reply → Except Error (Listing (List α))
  | [] => .ok (.complete [])
  | r :: rest =>
    match r.content.failure? with
    | some .interrupted => do return { ← collect read rest with interrupted := true }
    | some e => .error e
    | none => do
      let later ← collect read rest
      return ⟨(read r.content).toList ++ later.value,r.interrupted || later.interrupted⟩

end HostNet.Kernel
