import HostNet.Kernel.Driver

namespace HostNet.Kernel

-- Kinds of requests, each of which can be made to fail.
inductive RequestKind where
  | linkByName
  | links
  | addresses
  | routes
  | portVlans
  | addLink
  | modifyLink
  | setUp
  | setPromiscuous
  | deleteLink
  | addAddress
deriving DecidableEq, Repr

def RequestKind.names : List (String × RequestKind) := [
  ("link_by_name",.linkByName),
  ("link_list",.links),
  ("addr_list",.addresses),
  ("route_list",.routes),
  ("bridge_vlan_list",.portVlans),
  ("link_add",.addLink),
  ("link_modify",.modifyLink),
  ("link_set_up",.setUp),
  ("link_set_promisc_on",.setPromiscuous),
  ("link_del",.deleteLink),
  ("addr_add",.addAddress)]

def RequestKind.ofName? (name : String) : Option RequestKind := names.lookup name

-- The state. Links stand in ascending order of their indices; `interruptions` listings will look interrupted, and
-- `listings` were asked for so far.
structure Table where
  links : List Link
  addresses : List LinkAddress
  routes : List Route
  portVlans : PortVlans
  lastIndex : Nat
  interruptions : Nat
  listings : Nat
  refusals : List (RequestKind × OsError)
deriving DecidableEq, Repr

namespace Table

def empty : Table := ⟨[],[],[],[],0,0,0,[]⟩

instance : Inhabited Table := ⟨empty⟩

def defaultMtu : Nat := 1500

def named? (t : Table) (name : String) : Option Link := t.links.find? (·.name == name)

def indexed? (t : Table) (index : Nat) : Option Link := t.links.find? (·.index == index)

def insert (t : Table) (link : Link) : Table :=
  { t with
    links := t.links ++ [{ link with index := t.lastIndex + 1 }]
    lastIndex := t.lastIndex + 1 }

def insertDevice (t : Table) (name : String) (mtu : Nat) : Table :=
  t.insert ⟨0,name,mtu,.device,true,false,none⟩

def changeFirstLink (test : Link → Bool) (f : Link → Link) : List Link → List Link
  | [] => []
  | link :: rest => if test link then f link :: rest else link :: changeFirstLink test f rest

def changeFirst (t : Table) (test : Link → Bool) (f : Link → Link) : Table :=
  { t with links := changeFirstLink test f t.links }

def addressesOf (t : Table) (name : String) : List Subnet :=
  match t.named? name with
  | none => []
  | some link => (t.addresses.filter (·.index == link.index)).map LinkAddress.net

def refuse (e : OsError) : Except Error α := .error (.refused e)

def check (t : Table) (kind : RequestKind) : Except Error Unit :=
  match t.refusals.lookup kind with
  | some e => refuse e
  | none => .ok ()

def list (kind : RequestKind) (read : Table → Except Error α) : Step Table Error (Listing α) := fun t =>
  match t.check kind with
  | .error e => .error e t
  | .ok () =>
    let after := { t with listings := t.listings + 1,interruptions := t.interruptions - 1 }
    match read t with
    | .ok value => .ok ⟨value,t.interruptions != 0⟩ after
    | .error e => .error e after

def change (kind : RequestKind) (f : Table → Except Error Table) : Step Table Error Unit :=
  Step.update fun t => do
    t.check kind
    f t

-- Whether a route belongs to a family; the default route without a gateway is of the narrow one.
def routeFamily (r : Route) : Family :=
  match r.destination, r.gateway with
  | some net, _ => net.family
  | none, some gateway => gateway.family
  | none, none => .v4

def requested (t : Table) : LinkRequest → Except Error Link
  | .bridge b =>
    .ok ⟨0,b.name,if 0 < b.mtu then b.mtu else defaultMtu,.bridge (some (b.filtering.getD false)),false,
      false,none⟩
  | .vlan v =>
    match t.indexed? v.parent with
    | none => refuse .noDevice
    | some parent =>
      if parent.mtu < v.mtu then refuse .outOfRange
      else .ok ⟨0,v.name,if 0 < v.mtu then v.mtu else parent.mtu,.vlan v.id,false,false,
        some v.parent⟩

def addLink (request : LinkRequest) : Step Table Error Unit :=
  change .addLink fun t =>
    if (t.named? request.name).isSome then refuse .alreadyExists
    else do return t.insert (← t.requested request)

-- A link with what a request of its type asks for.
def modified? (link : Link) : LinkRequest → Option Link
  | .bridge b =>
    match link.kind with
    | .bridge filtering => some { link with
        mtu := if 0 < b.mtu then b.mtu else link.mtu
        kind := .bridge (b.filtering.or filtering) }
    | _ => none
  | .vlan v =>
    match link.kind with
    | .vlan _ => some { link with mtu := if 0 < v.mtu then v.mtu else link.mtu }
    | _ => none

-- Changes a link to what is asked for; a link of another type cannot be changed to it.
def modifyLink (request : LinkRequest) : Step Table Error Unit :=
  change .modifyLink fun t =>
    match t.named? request.name with
    | none => refuse .noDevice
    | some link =>
      match modified? link request with
      | none => refuse .notSupported
      | some link => .ok (t.changeFirst (·.name == request.name) fun _ => link)

def changeLink (kind : RequestKind) (index : Nat) (f : Link → Link) : Step Table Error Unit :=
  change kind fun t =>
    match t.indexed? index with
    | none => refuse .noDevice
    | some _ => .ok (t.changeFirst (·.index == index) f)

def deleteLink (index : Nat) : Step Table Error Unit :=
  change .deleteLink fun t =>
    match t.indexed? index with
    | none => refuse .noDevice
    | some _ => .ok { t with
        links := t.links.filter (·.index != index)
        addresses := t.addresses.filter (·.index != index)
        portVlans := t.portVlans.filter (·.1 != index) }

def addAddress (index : Nat) (net : Subnet) : Step Table Error Unit :=
  change .addAddress fun t =>
    match t.indexed? index with
    | none => refuse .noDevice
    | some _ =>
      if t.addresses.contains ⟨index,net⟩ then refuse .alreadyExists
      else .ok { t with addresses := t.addresses ++ [⟨index,net⟩] }

def driver : Driver Table where
  linkByName name := list .linkByName fun t =>
    match t.named? name with
    | some link => .ok link
    | none => refuse .noDevice
  links := list .links fun t => .ok t.links
  addresses index := list .addresses fun t =>
    .ok (t.addresses.filter fun a => match index with
      | none => true
      | some i => a.index == i)
  routes family := list .routes fun t => .ok (t.routes.filter fun r => routeFamily r == family)
  portVlans := list .portVlans fun t => .ok t.portVlans
  addLink := addLink
  modifyLink := modifyLink
  setUp index := changeLink .setUp index fun link => { link with up := true }
  setPromiscuous index := changeLink .setPromiscuous index fun link => { link with promiscuous := true }
  deleteLink := deleteLink
  addAddress := addAddress

end Table
end HostNet.Kernel
