import HostNet.Kernel.Message

namespace HostNet.Kernel

-- An attribute travels as a number and bytes, of which the number and how many bytes there are is kept. What they
-- mean depends on what surrounds it, and a message with an attribute that cannot be read is lost as a whole.
abbrev OptionForm := Nat × Nat

def BridgeOption.form : BridgeOption → OptionForm
  | .filtering _ => (7,1)
  | .forwardDelay _ => (1,4)

def VlanOption.form : VlanOption → OptionForm
  | .id _ => (1,2)
  | .looseBinding _ => (2,8)

-- The forms in which the options of a type are read. Options of other numbers are passed over.
def optionForms (type : String) : List OptionForm :=
  match type with
  | "bridge" => [(1,4),(2,4),(7,1)]
  | "vlan" => [(1,2),(2,8)]
  | "vxlan" => [(1,4),(2,4),(7,1)]
  | "bond" => [(1,1),(2,4),(7,4)]
  | "ipvlan" | "ipvtap" | "ipoib" => [(1,2),(2,2)]
  | "macvlan" | "macvtap" => [(1,4),(2,2)]
  | "ipip" => [(1,4),(2,4),(7,4)]
  | "ip6tnl" => [(1,4),(2,16),(7,4)]
  | "vrf" => [(1,4)]
  | "xfrm" => [(1,4),(2,4)]
  | "macsec" => [(1,8),(2,2),(7,1)]
  | "hsr" => [(1,4),(2,4),(7,1)]
  | "geneve" => [(1,4),(2,4),(7,16)]
  | _ => []

-- Whether options can be read as those of a type. The one option of a pair of links is a message about the other
-- link, under the number one.
def readsOptions (type : String) (forms : List OptionForm) : Bool :=
  if type = "veth" then forms.head?.any fun form => form.1 != 1
  else forms.all fun form => ((optionForms type).lookup form.1).all (· == form.2)

def TypeInfo.readAs? (type : String) (forms : List OptionForm) (data : TypeInfo) : Option TypeInfo :=
  if !readsOptions type forms then none
  else match type, data with
    | "bridge", .bridge options => some (.bridge options)
    | "bridge", _ => some (.bridge [])
    | "vlan", .vlan options => some (.vlan options)
    | "vlan", _ => some (.vlan [])
    | _, _ => some .foreign

-- What a link tells of its type, as it is read. Data are those of the type whose name stands before them; a name
-- serves once.
def receivedInfo (type : Option String) : List TypeInfo → Option (List TypeInfo)
  | [] => some []
  | .name name :: rest => (receivedInfo (some name) rest).map (.name name :: ·)
  | .port :: rest => (receivedInfo type rest).map (.port :: ·)
  | .bridge options :: rest => do
    let data ← TypeInfo.readAs? (← type) (options.map BridgeOption.form) (.bridge options)
    return data :: (← receivedInfo none rest)
  | .vlan options :: rest => do
    let data ← TypeInfo.readAs? (← type) (options.map VlanOption.form) (.vlan options)
    return data :: (← receivedInfo none rest)
  | .foreign :: rest => do
    let _ ← type
    return .foreign :: (← receivedInfo none rest)

def PortInfo.isVlan : PortInfo → Bool
  | .vlan _ => true
  | .mode _ => false

-- An attribute of a link as it is read. A list of entries has at least one, and those about VLANs can only be read of
-- a bridge port.
def LinkAttribute.received? (asPort : Bool) : LinkAttribute → Option LinkAttribute
  | .type info => if info.isEmpty then none else (receivedInfo none info).map .type
  | .port info =>
    if info.isEmpty || (!asPort && info.any PortInfo.isVlan) then none else some (.port info)
  | a => some a

def LinkMessage.received? (m : LinkMessage) : Option LinkMessage := do
  return { m with attributes := ← m.attributes.mapM (LinkAttribute.received? m.asPort) }

-- The four bytes in which a label travels as the last one of its stack, as an address.
def labelAddress (label : Nat) : Address := .ofNat .v4 (label * 4096 + 256)

def addressLabel (a : Address) : Nat := a.value / 4096

-- An attribute of a route as it is read. Addresses are those of the family of the message, which without a family has
-- labels in their place.
def RouteAttribute.received? (family : Option Family) : RouteAttribute → Option (List RouteAttribute)
  | .destination a =>
    match family with
    | some family => if a.family = family then some [.destination a] else none
    | none => if a.family = .v4 then some [.destinationLabel (addressLabel a)] else none
  | .destinationLabel label =>
    match family with
    | some .v4 => some [.destination (labelAddress label)]
    | some .v6 => none
    | none => some [.destinationLabel label]
  | .gateway a =>
    match family with
    | some family => if a.family = family then some [.gateway a] else none
    | none => if a.family = .v4 then some [] else none
  | a => some [a]

def RouteMessage.received? (m : RouteMessage) : Option RouteMessage := do
  return { m with attributes := (← m.attributes.mapM (RouteAttribute.received? m.family)).flatten }

def Content.received? : Content → Option Content
  | .link m => m.received?.map .link
  | .deletedLink m => m.received?.map .deletedLink
  | .route m => m.received?.map .route
  | c => some c

def Reply.received? (r : Reply) : Option Reply := do
  return { r with content := ← r.content.received? }

end HostNet.Kernel
