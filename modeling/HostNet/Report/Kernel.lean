import HostNet.Kernel.Bridge
import HostNet.Kernel.Socket
import HostNet.Report.Basic

namespace HostNet.Kernel

def LinkKind.members : LinkKind → Members
  | .bridge filtering => [member "vlan_filtering" filtering]
  | .vlan id => [member "vlan_id" id]
  | .other _ => [member "other" true]
  | _ => []

def Link.members (l : Link) : Members :=
  [member "index" l.index,member "name" l.name,member "mtu" l.mtu,member "kind" l.kind.text,
    member "up" l.up,member "promisc" l.promiscuous,member "parent" l.parent] ++ l.kind.members

instance : Report Link := ⟨fun l => reportMembers l.members⟩

instance : Report Bridge where
  report b := reportMembers [member "name" b.link.name,member "index" b.link.index,member "mtu" b.link.mtu,
    member "filtering" b.filtering,member "link" b.link]

instance : Report LinkAddress where
  report a := reportMembers [member "index" a.index,member "net" a.net]

instance : Report Route where
  report r := reportMembers [member "dst" r.destination,member "gateway" r.gateway,member "oif" r.output,
    member "table" r.table]

instance : Report (Nat × List Nat) where
  report v := .list [report v.1,report v.2]

instance [Report α] : Report (Listing α) where
  report l := reportMembers [member "interrupted" l.interrupted,member "value" l.value]

def single [Report α] (key : String) (a : α) : Document := reportMembers [member key a]

instance : Report BridgeOption where
  report
    | .filtering on => single "vlan_filtering" on
    | .forwardDelay delay => single "forward_delay" delay

instance : Report VlanOption where
  report
    | .id id => single "id" id
    | .looseBinding on => single "loose" on

instance : Report TypeInfo where
  report
    | .name name => single "kind" name
    | .bridge options => single "bridge" options
    | .vlan options => single "vlan" options
    | .foreign => single "other" true
    | .port => single "port" true

instance : Report PortInfo where
  report
    | .vlan id => report id
    | .mode mode => single "mode" mode

instance : Report LinkAttribute where
  report
    | .name name => single "ifname" name
    | .alias name => single "alias" name
    | .mtu mtu => single "mtu" mtu
    | .parent index => single "link" index
    | .type info => single "info" info
    | .port info => single "vids" info
    | .request mask => single "ext_mask" mask

def familyNumber : Family → Nat
  | .v4 => 2
  | .v6 => 10

def LinkMessage.members (m : LinkMessage) : Members :=
  [member "family" (if m.asPort then 7 else 0),member "index" m.index,member "flags" m.flags,
    member "change" m.change,member "attrs" m.attributes]

def AddressMessage.members (m : AddressMessage) : Members :=
  [member "family" (familyNumber m.family),member "index" m.index,member "prefix" m.length,
    member "address" m.given?,member "local" m.own?]

def Request.members : Request → Members
  | .lookUpLink m | .listLinks m => member "type" "get_link" :: m.members
  | .createLink m | .replaceLink m => member "type" "new_link" :: m.members
  | .setLink m => member "type" "set_link" :: m.members
  | .deleteLink m => member "type" "del_link" :: m.members
  | .listAddresses => [member "type" "get_addr",member "family" 0]
  | .addAddress m => member "type" "new_addr" :: m.members
  | .listRoutes family => [member "type" "get_route",member "family" (familyNumber family)]

instance : Report Request where
  report r := reportMembers (r.members ++ [member "nl_flags" r.flags])

end HostNet.Kernel
