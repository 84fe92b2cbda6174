import HostNet.Address.Text
import HostNet.Kernel.Message
import HostNet.Text.Quoted

namespace HostNet.Kernel

-- Replies are described for those who have to find out why one was sent: headers and attributes with their fields
-- under their names.
abbrev DescribedFields := List (String × String)

def describeRecord (name : String) (fields : DescribedFields) : String :=
  name ++ " \x7b " ++ ", ".intercalate (fields.map fun f => f.1 ++ ": " ++ f.2) ++ " \x7d"

def describeValue (name value : String) : String := name ++ "(" ++ value ++ ")"

def describeList (items : List String) : String := "[" ++ ", ".intercalate items ++ "]"

def describeFamily : Family → String
  | .v4 => "Inet"
  | .v6 => "Inet6"

def flagNames : List String := [
  "Up","Broadcast","Debug","Loopback","Pointopoint","Notrailers","Running","Noarp","Promisc","Allmulti",
  "Controller","Port","Multicast","Portsel","Automedia","Dynamic","LowerUp","Dormant","Echo"]

-- The flags of a link by their names, and the bits that have none as a number.
def describeFlags (flags : Nat) : String :=
  let named := (flagNames.zipIdx.filter fun f => flags.testBit f.2).map Prod.fst
  let rest := (flags >>> flagNames.length) <<< flagNames.length
  let unnamed := if rest = 0 then [] else ["0x" ++ String.ofList (Text.Hex.ofNat rest)]
  let shown := named ++ unnamed
  describeValue "LinkFlags" (if shown.isEmpty then "0x0" else " | ".intercalate shown)

-- An attribute takes four bytes and its content, in multiples of four.
def attributeSize (content : Nat) : Nat := 4 + (content + 3) / 4 * 4

def textSize (text : String) : Nat := text.utf8ByteSize + 1

def addressSize (a : Address) : Nat := a.family.width / 8

namespace TypeInfo

def size : TypeInfo → Nat
  | .name text => attributeSize (textSize text)
  | .bridge options => attributeSize (8 * options.length)
  | .vlan options => attributeSize (8 * options.length)
  | .foreign | .port => attributeSize 0

def describe : TypeInfo → String
  | .name text =>
    describeValue "Kind" ((knownTypes.lookup text).getD (describeValue "Other" (Text.quoted text)))
  | .bridge options => describeValue "Data" (describeValue "Bridge" (describeList (options.map fun
      | .filtering on => describeValue "VlanFiltering" (toString on)
      | .forwardDelay delay => describeValue "ForwardDelay" (toString delay))))
  | .vlan options => describeValue "Data" (describeValue "Vlan" (describeList (options.map fun
      | .id id => describeValue "Id" (toString id)
      | .looseBinding _ => "Flags")))
  | .foreign => describeValue "Data" "Other"
  | .port => "PortKind"

end TypeInfo

namespace LinkAttribute

def size : LinkAttribute → Nat
  | .name text | .alias text => attributeSize (textSize text)
  | .mtu _ | .parent _ | .request _ => attributeSize 4
  | .type info => attributeSize ((info.map TypeInfo.size).foldl (· + ·) 0)
  | .port info => attributeSize (8 * info.length)

def describe : LinkAttribute → String
  | .name text => describeValue "IfName" (Text.quoted text)
  | .alias text => describeValue "IfAlias" (Text.quoted text)
  | .mtu n => describeValue "Mtu" (toString n)
  | .parent index => describeValue "Link" (toString index)
  | .request _ => describeValue "ExtMask" "[Brvlan]"
  | .type info => describeValue "LinkInfo" (describeList (info.map TypeInfo.describe))
  | .port info => describeValue "AfSpecBridge" (describeList (info.map fun
      | .vlan id => describeValue "VlanInfo" (describeRecord "BridgeVlanInfo"
          [("flags","BridgeVlanInfoFlags(0x0)"),("vid",toString id)])
      | .mode mode => describeValue "Mode" (toString mode)))

end LinkAttribute

def LinkMessage.describe (m : LinkMessage) : String :=
  describeRecord "LinkMessage" [
    ("header",describeRecord "LinkHeader" [
      ("interface_family",if m.asPort then "Bridge" else "Unspec"),("index",toString m.index),
      ("link_layer_type","Netrom"),("flags",describeFlags m.flags),
      ("change_mask",describeFlags m.change)]),
    ("attributes",describeList (m.attributes.map LinkAttribute.describe))]

def LinkMessage.size (m : LinkMessage) : Nat := 16 + (m.attributes.map LinkAttribute.size).foldl (· + ·) 0

def AddressMessage.describe (m : AddressMessage) : String :=
  describeRecord "AddressMessage" [
    ("header",describeRecord "AddressHeader" [
      ("family",describeFamily m.family),("prefix_len",toString m.length),
      ("flags","AddressHeaderFlags(0x0)"),("scope","Universe"),("index",toString m.index)]),
    ("attributes",describeList (m.attributes.map fun
      | .address a => describeValue "Address" a.text
      | .own a => describeValue "Local" a.text
      | .label text => describeValue "Label" (Text.quoted text)))]

def AddressMessage.size (m : AddressMessage) : Nat :=
  8 + (m.attributes.map fun
    | .address a | .own a => attributeSize (addressSize a)
    | .label text => attributeSize (textSize text)).foldl (· + ·) 0

def describeRouteAddress (a : Address) : String := describeValue (describeFamily a.family) a.text

def RouteMessage.describe (m : RouteMessage) : String :=
  describeRecord "RouteMessage" [
    ("header",describeRecord "RouteHeader" [
      ("address_family",(m.family.map describeFamily).getD "Mpls"),
      ("destination_prefix_length",toString m.length),("source_prefix_length","0"),("tos","0"),
      ("table",toString m.table),("protocol","Unspec"),("scope","Universe"),("kind","Unspec"),
      ("flags","RouteFlags(0x0)")]),
    ("attributes",describeList (m.attributes.map fun
      | .destination a => describeValue "Destination" (describeRouteAddress a)
      | .destinationLabel label => describeValue "Destination" (describeValue "Mpls" (toString label))
      | .gateway a => describeValue "Gateway" (describeRouteAddress a)
      | .output index => describeValue "Oif" (toString index)
      | .table table => describeValue "Table" (toString table)
      | .priority priority => describeValue "Priority" (toString priority)))]

def RouteMessage.size (m : RouteMessage) : Nat :=
  12 + (m.attributes.map fun
    | .destination a | .gateway a => attributeSize (addressSize a)
    | .destinationLabel _ | .output _ | .table _ | .priority _ => attributeSize 4).foldl (· + ·) 0

def Content.described : Content → Nat × Nat × String
  | .link m => (16,m.size,describeValue "NewLink" m.describe)
  | .deletedLink m => (17,m.size,describeValue "DelLink" m.describe)
  | .address m => (20,m.size,describeValue "NewAddress" m.describe)
  | .route m => (24,m.size,describeValue "NewRoute" m.describe)
  | .other number size shown => (number,size,shown)
  | .error _ => (2,4,"Error")
  | .done => (3,4,"Done")

def Reply.describe (r : Reply) (request : Nat) : String :=
  let (number,size,content) := r.content.described
  describeRecord "NetlinkMessage" [
    ("header",describeRecord "NetlinkHeader" [
      ("length",toString (16 + size)),("message_type",toString number),
      ("flags",if r.interrupted then "16" else "0"),("sequence_number",toString request),
      ("port_number","0")]),
    ("payload",describeValue "InnerMessage" content)]

end HostNet.Kernel
