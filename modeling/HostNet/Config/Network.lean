import HostNet.Config.AddressManagement
import HostNet.Config.Switches
import HostNet.Config.Trunk
import HostNet.Document.Json.Reader
import HostNet.Document.Record

namespace HostNet.Config

-- A network as it is declared. Empty texts and zeros stand for what is left open.
structure Network where
  cniVersion : String
  name : String
  kind : String
  capabilities : Switches
  management : AddressManagement
  bridge : String
  isGateway : Bool
  isDefaultGateway : Bool
  forceAddress : Bool
  masquerade : Bool
  masqueradeBackend : Option String
  mtu : UInt32
  hairpin : Bool
  promiscuous : Bool
  vlan : Int64
  trunk : Option (List TrunkEntry)
  preserveDefaultVlan : Bool
  checkMacSpoofing : Bool
  detectDuplicates : Bool
  withoutInterface : Bool
  portIsolation : Bool
  requestedMac : String
  runtimeMac : String
deriving DecidableEq, Repr

namespace Network

def sharedKeys : List String := ["cniVersion","name","type","capabilities","ipam"]

-- The keys of what bridge networks have. The backend has two spellings.
def bridgeKeys : List String :=
  ["bridge","isGateway","isDefaultGateway","forceAddress","ipMasq","ipMasqBackend","IPMasqBackend",
    "mtu","hairpinMode","promiscMode","vlan","vlanTrunk","preserveDefaultVlan","macspoofchk",
    "enabledad","disableContainerInterface","portIsolation","args","runtimeConfig"]

def unlessEmpty (key value : String) : Option (String × Document) :=
  if value.isEmpty then none else some (key,.ofString value)

def whenOn (key : String) (on : Bool) : Option (String × Document) :=
  if on then some (key,.bool true) else none

def macDocument (mac : String) : Document := .ofPresent [unlessEmpty "mac" mac]

def macOfDocument? (d : Document) : Option String := do
  (← d.fields? ["mac"] 0).withDefault "mac" "" Document.asText?

def argumentsMac? (d : Document) : Option String := do
  (← d.fields? ["cni"] 0).withDefault "cni" "" macOfDocument?

def toDocument (n : Network) : Document :=
  .ofPresent [
    unlessEmpty "cniVersion" n.cniVersion,
    unlessEmpty "name" n.name,
    unlessEmpty "type" n.kind,
    if n.capabilities.entries.isEmpty then none else some ("capabilities",n.capabilities.toDocument),
    some ("ipam",n.management.toDocument),
    some ("bridge",.ofString n.bridge),
    some ("isGateway",.bool n.isGateway),
    some ("isDefaultGateway",.bool n.isDefaultGateway),
    some ("forceAddress",.bool n.forceAddress),
    some ("ipMasq",.bool n.masquerade),
    n.masqueradeBackend.map (("ipMasqBackend",.ofString ·)),
    some ("mtu",.ofUInt32 n.mtu),
    some ("hairpinMode",.bool n.hairpin),
    some ("promiscMode",.bool n.promiscuous),
    some ("vlan",.ofInt64 n.vlan),
    n.trunk.map fun entries => ("vlanTrunk",.ofList TrunkEntry.toDocument entries),
    some ("preserveDefaultVlan",.bool n.preserveDefaultVlan),
    whenOn "macspoofchk" n.checkMacSpoofing,
    whenOn "enabledad" n.detectDuplicates,
    whenOn "disableContainerInterface" n.withoutInterface,
    whenOn "portIsolation" n.portIsolation,
    some ("args",.ofMembers [("cni",macDocument n.requestedMac)]),
    some ("runtimeConfig",macDocument n.runtimeMac)]

-- The backend, which may stand under one of its two keys.
def backendOfFields? (fields : Document.Fields) : Option (Option String) :=
  match fields "ipMasqBackend", fields "IPMasqBackend" with
  | some _, some _ => none
  | some d, none | none, some d => d.asOption? Document.asText?
  | none, none => some none

def ofMembers? (members : List (Option String × Document)) : Option Network := do
  let fields ← Document.fieldsOfObject? (sharedKeys ++ bridgeKeys) members
  let text (key : String) := fields.withDefault key "" Document.asText?
  let switch (key : String) := fields.withDefault key false Document.asBool?
  return {
    cniVersion := ← text "cniVersion"
    name := ← text "name"
    kind := ← text "type"
    capabilities := ← fields.withDefault "capabilities" .empty Switches.ofDocument?
    management := ← fields.withDefault "ipam" .none AddressManagement.ofDocument?
    bridge := ← text "bridge"
    isGateway := ← switch "isGateway"
    isDefaultGateway := ← switch "isDefaultGateway"
    forceAddress := ← switch "forceAddress"
    masquerade := ← switch "ipMasq"
    masqueradeBackend := ← backendOfFields? fields
    mtu := ← fields.withDefault "mtu" 0 Document.asUInt32?
    hairpin := ← switch "hairpinMode"
    promiscuous := ← switch "promiscMode"
    vlan := ← fields.withDefault "vlan" 0 Document.asInt64?
    trunk := ← fields.optional "vlanTrunk" (Document.asList? TrunkEntry.ofDocument?)
    preserveDefaultVlan := ← switch "preserveDefaultVlan"
    checkMacSpoofing := ← switch "macspoofchk"
    detectDuplicates := ← switch "enabledad"
    withoutInterface := ← switch "disableContainerInterface"
    portIsolation := ← switch "portIsolation"
    requestedMac := ← fields.withDefault "args" "" argumentsMac?
    runtimeMac := ← fields.withDefault "runtimeConfig" "" macOfDocument? }

def ofDocument? : Document → Option Network
  | .object members => ofMembers? members
  | _ => none

-- Whether what stands under keys that are not those of bridge networks is legible, one level below the top.
def isLegibleBeyondBridge (members : List (Option String × Document)) : Bool :=
  members.all fun m =>
    m.1.any bridgeKeys.contains || m.2.isLegible (Document.Json.maxDepth - 1)

-- The declaration in a text of JSON. What is no key of bridge networks has to be legible too.
def ofJson? (text : String) : Option Network :=
  match Document.Json.read? text with
  | some (.object members) => if isLegibleBeyondBridge members then ofMembers? members else none
  | _ => none

end Network
end HostNet.Config
