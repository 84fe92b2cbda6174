import HostNet.Files.Basic
import HostNet.Firewall.Tool
import HostNet.Ipam.Error
import HostNet.Kernel.Error
import HostNet.Text.Base64

namespace HostNet

inductive TrunkFault where
  | lowest
  | highest
  | order
  | noLowest
  | noHighest
  | single
deriving DecidableEq, Repr

def TrunkFault.message : TrunkFault → String
  | .lowest => "incorrect trunk minID parameter"
  | .highest => "incorrect trunk maxID parameter"
  | .order => "minID is greater than maxID in trunk parameter"
  | .noLowest => "minID and maxID should be configured simultaneously, minID is missing"
  | .noHighest => "minID and maxID should be configured simultaneously, maxID is missing"
  | .single => "incorrect trunk id parameter"

inductive ConfigFault where
  | vlanId (id : Int)
  | trunk (fault : TrunkFault)
  | mac (text : String)
  | ipamWithoutInterface
  | hairpinAndPromiscuous
  | podSubnet (text : String)
  | backend (name : String)
  | otherNetwork (path declared expected : String)
  | noMaster
  | vlanTag (id : Int)
  | vlanMtu (mtu : Int) (limit : Nat)
deriving DecidableEq, Repr

def ConfigFault.message : ConfigFault → String
  | .vlanId id => s!"invalid VLAN ID {id} (must be between 0 and 4094)"
  | .trunk fault => "failed to parse vlan trunks: " ++ fault.message
  | .mac text => "invalid runtime MAC address " ++ Text.quoted text
  | .ipamWithoutInterface => "cannot use IPAM when DisableContainerInterface flag is set"
  | .hairpinAndPromiscuous => "cannot set hairpin mode and promiscuous mode at the same time"
  | .podSubnet text => "error parsing subnet " ++ Text.quoted text ++ ": invalid IP address syntax"
  | .backend name => "unsupported ip backend: " ++ name
  | .otherNetwork path declared expected =>
    path ++ " declares network " ++ Text.quoted declared ++ ", expected " ++ Text.quoted expected
  | .noMaster =>
    "\"master\" field is required. It specifies the host interface name to create the VLAN for"
  | .vlanTag id => s!"invalid VLAN ID {id} (must be between 0 and 4094 inclusive)"
  | .vlanMtu mtu limit => s!"invalid MTU {mtu}, must be [0, master MTU({limit})]"

inductive KernelTask where
  | lookupLink
  | listAddresses
  | deleteLink
  | createVlan
  | createBridge
  | modifyBridge
  | setPromiscuous
  | setUp
  | addGateway
deriving DecidableEq, Repr

def KernelTask.text : KernelTask → String
  | .lookupLink => "lookup link"
  | .listAddresses => "list addresses"
  | .deleteLink => "delete link"
  | .createVlan => "create vlan"
  | .createBridge => "create bridge"
  | .modifyBridge => "modify bridge"
  | .setPromiscuous => "set promiscuous mode"
  | .setUp => "set bridge up"
  | .addGateway => "add gateway address"

inductive FirewallTask where
  | listChains
  | createChain (chain : String)
  | appendAccept (chain : String)
  | appendMasquerade (chain : String)
  | appendJump (chain : String)
  | teardownChain (chain : String)
  | listRules (network : String)
  | installRules (network : String)
  | deleteRules (network : String)
deriving DecidableEq, Repr

def FirewallTask.text : FirewallTask → String
  | .listChains => "list nat chains"
  | .createChain chain => "create nat chain " ++ chain
  | .appendAccept chain => "append accept rule to " ++ chain
  | .appendMasquerade chain => "append masquerade rule to " ++ chain
  | .appendJump chain => "append POSTROUTING jump to " ++ chain
  | .teardownChain chain => "teardown chain " ++ chain
  | .listRules network => "list masquerade rules for network " ++ Text.quoted network
  | .installRules network => "install masquerade rules for network " ++ Text.quoted network
  | .deleteRules network => "delete masquerade rules for network " ++ Text.quoted network

-- One cause for each way in which the provisioning of a network can go wrong.
inductive Error where
  | config (fault : ConfigFault)
  | kernel (task : KernelTask) (target : String) (cause : Kernel.Error)
  | linkNotFound (name : String)
  | notABridge (name kind : String)
  | sysctl (key : String) (cause : Files.Error)
  | firewall (backend : Firewall.Backend) (task : FirewallTask) (message : String)
  | teardown (messages : List String)
  | ipam (cause : Ipam.Error)
  | file (cause : Files.Error)
  | snapshotData (cause : Text.Base64.Error)
  | malformed
deriving DecidableEq, Repr

namespace Error

def message : Error → String
  | .config fault => "Invalid network configuration: " ++ fault.message
  | .kernel task target cause =>
    task.text ++ " " ++ Text.quoted target ++ " failed: " ++ cause.message
  | .linkNotFound name => "Link not found: " ++ name
  | .notABridge name kind =>
    Text.quoted name ++ " already exists but is not a bridge (kind: " ++ kind ++ ")"
  | .sysctl key cause => "sysctl " ++ key ++ " failed: " ++ cause.message
  | .firewall backend task text => backend.name ++ " " ++ task.text ++ " failed: " ++ text
  | .teardown messages => "masquerade teardown failed:\n" ++ "\n".intercalate messages
  | .ipam cause => cause.message
  | .file cause => "I/O error: " ++ cause.message
  | .snapshotData cause => "Serialization error: invalid snapshot data: " ++ cause.message
  | .malformed => "Serialization error"

def code : Error → String
  | .config _ => "peta::network::config"
  | .kernel _ _ _ => "peta::network::netlink"
  | .linkNotFound _ => "peta::network::link_not_found"
  | .notABridge _ _ => "peta::network::not_a_bridge"
  | .sysctl _ _ => "peta::network::sysctl"
  | .firewall _ _ _ => "peta::network::firewall"
  | .teardown _ => "peta::network::teardown"
  | .ipam cause => cause.code
  | .file _ => "peta::io"
  | .snapshotData _ | .malformed => "peta::serialization"

def help : Error → Option String
  | .notABridge _ _ => some "Delete the existing link or choose a different bridge name"
  | _ => none

def isLinkNotFound : Error → Bool
  | .linkNotFound _ => true
  | _ => false

end Error
end HostNet
