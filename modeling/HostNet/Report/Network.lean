import HostNet.Config.Plan
import HostNet.Document.Json.Writer
import HostNet.Report.Error

namespace HostNet.Config

instance : Report Plan where
  report p := reportMembers [
    member "network" p.network,member "bridge" p.bridge,member "mtu" p.mtu,member "promisc" p.promiscuous,
    member "hairpin" p.hairpin,member "is_gateway" p.isGateway,
    member "is_default_gateway" p.isDefaultGateway,member "vlan" p.vlan,member "vlans" p.vlans,
    member "vlan_filtering" p.filtering,member "preserve_default_vlan" p.preserveDefaultVlan,
    member "mac" p.mac,member "pod_cidrs" p.podSubnets,member "layer3" p.layer3,
    member "masquerade" p.masquerade,member "masq_backend" p.backend]

def Network.planReport (n : Network) : Document :=
  match n.plan with
  | .ok p => report p
  | .error fault => report (Error.config fault)

instance : Report Network where
  report n := reportMembers [
    member "text" n.toDocument.toJson,member "bridge_name" n.bridgeName,member "layer3" n.layer3,
    member "plan" n.planReport]

end HostNet.Config
