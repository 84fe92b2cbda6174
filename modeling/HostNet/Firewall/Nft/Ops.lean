import HostNet.Firewall.Nft.Script
import HostNet.Firewall.Tool

namespace HostNet.Firewall.Nft

-- What masquerading asks of nftables, over any state that can answer.
structure Ops (σ : Type) where
  supported : StateM σ Bool
  listRules : String → Step σ ToolError (List Listed)
  run : Transaction → Step σ ToolError Unit

end HostNet.Firewall.Nft
