import HostNet.Address.Basic
import HostNet.Firewall.Tool

namespace HostNet.Firewall.Iptables

def natTable : String := "nat"

def postrouting : String := "POSTROUTING"

-- A rule as the list of its arguments, without table and chain.
abbrev Rule := List String

-- What masquerading asks of iptables, over any state that can answer.
structure Ops (σ : Type) where
  supported : StateM σ Bool
  listChains : Family → String → Step σ ToolError (List String)
  newChain : Family → String → String → Step σ ToolError Unit
  appendUnique : Family → String → String → Rule → Step σ ToolError Unit
  delete : Family → String → String → Rule → Step σ ToolError Unit
  clearChain : Family → String → String → Step σ ToolError Unit
  deleteChain : Family → String → String → Step σ ToolError Unit

end HostNet.Firewall.Iptables
