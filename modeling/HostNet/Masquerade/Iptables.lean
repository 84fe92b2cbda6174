import HostNet.Error
import HostNet.Firewall.Iptables.Ops
import HostNet.Masquerade.Identity
import HostNet.Subnet.Text

namespace HostNet.Masquerade.Iptables
open Firewall (ToolError)
open Firewall.Iptables

def commented (rule : Rule) (comment : String) : Rule :=
  rule ++ ["-m","comment","--comment",comment]

def acceptRule (net : Subnet) (comment : String) : Rule :=
  commented ["-d",net.text,"-j","ACCEPT"] comment

def masqueradeRule (family : Family) (comment : String) : Rule :=
  commented ["!","-d",(Subnet.multicast family).text,"-j","MASQUERADE"] comment

def jumpRule (source chain comment : String) : Rule :=
  commented ["-s",source,"-j",chain] comment

def failure (task : FirewallTask) (e : ToolError) : Error :=
  .firewall .iptables task e.message

-- Adds what is missing for one address. Packets from it are sent to the chain of the instance, which accepts what
-- stays inside a subnet and masquerades the rest, multicast excepted.
def setupNet (ops : Ops σ) (chain comment : String) (net : Subnet) : Step σ Error Unit := do
  let family := net.family
  let chains ← Step.mapError (failure .listChains) (ops.listChains family natTable)
  if !chains.contains chain then
    Step.mapError (failure (.createChain chain)) (ops.newChain family natTable chain)
  Step.mapError (failure (.appendAccept chain))
    (ops.appendUnique family natTable chain (acceptRule net comment))
  Step.mapError (failure (.appendMasquerade chain))
    (ops.appendUnique family natTable chain (masqueradeRule family comment))
  Step.mapError (failure (.appendJump chain))
    (ops.appendUnique family natTable postrouting (jumpRule net.text chain comment))

-- A step for which it is no failure that an object is not there.
def ignoreAbsent (x : Step σ ToolError Unit) : Step σ ToolError Unit := do
  match ← Step.attempt x with
  | .ok () => return ()
  | .error e => if e.isNotFound then return () else throw e

-- Removes what there is for one address. Its jump may have been written with the bare address.
def teardownNet (ops : Ops σ) (chain comment : String) (net : Subnet) : Step σ ToolError Unit := do
  let family := net.family
  ignoreAbsent (ops.delete family natTable postrouting (jumpRule net.address.text chain comment))
  ignoreAbsent (ops.delete family natTable postrouting (jumpRule net.text chain comment))
  ignoreAbsent (ops.clearChain family natTable chain)
  ignoreAbsent (ops.deleteChain family natTable chain)

-- Adds what is missing for each address, up to the first failure.
def install (ops : Ops σ) (nets : List Subnet) (identity : Identity) : Step σ Error Unit :=
  let chain := chainName identity.network identity.id
  let comment := chainComment identity.network identity.id
  nets.forM (setupNet ops chain comment)

-- What went wrong while the addresses were dealt with one after the other.
def teardownNets (ops : Ops σ) (chain comment : String) : List Subnet → Step σ Error (List String)
  | [] => return []
  | net :: rest => do
    let outcome ← Step.attempt (teardownNet ops chain comment net)
    let messages ← teardownNets ops chain comment rest
    match outcome with
    | .ok () => return messages
    | .error e => return e.message :: messages

-- Removes what there is for each address, whether or not that of the others could be removed.
def teardown (ops : Ops σ) (nets : List Subnet) (identity : Identity) : Step σ Error Unit := do
  let chain := chainName identity.network identity.id
  let messages ← teardownNets ops chain (chainComment identity.network identity.id) nets
  if messages.isEmpty then return ()
  throw (.firewall .iptables (.teardownChain chain) ("\n".intercalate messages))

end HostNet.Masquerade.Iptables
