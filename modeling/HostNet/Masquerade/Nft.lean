import HostNet.Error
import HostNet.Firewall.Nft.Ops
import HostNet.Masquerade.Identity

namespace HostNet.Masquerade.Nft
open Firewall (ToolError)
open Firewall.Nft

-- The changes that make the table and its chains, with the rules that all instances share.
def frame : Transaction :=
  [.addTable (some "Masquerading for PETA bridge networks"),
    .addChain checksChain none
      (some "Masquerade traffic from certain IPs to any (non-multicast) IP outside their subnet"),
    .addChain postroutingChain (some ⟨"nat","postrouting","srcnat"⟩) none,
    .flushChain postroutingChain,
    .addRule postroutingChain (.returnTo (.multicast .v4)) none,
    .addRule postroutingChain (.returnTo (.multicast .v6)) none,
    .addRule postroutingChain (.goto checksChain) none]

def deletions (rules : List Listed) : Transaction :=
  rules.map fun r => .deleteRule r.chain r.handle

def ruleFor (net : Subnet) : Rule := .masquerade net.address net.trunc

-- The changes that put rules for the given addresses in the place of the instance's `stale` ones.
def installTransaction (nets : List Subnet) (identity : Identity) (stale : List Listed) : Transaction :=
  frame ++ deletions stale ++
    nets.map fun net => .addRule checksChain (ruleFor net) (some (instanceComment identity))

-- All instances share one chain. The rules of an instance are those with a comment that begins with its hash.
def isOwnedBy (hash : String) (rule : Listed) : Bool :=
  match rule.comment with
  | some c => hash.toList.isPrefixOf c.toList
  | none => false

-- The rules of an instance; none if the chain is not there yet.
def ownRules (ops : Ops σ) (hash : String) : Step σ ToolError (List Listed) := do
  match ← Step.attempt (ops.listRules checksChain) with
  | .ok rules => return rules.filter (isOwnedBy hash)
  | .error e => if e.isNotFound then return [] else throw e

def failure (task : FirewallTask) (e : ToolError) : Error :=
  .firewall .nftables task e.message

def install (ops : Ops σ) (nets : List Subnet) (identity : Identity) : Step σ Error Unit := do
  let stale ← Step.mapError (failure (.listRules identity.network)) (ownRules ops (instanceHash identity))
  Step.mapError (failure (.installRules identity.network)) (ops.run (installTransaction nets identity stale))

-- Deletes the instance's rules, if it has any.
def teardown (ops : Ops σ) (identity : Identity) : Step σ Error Unit := do
  let rules ← Step.mapError (failure (.listRules identity.network)) (ownRules ops (instanceHash identity))
  if rules.isEmpty then return ()
  Step.mapError (failure (.deleteRules identity.network)) (ops.run (deletions rules))

end HostNet.Masquerade.Nft
