import HostNet.Firewall.Iptables.Memory
import HostNet.Firewall.Nft.Memory
import HostNet.Proofs.AddressText

namespace HostNet.Firewall

-- What masquerading looks at: the addresses of a packet, which are of one family.
structure Packet where
  source : Address
  destination : Address
  sameFamily : destination.family = source.family
deriving DecidableEq

def Packet.family (p : Packet) : Family := p.source.family

-- The ends of the way through the chains. A packet that comes to neither is left as it is, too.
inductive Verdict where
  | left
  | masqueraded
deriving DecidableEq, Repr

namespace Iptables

-- A rule as the tool reads its arguments: what it asks of a packet, and where matching packets go.
structure Reading where
  matching : Packet → Bool
  target : Option String

def Reading.also (r : Reading) (condition : Packet → Bool) : Reading :=
  { r with matching := fun p => condition p && r.matching p }

-- Nets match by their leading bits, whatever the host bits. A comment asks nothing.
def readRule : Rule → Option Reading
  | [] => some ⟨fun _ => true,none⟩
  | "-s" :: net :: rest => do
    let n ← Subnet.parse? net
    return (← readRule rest).also fun p => n.contains p.source
  | "-d" :: net :: rest => do
    let n ← Subnet.parse? net
    return (← readRule rest).also fun p => n.contains p.destination
  | "!" :: "-d" :: net :: rest => do
    let n ← Subnet.parse? net
    return (← readRule rest).also fun p => !n.contains p.destination
  | "-m" :: "comment" :: "--comment" :: _ :: rest => readRule rest
  | "-j" :: target :: rest => do return { ← readRule rest with target := some target }
  | _ => none

-- Where a rule sends a packet, if it matches it.
def targetOf (p : Packet) (rule : Rule) : Option String :=
  match readRule rule with
  | some r => if r.matching p then r.target else none
  | none => none

-- Whether a rule sends packets to a chain, whatever it asks of them.
def goesTo (chain : String) (rule : Rule) : Prop := ∃ r, readRule rule = some r ∧ r.target = some chain

-- `call` goes through another chain and comes back if nothing there ended the way.
def verdictAt (call : String → Option Verdict) : String → Option Verdict
  | "ACCEPT" => some .left
  | "MASQUERADE" => some .masqueraded
  | chain => call chain

def walkRules (call : String → Option Verdict) (p : Packet) (rules : List Rule) : Option Verdict :=
  rules.findSome? fun rule => (targetOf p rule).bind (verdictAt call)

-- Chains that call each other in a circle are refused by the kernel, so no way is deeper than there are chains.
def walk (chains : Chains) (p : Packet) : Nat → String → Option Verdict
  | 0, _ => none
  | depth + 1, chain => walkRules (walk chains p depth) p ((chains.find? chain).getD [])

def Memory.masquerades (m : Memory) (p : Packet) : Prop :=
  walk (m.tables p.family natTable) p (m.tables p.family natTable).length postrouting = some .masqueraded

end Iptables

namespace Nft

-- `goto` does not come back. The words of other rules are not looked into.
def walkRules (go : String → Option Verdict) (p : Packet) : List Rule → Option Verdict
  | [] => none
  | .returnTo net :: rest => if net.contains p.destination then some .left else walkRules go p rest
  | .goto chain :: _ => go chain
  | .masquerade source inside :: rest =>
    if p.source = source ∧ inside.family = p.family ∧ !inside.contains p.destination then some .masqueraded
    else walkRules go p rest
  | .words _ :: rest => walkRules go p rest

def walk (r : Ruleset) (p : Packet) : Nat → String → Option Verdict
  | 0, _ => none
  | depth + 1, chain => walkRules (walk r p depth) p (((r.rules? chain).getD []).map Stored.rule)

def Ruleset.masquerades (r : Ruleset) (p : Packet) : Prop :=
  walk r p r.chains.length postroutingChain = some .masqueraded

end Nft
end HostNet.Firewall
