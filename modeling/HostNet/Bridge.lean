import HostNet.Config.Plan
import HostNet.Kernel.Bridge
import HostNet.Services
import HostNet.Subnet.Gateway

namespace HostNet.Bridge
open Config (Plan Network)

def request (p : Plan) : Kernel.LinkRequest :=
  .bridge ⟨p.bridge,p.mtu,if p.filtering then some true else none⟩

def place (s : Services σ) (p : Plan) : Step σ Error Unit := do
  match ← Step.attempt (s.kernel.addLink (request p)) with
  | .ok () => return ()
  | .error e =>
    if e.isExists then Step.mapError (.kernel .modifyBridge p.bridge) (s.kernel.modifyLink (request p))
    else throw (.kernel .createBridge p.bridge e)

def acceptRouters (name : String) : String := "net/ipv6/conf/" ++ name ++ "/accept_ra"

-- Makes the bridge and sets it up. A link of another type under the name is found out.
def ensure (s : Services σ) (p : Plan) : Step σ Error Kernel.Bridge := do
  place s p
  if p.promiscuous then
    let link ← s.kernel.find p.bridge
    Step.mapError (.kernel .setPromiscuous p.bridge) (s.kernel.setPromiscuous link.index)
  let bridge ← Step.ofExcept (Kernel.Bridge.ofLink (← s.kernel.find p.bridge))
  let _ ← Step.attempt (s.setParameter (acceptRouters p.bridge) "0")
  Step.mapError (.kernel .setUp p.bridge) (s.kernel.setUp bridge.link.index)
  return { bridge with link := { bridge.link with up := true } }

-- Gives the bridge the gateways of subnets that are not among its addresses, and returns all of them.
def addGateways (s : Services σ) (index : Nat) (existing : List String) :
    List Subnet → Step σ Error (List Subnet)
  | [] => return []
  | net :: rest => do
    let gateway ← Step.ofExcept (net.gateway.mapError .ipam)
    if !existing.contains gateway.text then
      Step.mapError (.kernel .addGateway gateway.address.text) (s.kernel.addAddress index gateway)
    return gateway :: (← addGateways s index existing rest)

def ensureGateways (s : Services σ) (bridge : Kernel.Bridge) (p : Plan) : Step σ Error (List Subnet) := do
  let existing ← Step.mapError (.kernel .listAddresses bridge.link.name)
    (s.kernel.addressTextsOf bridge.link.index)
  addGateways s bridge.link.index existing p.podSubnets

def carryOut (s : Services σ) (p : Plan) : Step σ Error Kernel.Bridge := do
  if p.layer3 then
    s.enableForwarding .v4
    s.enableForwarding .v6
  let bridge ← ensure s p
  if p.layer3 then
    let gateways ← ensureGateways s bridge p
    if p.masquerade then
      s.masquerade.setup p.backend gateways (.ofNetwork p.network)
  return bridge

-- Brings the host towards the declared network. A fault of the declaration shows before anything is done. A bridge
-- that is there is changed in place, so a set-up may be repeated; the first failure ends it, and what was done before
-- stays done.
def setup (s : Services σ) (n : Network) : Step σ Error Kernel.Bridge := do
  carryOut s (← Step.ofExcept (n.plan.mapError .config))

-- Deletes the bridge, if it is there, and tells which addresses it had.
def deleteLink (s : Services σ) (name : String) : Step σ Error (List Subnet) := do
  match ← Step.attempt (s.kernel.deleteWithAddresses name) with
  | .ok nets => return nets
  | .error e => if e.isLinkNotFound then return [] else throw e

def remove (s : Services σ) (n : Network) : Step σ Error Unit := do
  let nets ← deleteLink s n.bridgeName
  if n.layer3 && n.masquerade then
    s.masquerade.teardown nets (.ofNetwork n.name)

end HostNet.Bridge
