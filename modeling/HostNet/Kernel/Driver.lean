import HostNet.Error
import HostNet.Kernel.Link
import HostNet.Step

namespace HostNet.Kernel

-- What can be asked of the kernel, over any state that can answer.
structure Driver (σ : Type) where
  linkByName : String → Step σ Error (Listing Link)
  links : Step σ Error (Listing (List Link))
  addresses : Option Nat → Step σ Error (Listing (List LinkAddress))
  routes : Family → Step σ Error (Listing (List Route))
  portVlans : Step σ Error (Listing PortVlans)
  addLink : LinkRequest → Step σ Error Unit
  modifyLink : LinkRequest → Step σ Error Unit
  setUp : Nat → Step σ Error Unit
  setPromiscuous : Nat → Step σ Error Unit
  deleteLink : Nat → Step σ Error Unit
  addAddress : Nat → Subnet → Step σ Error Unit

def Driver.within (get : σ → τ) (set : τ → σ → σ) (d : Driver τ) : Driver σ where
  linkByName name := Step.within get set (d.linkByName name)
  links := Step.within get set d.links
  addresses index := Step.within get set (d.addresses index)
  routes family := Step.within get set (d.routes family)
  portVlans := Step.within get set d.portVlans
  addLink request := Step.within get set (d.addLink request)
  modifyLink request := Step.within get set (d.modifyLink request)
  setUp index := Step.within get set (d.setUp index)
  setPromiscuous index := Step.within get set (d.setPromiscuous index)
  deleteLink index := Step.within get set (d.deleteLink index)
  addAddress index net := Step.within get set (d.addAddress index net)

-- Asks up to `attempts` times, until an answer is complete or the request fails otherwise. `last` is the latest
-- partial answer.
def retryFrom (ask : Step σ Error (Listing α)) (last : Option α) : Nat → Step σ Error α
  | 0 =>
    match last with
    | some value => pure value
    | none => throw .interrupted
  | attempts + 1 => do
    match ← Step.attempt ask with
    | .ok answer =>
      if answer.interrupted then retryFrom ask (some answer.value) attempts else return answer.value
    | .error .interrupted => retryFrom ask last attempts
    | .error e => throw e

def maxAttempts : Nat := 5

def retry (ask : Step σ Error (Listing α)) : Step σ Error α := retryFrom ask none maxAttempts

namespace Driver

def link (d : Driver σ) (name : String) : Step σ Error Link := retry (d.linkByName name)

def allLinks (d : Driver σ) : Step σ Error (List Link) := retry d.links

def addressesOf (d : Driver σ) (index : Nat) : Step σ Error (List LinkAddress) :=
  retry (d.addresses (some index))

def addressTextsOf (d : Driver σ) (index : Nat) : Step σ Error (List String) := do
  return (← d.addressesOf index).map (·.net.text)

def allRoutes (d : Driver σ) (family : Family) : Step σ Error (List Route) := retry (d.routes family)

def allPortVlans (d : Driver σ) : Step σ Error PortVlans := retry d.portVlans

-- The link of a name, where a missing link is an error of its own.
def find (d : Driver σ) (name : String) : Step σ HostNet.Error Link :=
  Step.mapError (fun e => if e.isNotFound then .linkNotFound name else .kernel .lookupLink name e)
    (d.link name)

def delete (d : Driver σ) (name : String) : Step σ HostNet.Error Unit := do
  let link ← d.find name
  Step.mapError (.kernel .deleteLink name) (d.deleteLink link.index)

-- Deletes the link of a name and tells which global unicast addresses it had.
def deleteWithAddresses (d : Driver σ) (name : String) : Step σ HostNet.Error (List Subnet) := do
  let link ← d.find name
  let addresses ← Step.mapError (.kernel .listAddresses name) (d.addressesOf link.index)
  Step.mapError (.kernel .deleteLink name) (d.deleteLink link.index)
  return (addresses.map LinkAddress.net).filter (·.address.isGlobalUnicast)

end Driver
end HostNet.Kernel
