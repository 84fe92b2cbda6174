import HostNet.Config.Trunk
import HostNet.Config.Vlan
import HostNet.Kernel.Driver

namespace HostNet.Vlan

def tag (v : Config.Vlan) : Except ConfigFault Nat :=
  if 0 ≤ v.id.toInt ∧ v.id.toInt ≤ Config.largestVlan then .ok v.id.toInt.toNat
  else .error (.vlanTag v.id.toInt)

-- The MTU of a declaration, which the master's limits.
def mtu (v : Config.Vlan) (limit : Nat) : Except ConfigFault Nat :=
  if 0 ≤ v.mtu.toInt ∧ v.mtu.toInt ≤ limit then .ok v.mtu.toInt.toNat
  else .error (.vlanMtu v.mtu.toInt limit)

-- Creates the interface on top of its master, after the declaration has been checked.
def create (d : Kernel.Driver σ) (name : String) (v : Config.Vlan) : Step σ Error Kernel.Link := do
  if v.master.isEmpty then throw (.config .noMaster)
  let tag ← Step.ofExcept ((tag v).mapError .config)
  let master ← d.find v.master
  let mtu ← Step.ofExcept ((mtu v master.mtu).mapError .config)
  Step.mapError (.kernel .createVlan name) (d.addLink (.vlan ⟨name,master.index,tag,mtu⟩))
  d.find name

-- Deletes the interface. One that is not there needs no deletion.
def delete (d : Kernel.Driver σ) (name : String) : Step σ Error Unit := do
  match ← Step.attempt (d.delete name) with
  | .ok () => return ()
  | .error e => if e.isLinkNotFound then return () else throw e

end HostNet.Vlan
