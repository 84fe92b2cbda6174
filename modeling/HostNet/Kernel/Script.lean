import HostNet.Kernel.Driver

namespace HostNet.Kernel

-- The outcomes that are left, of which each request takes the next, and the number of requests so far. An outcome
-- counts what is listed, so that one script serves requests of every kind.
structure Script where
  outcomes : List (Except Error (Listing Nat))
  requests : Nat

namespace Script

def ended : Except Error (Listing Nat) := .ok (.complete 0)

def answer (f : Nat → α) : Step Script Error (Listing α) := fun s =>
  let after : Script := ⟨s.outcomes.tail,s.requests + 1⟩
  match s.outcomes.head?.getD ended with
  | .ok outcome => .ok ⟨f outcome.value,outcome.interrupted⟩ after
  | .error e => .error e after

def obey : Step Script Error Unit := do
  let _ ← answer id

def link (index : Nat) : Link := ⟨index,"x0",1500,.device,false,false,none⟩

def address : LinkAddress := ⟨1,.ofAddress (.ofNat .v4 0x0A000001) 24⟩

def driver : Driver Script where
  linkByName _ := answer link
  links := answer fun n => (List.range n).map link
  addresses _ := answer fun n => List.replicate n address
  routes _ := answer fun n => List.replicate n ⟨none,none,none,254⟩
  portVlans := answer fun n => (List.range n).map fun index => (index,[1])
  addLink _ := obey
  modifyLink _ := obey
  setUp _ := obey
  setPromiscuous _ := obey
  deleteLink _ := obey
  addAddress _ _ := obey

end Script
end HostNet.Kernel
