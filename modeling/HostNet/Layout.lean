import HostNet.Path

namespace HostNet

-- Where state and declarations lie below one root directory.
structure Layout where
  root : String
deriving DecidableEq, Repr

namespace Layout

def installed : Layout := ⟨"/var/lib/peta"⟩

instance : Inhabited Layout := ⟨installed⟩

def ipam (l : Layout) : String := Path.join l.root "ipam"

def snapshot (l : Layout) (network : String) : String := Path.join l.ipam (network ++ ".json")

def networks (l : Layout) : String := Path.join l.root "networks"

def declaration (l : Layout) (network : String) : String := Path.join l.networks (network ++ ".json")

end Layout
end HostNet
