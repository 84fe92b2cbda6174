import HostNet.Ipam.Error

namespace HostNet

-- The address at a place of a subnet, or the error that the subnet is too small for it.
def Subnet.indexed (s : Subnet) (index : Nat) : Except Ipam.Error Address :=
  match s.indexed? index with
  | some a => .ok a
  | none => .error (.indexOutOfSubnet index s)

-- The first host address of a subnet, with the length of the subnet.
def Subnet.gateway (s : Subnet) : Except Ipam.Error Subnet := do
  return .ofAddress (← s.trunc.indexed 1) s.length

end HostNet
