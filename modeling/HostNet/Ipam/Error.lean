import HostNet.Subnet.Text
import HostNet.Text.Quoted

namespace HostNet.Ipam

inductive Error where
  | full
  | allocated
  | notInRange (range : Subnet)
  | mismatchedNetwork
  | rangeMismatch (expected actual : String)
  | indexOutOfSubnet (index : Nat) (subnet : Subnet)
deriving DecidableEq, Repr

namespace Error

def message : Error → String
  | .full => "range is full"
  | .allocated => "provided IP is already allocated"
  | .notInRange range =>
    "provided IP is not in the valid range. The range of valid IPs is " ++ range.text
  | .mismatchedNetwork => "the provided network does not match the current range"
  | .rangeMismatch expected actual =>
    "the provided range " ++ Text.quoted actual ++ " does not match the current range " ++
      Text.quoted expected
  | .indexOutOfSubnet index subnet =>
    s!"can't generate IP with index {index} from subnet " ++ subnet.text ++ ": subnet too small"

def code : Error → String
  | .full => "peta::ipam::full"
  | .allocated => "peta::ipam::allocated"
  | .notInRange _ => "peta::ipam::not_in_range"
  | .mismatchedNetwork => "peta::ipam::mismatched_network"
  | .rangeMismatch _ _ => "peta::ipam::range_mismatch"
  | .indexOutOfSubnet _ _ => "peta::ipam::index_out_of_subnet"

end Error
end HostNet.Ipam
