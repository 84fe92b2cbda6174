import HostNet.Address.Basic

namespace HostNet

-- A subnet as it is written: an address, whose host bits may be set, and a length.
structure Subnet where
  address : Address
  length : Nat
  length_le : length ≤ address.family.width
deriving DecidableEq, Repr

namespace Subnet

def family (s : Subnet) : Family := s.address.family

def hostBits (s : Subnet) : Nat := s.family.width - s.length

def size (s : Subnet) : Nat := 1 <<< s.hostBits

def start (s : Subnet) : Nat := s.address.value / s.size * s.size

theorem start_le (s : Subnet) : s.start ≤ s.address.value :=
  Nat.div_mul_le_self _ _

def network (s : Subnet) : Address :=
  ⟨s.family,s.start,Nat.lt_of_le_of_lt s.start_le s.address.value_lt⟩

def trunc (s : Subnet) : Subnet :=
  ⟨s.network,s.length,s.length_le⟩

-- The subnet around an address; a length beyond the family's width counts as the width.
def ofAddress (a : Address) (length : Nat) : Subnet :=
  ⟨a,min length a.family.width,Nat.min_le_right _ _⟩

instance : Inhabited Subnet := ⟨ofAddress default 0⟩

def contains (s : Subnet) (a : Address) : Bool :=
  a.family == s.family && a.value / s.size == s.address.value / s.size

-- How many addresses the allocator keeps track of at most: none of a subnet with one or two addresses, and no more
-- than 65536 of a larger one of the wide family.
def rangeSize (s : Subnet) : Nat :=
  if s.hostBits ≤ 1 then 0
  else match s.family with
    | .v6 => if 16 ≤ s.hostBits then 65536 else s.size
    | .v4 => s.size

-- The number of addresses without the first and the last; zero for a single address.
def hostCount (s : Subnet) : Nat :=
  if s.hostBits = 0 then 0 else s.size - 2

def indexed? (s : Subnet) (index : Nat) : Option Address :=
  (Address.ofNat? s.family (s.start + index)).filter s.contains

def multicast : Family → Subnet
  | .v4 => ofAddress (Address.ofNat .v4 (224 <<< 24)) 4
  | .v6 => ofAddress (Address.ofNat .v6 (0xff <<< 120)) 8

end Subnet

namespace Address

-- Whether an address is one host's in general: neither unspecified, loopback, multicast, link-local nor broadcast.
def isGlobalUnicast (a : Address) : Bool :=
  match a.family with
  | .v4 =>
    a.value != 0 && a.leading 8 != 127 && a.leading 4 != 14 && a.leading 16 != 0xa9fe &&
      a.value != 0xffffffff
  | .v6 => a.value != 0 && a.value != 1 && a.leading 8 != 0xff && a.leading 10 != 0x3fa

end Address
end HostNet
