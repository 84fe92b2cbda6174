import HostNet.Ipam.Bitmap
import HostNet.Step
import HostNet.Subnet.Gateway

namespace HostNet.Ipam

-- A subnet without host bits and the bitmap of its usable addresses. The first and the last address of the subnet are
-- never handed out.
structure Range where
  subnet : Subnet
  bitmap : Bitmap
deriving DecidableEq, Repr

namespace Range

def usable (s : Subnet) : Nat :=
  if 2 < s.rangeSize then s.rangeSize - 2 else s.rangeSize

def ofSubnet (s : Subnet) : Range :=
  ⟨s.trunc,.empty (usable s.trunc) s.trunc.text⟩

def max (r : Range) : Nat := r.bitmap.max

def base (r : Range) : Nat :=
  if 2 < r.subnet.rangeSize then r.subnet.start + 1 else r.subnet.start

def first (r : Range) : Address :=
  (Address.ofNat? r.subnet.family r.base).getD r.subnet.network

def free (r : Range) : Nat := r.bitmap.free

def used (r : Range) : Nat := r.max - r.free

def offset? (r : Range) (a : Address) : Option Nat :=
  if r.subnet.contains a ∧ r.base ≤ a.value ∧ a.value - r.base < r.max then some (a.value - r.base)
  else none

def allocate (a : Address) : Step Range Error Unit :=
  Step.update fun r =>
    match r.offset? a with
    | none => .error (.notInRange r.subnet)
    | some offset =>
      match r.bitmap.allocate? offset with
      | none => .error .allocated
      | some m => .ok { r with bitmap := m }

-- Takes any free address, searched for from the offset `start` on.
def allocateNext (start : Nat) : Step Range Error Address := fun r =>
  match r.bitmap.allocateNext (.scan start) with
  | .taken offset m =>
    match Address.ofNat? r.subnet.family (r.base + offset) with
    | some a => .ok a { r with bitmap := m }
    | none => .error .full { r with bitmap := m }
  | _ => .error .full r

-- Gives an address back; nothing happens if it is not in the range or not taken.
def release (r : Range) (a : Address) : Range :=
  match r.offset? a with
  | some offset => { r with bitmap := r.bitmap.release offset }
  | none => r

def has (r : Range) (a : Address) : Bool :=
  match r.offset? a with
  | some offset => r.bitmap.has offset
  | none => false

def taken (r : Range) : List Address :=
  r.bitmap.taken.filterMap fun offset => r.subnet.indexed? (offset + 1)

-- Takes a saved state back that was saved for the same subnet.
def restore (net : Subnet) (bytes : List UInt8) : Step Range Error Unit :=
  Step.update fun r =>
    if net = r.subnet then
      (r.bitmap.restore net.text bytes).map fun m => { r with bitmap := m }
    else .error .mismatchedNetwork

end Range
end HostNet.Ipam
