import HostNet.Ipam.Bits
import HostNet.Ipam.Error

namespace HostNet.Ipam

-- A fixed number of offsets, the bit of each, and how many are taken, which is counted anew when a saved state is
-- taken back. That is done under the same tag only.
structure Bitmap where
  max : Nat
  tag : String
  bits : Bits
  count : Nat
deriving DecidableEq, Repr

-- How a free offset is searched for, given the bits, the number of offsets and how many are taken.
abbrev Strategy := Bits → Nat → Nat → Option Nat

namespace Strategy

-- The first offset of `left` many from `place` on, counted around, whose bit is clear.
def search (bits : Bits) (max place : Nat) : Nat → Option Nat
  | 0 => none
  | left + 1 =>
    if bits.get (place % max) then search bits max (place + 1) left else some (place % max)

-- The first free offset from `start` on, counted around; none if all are taken.
def scan (start : Nat) : Strategy := fun bits max count =>
  if max = 0 ∨ max ≤ count then none else search bits max start max

def fixed (place : Nat) : Strategy := fun _ _ _ => some place

def never : Strategy := fun _ _ _ => none

end Strategy

-- What comes of asking for any offset. A strategy may name an offset that there is no storage for.
inductive Bitmap.Next where
  | none
  | taken (offset : Nat) (m : Bitmap)
  | outside (offset : Nat)

namespace Bitmap

def empty (max : Nat) (tag : String) : Bitmap := ⟨max,tag,.ofCapacity max,0⟩

def has (m : Bitmap) (offset : Nat) : Bool := m.bits.get offset

def taken (m : Bitmap) : List Nat := m.bits.ones

-- Whether more offsets were taken than there are, which a strategy that names taken ones brings about.
def isOverdrawn (m : Bitmap) : Bool := m.max < m.count

-- The number of offsets that are left. It has no meaning once the bitmap is overdrawn.
def free (m : Bitmap) : Nat := m.max - m.count

def allocate? (m : Bitmap) (offset : Nat) : Option Bitmap :=
  if m.max ≤ offset then none
  else if m.bits.get offset then none
  else some { m with bits := m.bits.set offset,count := m.count + 1 }

def allocateNext (m : Bitmap) (strategy : Strategy) : Next :=
  match strategy m.bits m.max m.count with
  | .none => .none
  | some offset =>
    if m.bits.capacity ≤ offset then .outside offset
    else .taken offset { m with bits := m.bits.set offset,count := m.count + 1 }

-- Takes offsets until there is none, at most `limit` many. The strategy of each step is chosen by the offset after
-- the one taken before. The offsets stand in reverse; there are none if a strategy names one without storage.
def exhaust (strategy : Nat → Strategy) (m : Bitmap) (start : Nat) (offsets : List Nat) :
    Nat → Option (List Nat × Bitmap)
  | 0 => some (offsets,m)
  | limit + 1 =>
    match m.allocateNext (strategy start) with
    | .none => some (offsets,m)
    | .outside _ => none
    | .taken offset m => exhaust strategy m (offset + 1) (offset :: offsets) limit

-- Gives an offset back; nothing happens if it is out of range or not taken.
def release (m : Bitmap) (offset : Nat) : Bitmap :=
  if m.max ≤ offset then m
  else if m.bits.get offset then { m with bits := m.bits.clear offset,count := m.count - 1 }
  else m

def visitEach (visit : Nat → Bitmap → α × Bitmap) : List Nat → Bitmap → List (Nat × α) × Bitmap
  | [], m => ([],m)
  | offset :: rest, m =>
    let (given,m) := visit offset m
    let (visits,m) := visitEach visit rest m
    ((offset,given) :: visits,m)

-- Calls back with every taken offset in ascending order. The offsets are read before the first call, so the calls may
-- change the bitmap.
def forEach (m : Bitmap) (visit : Nat → Bitmap → α × Bitmap) : List (Nat × α) × Bitmap :=
  visitEach visit m.taken m

def snapshot (m : Bitmap) : List UInt8 := m.bits.toBytes

-- Takes a saved state back, without what it holds beyond the range.
def restore (m : Bitmap) (tag : String) (bytes : List UInt8) : Except Error Bitmap :=
  if m.tag = tag then
    let bits := Bits.ofBytes m.max bytes
    .ok { m with bits := bits,count := bits.ones.length }
  else .error (.rangeMismatch m.tag tag)

def description (m : Bitmap) : String :=
  s!"AllocationBitmap \x7b max: {m.max}, range_spec: " ++ Text.quoted m.tag ++
    s!", count: {m.count}, .. \x7d"

end Bitmap
end HostNet.Ipam
