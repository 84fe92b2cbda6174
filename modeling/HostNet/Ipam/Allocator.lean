import HostNet.Document.Record
import HostNet.Ipam.Range

namespace HostNet.Ipam

-- The pool that every allocation belongs to unless another is named.
def hostScope : String := "host-scope"

structure Allocation where
  address : Address
  pool : String
  subnets : List Subnet
  gateway : Option Address
  owner : String
deriving DecidableEq, Repr

namespace Allocation

def toDocument (a : Allocation) : Document :=
  .ofMembers [("ip",.ofString a.address.text),("pool",.ofString a.pool),
    ("cidrs",.ofList (fun s => .ofString s.text) a.subnets),
    ("gatewayIp",.ofOption (fun g => .ofString g.text) a.gateway),("owner",.ofString a.owner)]

def ofDocument? (d : Document) : Option Allocation := do
  let fields ← d.fields? ["ip","pool","cidrs","gatewayIp","owner"] 5
  let address (d : Document) := d.asText?.bind Address.parse?
  return ⟨← fields.required "ip" address,← fields.required "pool" Document.asText?,
    ← fields.required "cidrs" (Document.asList? fun d => d.asText?.bind Subnet.parse?),
    ← fields.optional "gatewayIp" address,← fields.required "owner" Document.asText?⟩

end Allocation

-- Addresses with their owners.
abbrev Owners := List (Address × String)

def Owners.put (owners : Owners) (a : Address) (owner : String) : Owners :=
  (a,owner) :: owners.filter (·.1 != a)

def Owners.drop (owners : Owners) (a : Address) : Owners :=
  owners.filter (·.1 != a)

-- Hands out the addresses of one subnet and remembers who owns each.
structure Allocator where
  subnet : Subnet
  range : Range
  owners : Owners
deriving Repr

namespace Allocator

def ofSubnet (s : Subnet) : Allocator := ⟨s.trunc,.ofSubnet s,[]⟩

def onRange (x : Step Range ε α) : Step Allocator ε α :=
  Step.within Allocator.range (fun r a => { a with range := r }) x

def allocation (a : Allocator) (address : Address) (owner pool : String) : Allocation :=
  ⟨address,pool,[a.subnet],a.subnet.indexed? 1,owner⟩

def record (address : Address) (owner : String) : Step Allocator ε Unit :=
  modify fun a => { a with owners := a.owners.put address owner }

def allocate (address : Address) (owner pool : String) : Step Allocator Error Allocation := do
  onRange (Range.allocate address)
  record address owner
  return (← get).allocation address owner pool

def allocateNext (start : Nat) (owner pool : String) : Step Allocator Error Allocation := do
  let address ← onRange (Range.allocateNext start)
  record address owner
  return (← get).allocation address owner pool

-- Allocates free addresses until it fails, at most `limit` many. Gives the addresses in reverse and the failure.
def exhaust (owner pool : String) (start : Nat) (addresses : List Address) (a : Allocator) :
    Nat → (List Address × Option Error) × Allocator
  | 0 => ((addresses,none),a)
  | limit + 1 =>
    match allocateNext start owner pool a with
    | .error e a => ((addresses,some e),a)
    | .ok r a => exhaust owner pool (r.address.value - a.range.base + 1) (r.address :: addresses) a limit

def release (a : Allocator) (address : Address) : Allocator :=
  { a with range := a.range.release address,owners := a.owners.drop address }

def capacity (a : Allocator) : Nat := a.subnet.hostCount

-- The taken addresses with their owners; an address that nobody is recorded for has the empty owner.
def owned (a : Allocator) : List (Address × String) :=
  a.range.taken.map fun address => (address,(a.owners.lookup address).getD "")

def status (a : Allocator) : String :=
  s!"{a.owned.length}/{a.capacity} allocated from " ++ a.subnet.text

end Allocator
end HostNet.Ipam
