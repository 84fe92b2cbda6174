import HostNet.Document.Record
import HostNet.Error

namespace HostNet.Config

def largestVlan : Nat := 4094

-- A single id, the two ends of a range, or both.
structure TrunkEntry where
  lowest : Option Int64
  highest : Option Int64
  single : Option Int64
deriving DecidableEq, Repr

namespace TrunkEntry

def isId (n : Int64) : Bool := 1 ≤ n.toInt && n.toInt ≤ largestVlan

def rangeFault? (e : TrunkEntry) : Option TrunkFault :=
  match e.lowest, e.highest with
  | some low, some high =>
    if !isId low then some .lowest
    else if !isId high then some .highest
    else if high < low then some .order
    else none
  | none, some _ => some .noLowest
  | some _, none => some .noHighest
  | none, none => none

def singleFault? (e : TrunkEntry) : Option TrunkFault :=
  match e.single with
  | some n => if isId n then none else some .single
  | none => none

def fault? (e : TrunkEntry) : Option TrunkFault :=
  e.rangeFault?.or e.singleFault?

def covers (e : TrunkEntry) (id : Nat) : Bool :=
  (match e.lowest, e.highest with
    | some low, some high => low.toInt ≤ id && id ≤ high.toInt
    | _, _ => false) || e.single.any (·.toInt == (id : Int))

def toDocument (e : TrunkEntry) : Document :=
  .ofPresent [
    e.lowest.map (("minID",.ofInt64 ·)),
    e.highest.map (("maxID",.ofInt64 ·)),
    e.single.map (("id",.ofInt64 ·))]

def ofDocument? (d : Document) : Option TrunkEntry := do
  let fields ← d.fields? ["minID","maxID","id"] 0
  return ⟨← fields.optional "minID" Document.asInt64?,← fields.optional "maxID" Document.asInt64?,
    ← fields.optional "id" Document.asInt64?⟩

end TrunkEntry

-- The ids that the entries name, in ascending order, or the first fault.
def expandTrunk (entries : List TrunkEntry) : Except TrunkFault (List Nat) :=
  match entries.findSome? TrunkEntry.fault? with
  | some fault => .error fault
  | none => .ok ((List.range' 1 largestVlan).filter fun id => entries.any (·.covers id))

end HostNet.Config
