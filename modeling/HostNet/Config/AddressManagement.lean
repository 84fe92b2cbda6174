import HostNet.Document.Json.Reader
import HostNet.Document.Record

namespace HostNet.Config

-- The declared management of addresses. With an empty kind there is none.
structure AddressManagement where
  kind : String
  podSubnets : List String
  minAllocate : UInt32
  maxAllocate : UInt32
  preAllocate : UInt32
  maxAboveWatermark : UInt32
deriving DecidableEq, Repr

namespace AddressManagement

def none : AddressManagement := ⟨"",[],0,0,0,0⟩

instance : Inhabited AddressManagement := ⟨none⟩

def keys : List String :=
  ["type","podCIDR","minAllocate","maxAllocate","preAllocate","maxAboveWatermark"]

def toDocument (m : AddressManagement) : Document :=
  .ofMembers [
    ("type",.ofString m.kind),
    ("podCIDR",.ofList .ofString m.podSubnets),
    ("minAllocate",.ofUInt32 m.minAllocate),
    ("maxAllocate",.ofUInt32 m.maxAllocate),
    ("preAllocate",.ofUInt32 m.preAllocate),
    ("maxAboveWatermark",.ofUInt32 m.maxAboveWatermark)]

def ofMembers? (members : List (Option String × Document)) : Option AddressManagement := do
  let fields ← Document.fieldsOfObject? keys members
  return {
    kind := ← fields.withDefault "type" "" Document.asText?
    podSubnets := ← fields.withDefault "podCIDR" [] (Document.asList? Document.asText?)
    minAllocate := ← fields.withDefault "minAllocate" 0 Document.asUInt32?
    maxAllocate := ← fields.withDefault "maxAllocate" 0 Document.asUInt32?
    preAllocate := ← fields.withDefault "preAllocate" 0 Document.asUInt32?
    maxAboveWatermark := ← fields.withDefault "maxAboveWatermark" 0 Document.asUInt32? }

def ofDocument? : Document → Option AddressManagement
  | .object members => ofMembers? members
  | _ => .none

def ofJson? (text : String) : Option AddressManagement :=
  (Document.Json.readLegible? text).bind ofDocument?

end AddressManagement
end HostNet.Config
