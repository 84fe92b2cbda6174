import HostNet.Document.Json.Reader
import HostNet.Document.Record

namespace HostNet.Config

-- A VLAN interface on top of another interface, the master. An MTU of zero is the master's.
structure Vlan where
  master : String
  id : Int64
  mtu : Int64
deriving DecidableEq, Repr

namespace Vlan

def toDocument (v : Vlan) : Document :=
  .ofPresent [
    some ("master",.ofString v.master),
    some ("vlanId",.ofInt64 v.id),
    if v.mtu = 0 then none else some ("mtu",.ofInt64 v.mtu)]

def ofDocument? (d : Document) : Option Vlan := do
  let fields ← d.fields? ["master","vlanId","mtu"] 2
  return ⟨← fields.required "master" Document.asText?,← fields.required "vlanId" Document.asInt64?,
    ← fields.withDefault "mtu" 0 Document.asInt64?⟩

end Vlan
end HostNet.Config
