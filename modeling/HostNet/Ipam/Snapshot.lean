import HostNet.Document.Json.Reader
import HostNet.Document.Json.Writer
import HostNet.Document.Record
import HostNet.Error
import HostNet.Ipam.Range
import HostNet.Layout

namespace HostNet.Ipam

-- The state of a range, as a file keeps it for a network.
structure Snapshot where
  subnet : Subnet
  data : String
deriving DecidableEq, Repr

namespace Snapshot

def capture (r : Range) : Snapshot :=
  ⟨r.subnet,String.ofList (Text.Base64.encode r.bitmap.snapshot)⟩

def apply (s : Snapshot) : Step Range HostNet.Error Unit := do
  let bytes ← Step.ofExcept ((Text.Base64.decode s.data.toUTF8.toList).mapError .snapshotData)
  Step.mapError .ipam (Range.restore s.subnet bytes)

def toDocument (s : Snapshot) : Document :=
  .ofMembers [("range",.ofString s.subnet.text),("data",.ofString s.data)]

def ofDocument? (d : Document) : Option Snapshot := do
  let fields ← d.fields? ["range","data"] 2
  return ⟨← fields.required "range" fun d => d.asText?.bind Subnet.parse?,
    ← fields.required "data" Document.asText?⟩

def ofJson? (text : String) : Option Snapshot := (Document.Json.read? text).bind ofDocument?

def draftExtension : String := "json.tmp"

def draft (path : String) : String := Path.withExtension path draftExtension

-- Keeps the state of a range for a network. A complete file replaces the earlier one at once.
def save (layout : Layout) (network : String) (r : Range) : Step Files HostNet.Error Unit := do
  let path := layout.snapshot network
  if let some parent := Path.parent? path then
    Step.update fun files => (files.ensureDirectory parent).mapError .file
  let text := (capture r).toDocument.toJsonLines
  Step.update fun files => (files.write (draft path) text).mapError .file
  Step.update fun files => (files.rename (draft path) path).mapError .file

def load (layout : Layout) (files : Files) (network : String) : Step Range HostNet.Error Bool := do
  let path := layout.snapshot network
  if files.reaches path then
    let text ← Step.ofExcept ((files.read path).mapError .file)
    match ofJson? text with
    | none => throw .malformed
    | some snapshot => snapshot.apply
    return true
  else return false

def delete (layout : Layout) (network : String) : Step Files HostNet.Error Unit := do
  let path := layout.snapshot network
  if (← get).reaches path then
    Step.update fun files => (files.remove path).mapError .file

end Snapshot

def createDirectories (layout : Layout) : Step Files Files.Error Unit := do
  Step.update (·.ensureDirectory layout.root)
  Step.update (·.ensureDirectory layout.ipam)
  Step.update (·.ensureDirectory layout.networks)

end HostNet.Ipam
