import HostNet.Document.Basic
import HostNet.Firewall.Tool
import HostNet.Subnet.Text

namespace HostNet

class Report (α : Type) where
  report : α → Document

export Report (report)

instance : Report Document := ⟨id⟩
instance : Report String := ⟨.ofString⟩
instance : Report Bool := ⟨.bool⟩
instance : Report Nat := ⟨.ofNat⟩
instance : Report Int := ⟨.integer⟩
instance : Report Address := ⟨fun a => .ofString a.text⟩
instance : Report Subnet := ⟨fun net => .ofString net.text⟩
instance : Report Firewall.Backend := ⟨fun backend => .ofString backend.name⟩

instance [Report α] : Report (Option α) := ⟨.ofOption report⟩
instance [Report α] : Report (List α) := ⟨.ofList report⟩

abbrev Members := List (String × Document)

def member [Report α] (key : String) (a : α) : String × Document := (key,report a)

def reportMembers (members : Members) : Document := .ofMembers members

end HostNet
