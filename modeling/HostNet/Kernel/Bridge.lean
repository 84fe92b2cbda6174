import HostNet.Error
import HostNet.Kernel.Link

namespace HostNet.Kernel

-- A bridge: a link and the state of its VLAN filter, if the kernel told it.
structure Bridge where
  link : Link
  filtering : Option Bool
deriving DecidableEq, Repr

def Bridge.ofLink (link : Link) : Except HostNet.Error Bridge :=
  match link.kind with
  | .bridge filtering => .ok ⟨link,filtering⟩
  | kind => .error (.notABridge link.name kind.text)

end HostNet.Kernel
