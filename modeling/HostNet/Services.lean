import HostNet.Kernel.Driver
import HostNet.Masquerade.Manager
import HostNet.Sysctl

namespace HostNet

-- What a host offers to those who provision its networks, over one state.
structure Services (σ : Type) where
  kernel : Kernel.Driver σ
  enableForwarding : Family → Step σ Error Unit
  setParameter : String → String → Step σ Error Unit
  masquerade : Masquerade.Manager σ

end HostNet
