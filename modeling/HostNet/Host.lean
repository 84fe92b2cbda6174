import HostNet.Firewall.Iptables.Memory
import HostNet.Firewall.Nft.Memory
import HostNet.Kernel.Table
import HostNet.Services

namespace HostNet

-- A host in memory: a kernel, the files of its parameters and the two firewalls.
structure Host where
  kernel : Kernel.Table
  files : Files
  iptables : Firewall.Iptables.Memory
  nft : Firewall.Nft.Memory

namespace Host

def onKernel (x : Step Kernel.Table ε α) : Step Host ε α :=
  Step.within Host.kernel (fun kernel h => { h with kernel }) x

def onFiles (x : Step Files ε α) : Step Host ε α :=
  Step.within Host.files (fun files h => { h with files }) x

def driver : Kernel.Driver Host :=
  Kernel.Table.driver.within Host.kernel fun kernel h => { h with kernel }

def masquerade : Masquerade.Manager Host where
  iptables := (Masquerade.Masquerader.iptables Firewall.Iptables.Memory.ops).within Host.iptables
    fun iptables h => { h with iptables }
  nftables := (Masquerade.Masquerader.nft Firewall.Nft.Memory.ops).within Host.nft
    fun nft h => { h with nft }

def services (root : String) : Services Host where
  kernel := driver
  enableForwarding family := onFiles (Sysctl.enableForwarding root family)
  setParameter name value := onFiles (Sysctl.set root name value)
  masquerade := masquerade

end Host
end HostNet
