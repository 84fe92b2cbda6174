import HostNet.Firewall.Iptables.Memory
import HostNet.Firewall.Nft.Memory
import HostNet.Report.Error

namespace HostNet.Firewall

instance : Report Command where
  report c := .ofPresent [
    some (member "program" c.program),some (member "args" c.arguments),c.input.map (member "stdin")]

instance : Report Finished where
  report f := reportMembers [member "stdout" f.output,member "stderr" f.errors,
    member "success" f.success,member "code" f.code]

instance : Report Nft.Listed where
  report r := reportMembers [member "chain" r.chain,member "handle" r.handle,member "comment" r.comment]

def Iptables.Memory.natReport (m : Iptables.Memory) (family : Family) : Document :=
  match m.check with
  | .ok () => reportMembers ((m.tables family Iptables.natTable).map fun c => member c.1 c.2)
  | .error e => report e

def Nft.Ruleset.chainsReport (r : Nft.Ruleset) (chains : List String) : Document :=
  .ofPresent (chains.map fun chain => (r.rules? chain).map fun rules =>
    member chain (reportMembers [member "rules" (rules.map Nft.Stored.listed),
      member "bodies" (rules.map (·.rule.text))]))

end HostNet.Firewall
