import HostNet.Error
import HostNet.Report.Basic

namespace HostNet

def Kernel.Error.kind : Kernel.Error → String
  | .interrupted => "DumpInterrupted"
  | .refused _ => "Errno"
  | .socket _ => "Io"
  | .other _ => "Other"

def Ipam.Error.kind : Ipam.Error → String
  | .full => "Full"
  | .allocated => "Allocated"
  | .notInRange _ => "NotInRange"
  | .mismatchedNetwork => "MismatchedNetwork"
  | .rangeMismatch _ _ => "RangeMismatch"
  | .indexOutOfSubnet _ _ => "IndexOutOfSubnet"

def Firewall.ToolError.kind : Firewall.ToolError → String
  | .notFound _ => "NotFound"
  | .failed _ => "Failed"

def Error.kind : Error → String
  | .config _ => "Config"
  | .kernel _ _ _ => "Netlink"
  | .linkNotFound _ => "LinkNotFound"
  | .notABridge _ _ => "NotABridge"
  | .sysctl _ _ => "Sysctl"
  | .firewall _ _ _ => "Firewall"
  | .teardown _ => "Teardown"
  | .ipam cause => cause.kind
  | .file _ => "Io"
  | .snapshotData _ | .malformed => "Serialization"

def failure (kind message : String) : Members := [member "error" kind,member "message" message]

instance : Report Kernel.Error where
  report e := reportMembers (failure e.kind e.message ++
    [member "exists" e.isExists,member "not_found" e.isNotFound,member "errno" (e.reason?.map OsError.code)])

instance : Report Ipam.Error where
  report e := reportMembers (failure e.kind e.message ++ [member "code" e.code])

instance : Report Firewall.ToolError where
  report e := reportMembers (failure e.kind e.message)

instance : Report Files.Error where
  report e := reportMembers (failure "Io" e.message)

def Error.said : Error → Option String
  | .malformed => none
  | e => some e.message

instance : Report Error where
  report e := .ofPresent [
    some (member "error" e.kind),
    e.said.map (member "message"),
    some (member "code" e.code),
    e.help.map (member "help")]

end HostNet
