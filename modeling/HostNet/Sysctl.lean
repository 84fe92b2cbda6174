import HostNet.Error
import HostNet.Step
import HostNet.Text.Blank

namespace HostNet.Sysctl

def exchange (c : Char) : Char :=
  if c = '.' then '/' else if c = '/' then '.' else c

-- The name as a path: a name whose first separator is a dot has dots and slashes exchanged.
def keyChars (name : List Char) : List Char :=
  match name.find? fun c => c = '.' || c = '/' with
  | some '.' => name.map exchange
  | _ => name

def key (name : String) : String :=
  String.ofList (keyChars name.toList)

def installedRoot : String := "/proc/sys"

def path (root name : String) : String := Path.join root (key name)

def get (root name : String) : Step Files Error String := fun files =>
  match files.read (path root name) with
  | .ok text => .ok (Text.trimEnd text) files
  | .error e => .error (.sysctl (key name) e) files

def set (root name value : String) : Step Files Error Unit :=
  Step.update fun files => (files.write (path root name) value).mapError (.sysctl (key name))

def forwarding : Family → String
  | .v4 => "net.ipv4.ip_forward"
  | .v6 => "net.ipv6.conf.all.forwarding"

-- Turns forwarding on. A switch that is on already is not written.
def enableForwarding (root : String) (family : Family) : Step Files Error Unit := do
  if (← get root (forwarding family)) == "1" then return ()
  set root (forwarding family) "1"

def enableForwardingFor (root : String) (addresses : List Address) : Step Files Error Unit := do
  if addresses.any (·.family == .v4) then enableForwarding root .v4
  if addresses.any (·.family == .v6) then enableForwarding root .v6

end HostNet.Sysctl
