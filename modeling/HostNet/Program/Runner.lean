import HostNet.Files.Basic
import HostNet.Firewall.Tool
import HostNet.Program.Shell

namespace HostNet.Program

inductive StartError where
  | nulInCommand
  | file (e : Files.Error)
deriving DecidableEq, Repr

def StartError.message : StartError → String
  | .nulInCommand => "nul byte found in provided data"
  | .file e => e.message

-- How deep shells may start one another.
def shellDepth : Nat := 8

def programs : List (String × Utility) := utilities shellDepth

def host : Files :=
  let directories := ["bin","dev","etc","home","lib","opt","proc","root","run","sbin","srv","sys","tmp",
    "usr","var"].map fun name => [name]
  let tree := (directories ++ [["usr","bin"],["usr","lib"],["usr","local"],["usr","sbin"]]).foldl
    (fun files place => files.put place .directory) Files.empty
  (programs.map Prod.fst).foldl (fun files name =>
    (files.put ["bin",name] (.file [])).put ["usr","bin",name] (.file [])) tree

-- The program of a name. A name with a slash is a path; others are looked for among the programs, where the
-- directories above stand too.
def program? (name : String) : Except StartError Utility :=
  if name.toList.contains '/' then
    match host.look name with
    | .error e => .error (.file e)
    | .ok .directory => .error (.file (.os .permissionDenied))
    | .ok (.file _) => ((programs.lookup (String.ofList (Path.lastName name))).elim
        (.error (.file (.os .permissionDenied))) .ok)
  else if name = "." ∨ name = ".." then .error (.file (.os .permissionDenied))
  else if 255 < name.utf8ByteSize then .error (.file (.os .nameTooLong))
  else (programs.lookup name).elim (.error (.file (.os .noEntry))) .ok

def run (c : Firewall.Command) : Except StartError Firewall.Finished := do
  if (c.program :: c.arguments).any (·.toList.contains '\x00') then throw .nulInCommand
  let utility ← program? c.program
  let o := utility c.arguments (bytesOf (c.input.getD ""))
  return ⟨Text.ofUtf8Lossy o.output,Text.ofUtf8Lossy o.errors,o.status.code?⟩

end HostNet.Program
