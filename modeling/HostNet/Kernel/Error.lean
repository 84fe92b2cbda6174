import HostNet.OsError

namespace HostNet.Kernel

inductive Error where
  -- A listing became invalid while it was read.
  | interrupted
  | refused (reason : OsError)
  | socket (reason : OsError)
  | other (message : String)
deriving DecidableEq, Repr

namespace Error

def message : Error → String
  | .interrupted => "netlink dump interrupted"
  | .refused e => s!"{e.message} (errno {e.code})"
  | .socket e => "netlink socket error: " ++ e.message
  | .other text => text

def reason? : Error → Option OsError
  | .refused e => some e
  | _ => none

def isExists (e : Error) : Bool :=
  e.reason? == some .alreadyExists

def isNotFound (e : Error) : Bool :=
  e.reason? == some .noDevice || e.reason? == some .noEntry || e.reason? == some .addressNotAvailable

def ofReason (e : OsError) : Error :=
  if e = .interrupted then .interrupted else .refused e

end Error
end HostNet.Kernel
