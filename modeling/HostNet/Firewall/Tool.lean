import HostNet.OsError
import HostNet.Step

namespace HostNet.Firewall

inductive Backend where
  | iptables
  | nftables
deriving DecidableEq, Repr

def Backend.name : Backend → String
  | .iptables => "iptables"
  | .nftables => "nftables"

def Backend.ofName? (s : String) : Option Backend :=
  if s = "iptables" then some .iptables
  else if s = "nftables" then some .nftables
  else none

-- How a tool reports failure: the object is not there, or anything else.
inductive ToolError where
  | notFound (message : String)
  | failed (message : String)
deriving DecidableEq, Repr

def ToolError.message : ToolError → String
  | .notFound m => m
  | .failed m => m

def ToolError.isNotFound : ToolError → Bool
  | .notFound _ => true
  | .failed _ => false

structure Command where
  program : String
  arguments : List String
  input : Option String
deriving DecidableEq, Repr

-- What a finished command left. There is no code if a signal ended it.
structure Finished where
  output : String
  errors : String
  code : Option Int
deriving DecidableEq, Repr

def Finished.success (f : Finished) : Bool := f.code == some 0

-- Something that runs commands; it fails only if a command cannot be started.
abbrev Runner (σ : Type) := Command → Step σ OsError Finished

-- A runner with known results, used up in order; when none is left every command succeeds silently. The commands that
-- were run are kept.
structure Script where
  results : List (Except OsError Finished)
  ran : List Command

def Script.run : Runner Script := fun command s =>
  let s' : Script := ⟨s.results.drop 1,s.ran ++ [command]⟩
  match s.results.head? with
  | none => .ok ⟨"","",some 0⟩ s'
  | some (.ok finished) => .ok finished s'
  | some (.error e) => .error e s'

end HostNet.Firewall
