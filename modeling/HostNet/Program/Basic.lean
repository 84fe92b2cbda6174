namespace HostNet.Program

inductive Status where
  | exited (code : UInt8)
  | killed (signal : Nat)
deriving DecidableEq, Repr

def Status.code? : Status → Option Int
  | .exited code => some code.toNat
  | .killed _ => none

-- What a program left: what it wrote to its two outputs, how it ended, and the input that it did not read.
structure Outcome where
  output : List UInt8
  errors : List UInt8
  status : Status
  unread : List UInt8
deriving DecidableEq, Repr

-- What a program makes of its arguments and its input.
abbrev Utility := List String → List UInt8 → Outcome

def bytesOf (s : String) : List UInt8 := s.toUTF8.toList

namespace Outcome

def silent (code : UInt8) (unread : List UInt8) : Outcome := ⟨[],[],.exited code,unread⟩

def wrote (output unread : List UInt8) : Outcome := ⟨output,[],.exited 0,unread⟩

def complained (message : String) (code : UInt8) (unread : List UInt8) : Outcome :=
  ⟨[],bytesOf (message ++ "\n"),.exited code,unread⟩

end Outcome

def unknownOption (program option : String) (code : UInt8) (unread : List UInt8) : Outcome :=
  .complained (program ++ ": unrecognized option '" ++ option ++ "'\nTry '" ++ program ++
    " --help' for more information.") code unread

def longOption? (arguments : List String) : Option String :=
  (arguments.takeWhile (· != "--")).find? fun a => "--".isPrefixOf a

end HostNet.Program
