import HostNet.Program.ByteMap

namespace HostNet.Program

def isEchoOption (s : String) : Bool :=
  match s.toList with
  | '-' :: c :: rest => (c :: rest).all ['n','e','E'].contains
  | _ => false

def echo : Utility := fun arguments input =>
  let (options,words) := arguments.span isEchoOption
  let letters := options.flatMap String.toList
  let escapes := (letters.filter (· != 'n')).getLast? == some 'e'
  let line := " ".intercalate words
  let (bytes,ended) := if escapes then expandEscapes true [] line.length line.toList else (bytesOf line,false)
  .wrote (if ended || letters.contains 'n' then bytes else bytes ++ [0xa]) input

def printf (name : String) : Utility := fun arguments input =>
  let arguments := if arguments.head? == some "--" then arguments.drop 1 else arguments
  match arguments with
  | [] => .complained (name ++ ": missing operand\nTry '" ++ name ++ " --help' for more information.") 1 input
  | pattern :: rest =>
    let f := format pattern rest
    let errors := f.complaints.flatMap fun c => bytesOf (name ++ ": " ++ c ++ "\n")
    ⟨f.output,errors,.exited (if f.complaints.isEmpty then 0 else 1),input⟩

-- Adds a file to what `cat` has written; a dash stands for the input. No file is seen but the null device.
def catFile (o : Outcome) (name : String) : Outcome :=
  if name = "-" then { o with output := o.output ++ o.unread,unread := [] }
  else if name = "/dev/null" then o
  else { o with
    errors := o.errors ++ bytesOf ("cat: " ++ name ++ ": No such file or directory\n")
    status := .exited 1 }

def cat : Utility := fun arguments input =>
  match longOption? arguments with
  | some option => unknownOption "cat" option 1 input
  | none =>
    let files := arguments.filter fun a => a == "-" || !"-".isPrefixOf a
    (if files.isEmpty then ["-"] else files).foldl catFile (.silent 0 input)

-- Lists nothing: complains of options and of files that are not there.
def ls : Utility := fun arguments input =>
  match longOption? arguments with
  | some option => unknownOption "ls" option 2 input
  | none =>
    let files := arguments.filter fun a => !"-".isPrefixOf a
    let complaint (f : String) := bytesOf ("ls: cannot access '" ++ f ++ "': No such file or directory\n")
    ⟨[],files.flatMap complaint,.exited (if files.isEmpty then 0 else 2),input⟩

def wc : Utility := fun arguments input =>
  let lines := input.count 0xa
  let count := if arguments.contains "-c" then some input.length
    else if arguments.contains "-l" then some lines
    else none
  match count with
  | some n => .wrote (bytesOf (toString n ++ "\n")) []
  | none => .complained "wc: missing option" 1 []

def takeLines : Nat → List UInt8 → List UInt8
  | 0, _ => []
  | n + 1, s =>
    let (line,rest) := s.span (· != 0xa)
    match rest with
    | [] => line
    | b :: rest => line ++ b :: takeLines n rest

def head : Utility := fun arguments input =>
  match arguments with
  | ["-c",n] => .wrote (input.take (n.toNat?.getD 0)) []
  | ["-n",n] => .wrote (takeLines (n.toNat?.getD 0) input) []
  | _ => .wrote (takeLines 10 input) []

def simpleUtilities : List (String × Utility) := [
  ("true",fun _ input => .silent 0 input),
  ("false",fun _ input => .silent 1 input),
  ("echo",echo),
  ("printf",printf "printf"),
  ("cat",cat),
  ("ls",ls),
  ("tr",tr),
  ("wc",wc),
  ("head",head)]

end HostNet.Program
