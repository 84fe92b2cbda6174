import HostNet.Program.ShellWord
import HostNet.Program.Utility
import HostNet.Text.Utf8

namespace HostNet.Program

structure SimpleCommand where
  words : List Word
  redirections : List (Nat × Sink)

-- When a pipeline runs, in view of the status before it.
inductive Connector where
  | always
  | afterSuccess
  | afterFailure

structure Pipeline where
  connector : Connector
  commands : List SimpleCommand

def sink? : Nat → Option Sink
  | 1 => some .output
  | 2 => some .errors
  | _ => none

def Piece.literal? : Piece → Option (List Char)
  | .text s => some s
  | .parameter _ _ => none

def literal? (w : Word) : Option String :=
  (w.mapM Piece.literal?).map fun s => String.ofList s.flatten

-- Splits off a simple command. Only the null device can be written to or read from.
def simpleCommand (c : SimpleCommand) : List ShellToken → Option (SimpleCommand × List ShellToken)
  | .word w :: rest => simpleCommand { c with words := c.words ++ [w] } rest
  | .copy source target :: rest => do
    simpleCommand { c with redirections := c.redirections ++ [(source,← sink? target)] } rest
  | .redirect source :: .word w :: rest =>
    if literal? w == some "/dev/null" then
      simpleCommand { c with redirections := c.redirections ++ [(source,.nowhere)] } rest
    else none
  | .redirect _ :: _ => none
  | rest => if c.words.isEmpty && c.redirections.isEmpty then none else some (c,rest)

def pipelines (connector : Connector) (before : List SimpleCommand) : Nat → List ShellToken → Option (List Pipeline)
  | 0, _ => none
  | fuel + 1, tokens => do
    let (c,rest) ← simpleCommand ⟨[],[]⟩ tokens
    let p : Pipeline := ⟨connector,before ++ [c]⟩
    match rest with
    | .pipe :: rest => pipelines connector p.commands fuel rest
    | .both :: rest => return p :: (← pipelines .afterSuccess [] fuel rest)
    | .either :: rest => return p :: (← pipelines .afterFailure [] fuel rest)
    | [] | [.ends] => return [p]
    | _ :: rest => return p :: (← pipelines .always [] fuel rest)

def pipelines? (s : String) : Option (List Pipeline) := do
  let tokens ← shellTokens? s
  let tokens := tokens.dropWhile fun | .ends => true | _ => false
  if tokens.isEmpty then some [] else pipelines .always [] (tokens.length + 1) tokens

-- A running shell: the values of parameters, the input not yet read, what has been written, the status of the last
-- command, and how the shell ended if it has.
structure Shell where
  parameters : List (String × String)
  input : List UInt8
  output : List UInt8
  errors : List UInt8
  status : UInt8
  ended : Option Status

def ownProcess : String := "1"

namespace Shell

def valueOf (sh : Shell) (name : String) : String :=
  if name = "?" then toString sh.status.toNat
  else if name = "$" then ownProcess
  else (sh.parameters.lookup name).getD ""

def extend (words : List (List Char)) (s : List Char) : List (List Char) :=
  match words.getLast? with
  | some last => words.dropLast ++ [last ++ s]
  | none => [s]

-- Adds the value of a parameter without quotes, whose blanks separate words.
def split (words : List (List Char)) (apart : Bool) : List Char → List (List Char) × Bool
  | [] => (words,apart)
  | c :: rest =>
    if c == ' ' || c == '\t' || c == '\n' then split words true rest
    else if apart then split (words ++ [[c]]) false rest
    else split (extend words [c]) false rest

-- The words that a word becomes: none if all it has are parameters without quotes and without values.
def expand (sh : Shell) (w : Word) : List String :=
  let step (s : List (List Char) × Bool) : Piece → List (List Char) × Bool
    | .text t => if s.2 then (s.1 ++ [t],false) else (extend s.1 t,false)
    | .parameter name true => if s.2 then (s.1 ++ [(sh.valueOf name).toList],false)
      else (extend s.1 (sh.valueOf name).toList,false)
    | .parameter name false => split s.1 s.2 (sh.valueOf name).toList
  ((w.foldl step ([],false)).1).map String.ofList

def signals : List (String × Nat) :=
  [("HUP",1),("INT",2),("QUIT",3),("ILL",4),("TRAP",5),("ABRT",6),("BUS",7),("FPE",8),("KILL",9),
    ("USR1",10),("SEGV",11),("USR2",12),("PIPE",13),("ALRM",14),("TERM",15),("CHLD",17),("CONT",18)]

-- Signals that end no process.
def harmlessSignals : List Nat := [0,17,18,23,28]

def signal? (s : String) : Option Nat := (signals.lookup s).or s.toNat?

-- Sends a signal to processes, of which only the shell's own is known.
def kill (sh : Shell) (arguments : List String) : Outcome × Option Status :=
  let (signal,targets) := match arguments with
    | "-s" :: name :: rest => (signal? name,rest)
    | first :: rest => if "-".isPrefixOf first then (signal? (first.drop 1).toString,rest) else (some 15,arguments)
    | [] => (some 15,[])
  match signal, targets with
  | some n, [target] =>
    if target != ownProcess then (.complained "sh: 1: kill: No such process" 1 sh.input,none)
    else if harmlessSignals.contains n then (.silent 0 sh.input,none)
    else (.silent 0 sh.input,some (.killed n))
  | _, _ => (.complained "sh: 1: kill: Illegal option" 2 sh.input,none)

def echo : Utility := fun arguments input =>
  let silent := arguments.head? == some "-n"
  let line := " ".intercalate (if silent then arguments.drop 1 else arguments)
  let (bytes,ended) := expandEscapes true [] line.length line.toList
  .wrote (if ended || silent then bytes else bytes ++ [0xa]) input

-- Runs a command of known words. Tells whether the shell ends with it.
def runWords (utilities : List (String × Utility)) (sh : Shell) : List String → Outcome × Option Status
  | [] => (.silent 0 sh.input,none)
  | name :: arguments =>
    match name with
    | ":" => (.silent 0 sh.input,none)
    | "exit" =>
      let code := ((arguments.head?.bind String.toNat?).map UInt8.ofNat).getD sh.status
      (.silent code sh.input,some (.exited code))
    | "kill" => sh.kill arguments
    | "echo" => (echo arguments sh.input,none)
    | "printf" => (printf "sh: 1: printf" arguments sh.input,none)
    | _ =>
      match utilities.lookup ((name.splitOn "/").getLast?.getD name) with
      | some utility => (utility arguments sh.input,none)
      | none => (.complained ("sh: 1: " ++ name ++ ": not found") 127 sh.input,none)

def sinks (redirections : List (Nat × Sink)) : Sink × Sink :=
  redirections.foldl (fun s r =>
    let target := match r.2 with
      | .output => s.1
      | .errors => s.2
      | .nowhere => .nowhere
    if r.1 == 1 then (target,s.2) else if r.1 == 2 then (s.1,target) else s) (.output,.errors)

def collect (target : Sink) (s : Sink × Sink) (o : Outcome) : List UInt8 :=
  (if s.1 = target then o.output else []) ++ (if s.2 = target then o.errors else [])

def codeOf : Status → UInt8
  | .exited code => code
  | .killed signal => UInt8.ofNat (128 + signal)

def runCommand (utilities : List (String × Utility)) (sh : Shell) (c : SimpleCommand) : Shell :=
  let noInput := c.redirections.any fun r => r.1 == 0
  let words := c.words.flatMap sh.expand
  let (o,ended) := runWords utilities (if noInput then { sh with input := [] } else sh) words
  let s := sinks c.redirections
  { sh with
    input := if noInput then sh.input else o.unread
    output := sh.output ++ collect .output s o
    errors := sh.errors ++ collect .errors s o
    status := codeOf o.status
    ended := ended }

-- Runs the commands of a pipeline. Each but a single one runs in a shell of its own, which ends alone.
def runCommands (utilities : List (String × Utility)) (sh : Shell) : List SimpleCommand → Shell
  | [] => sh
  | [c] => runCommand utilities sh c
  | c :: rest =>
    let first := runCommand utilities { sh with output := [] } c
    let last := runCommands utilities { sh with input := first.output,errors := first.errors } rest
    { last with input := first.input,ended := none }

-- Runs a pipeline unless the status before it or the end of the shell prevents it.
def runPipeline (utilities : List (String × Utility)) (sh : Shell) (p : Pipeline) : Shell :=
  let runs := sh.ended.isNone && match p.connector with
    | .always => true
    | .afterSuccess => sh.status == 0
    | .afterFailure => sh.status != 0
  if runs then runCommands utilities sh p.commands else sh

def positional (arguments : List String) : List (String × String) :=
  let given := arguments.drop 1
  let numbered := (List.range arguments.length).map toString |>.zip arguments
  [("#",toString given.length),("@"," ".intercalate given),("*"," ".intercalate given)] ++ numbered ++
    [("0","sh")]

def run (utilities : List (String × Utility)) (text : String) : Utility := fun arguments input =>
  match pipelines? text with
  | none => .complained "sh: 1: Syntax error" 2 input
  | some list =>
    let sh := list.foldl (runPipeline utilities) ⟨positional arguments,input,[],[],0,none⟩
    ⟨sh.output,sh.errors,sh.ended.getD (.exited sh.status),sh.input⟩

end Shell

def shell (utilities : List (String × Utility)) : Utility := fun arguments input =>
  match arguments with
  | "-c" :: text :: rest => Shell.run utilities text rest input
  | ["-c"] => .complained "sh: 0: -c requires an argument" 2 input
  | [] => Shell.run utilities (Text.ofUtf8Lossy input) [] []
  | file :: _ => .complained ("sh: 0: cannot open " ++ file ++ ": No such file") 2 input

-- The programs by their names, with shells that run others up to `depth` deep.
def utilities : Nat → List (String × Utility)
  | 0 => simpleUtilities
  | depth + 1 => ("sh",shell (utilities depth)) :: simpleUtilities

end HostNet.Program
