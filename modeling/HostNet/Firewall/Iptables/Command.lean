import HostNet.Firewall.Iptables.Ops
import HostNet.Path
import HostNet.Text.Blank

namespace HostNet.Firewall.Iptables.Command

def program : Family → String
  | .v4 => "iptables"
  | .v6 => "ip6tables"

def absentMessages : List String :=
  ["Bad rule (does a matching rule exist in that chain?)","No chain/target/match by that name",
    "does not exist"]

def isAbsent (f : Finished) : Bool :=
  f.code == some 1 && absentMessages.any fun m => Text.occursIn m.toList f.errors.toList

def run (runner : Runner σ) (family : Family) (arguments : List String) : Step σ ToolError Finished := do
  let name := program family
  let f ← Step.mapError (fun e => .failed ("failed to run " ++ name ++ ": " ++ e.message))
    (runner ⟨name,"--wait" :: arguments,none⟩)
  let said := Text.trim f.errors
  if f.success then return f
  else if isAbsent f then throw (.notFound said)
  else throw (.failed ("running " ++ name ++ " " ++ " ".intercalate arguments ++
    s!": exit status {f.code.getD (-1)}: " ++ said))

def perform (runner : Runner σ) (family : Family) (arguments : List String) : Step σ ToolError Unit := do
  let _ ← run runner family arguments

def declared? (line : List Char) : Option String :=
  match Text.words line with
  | flag :: chain :: _ => if flag = "-P" ∨ flag = "-N" then some chain else none
  | _ => none

def listChains (runner : Runner σ) (family : Family) (table : String) :
    Step σ ToolError (List String) := do
  let f ← run runner family ["-t",table,"-S"]
  return (Path.pieces '\n' f.output.toList).filterMap declared?

def newChain (runner : Runner σ) (family : Family) (table chain : String) : Step σ ToolError Unit :=
  perform runner family ["-t",table,"-N",chain]

-- Appends a rule if the tool finds none that is equal.
def appendUnique (runner : Runner σ) (family : Family) (table chain : String) (rule : Rule) :
    Step σ ToolError Unit := do
  match ← Step.attempt (run runner family (["-t",table,"-C",chain] ++ rule)) with
  | .ok _ => return ()
  | .error (.notFound _) => perform runner family (["-t",table,"-A",chain] ++ rule)
  | .error e => throw e

def delete (runner : Runner σ) (family : Family) (table chain : String) (rule : Rule) :
    Step σ ToolError Unit :=
  perform runner family (["-t",table,"-D",chain] ++ rule)

-- Removes the rules of a chain, which is made if the listing does not show it.
def clearChain (runner : Runner σ) (family : Family) (table chain : String) : Step σ ToolError Unit := do
  if (← listChains runner family table).contains chain then
    perform runner family ["-t",table,"-F",chain]
  else newChain runner family table chain

def deleteChain (runner : Runner σ) (family : Family) (table chain : String) : Step σ ToolError Unit :=
  perform runner family ["-t",table,"-X",chain]

-- Whether the tool can be used, which is so if it can list a chain that is always there.
def supported (runner : Runner σ) : StateM σ Bool := fun s =>
  match run runner .v4 ["-t","filter","-n","-L","INPUT"] s with
  | .ok _ s => (true,s)
  | .error _ s => (false,s)

def ops (runner : Runner σ) : Ops σ where
  supported := supported runner
  listChains := listChains runner
  newChain := newChain runner
  appendUnique := appendUnique runner
  delete := delete runner
  clearChain := clearChain runner
  deleteChain := deleteChain runner

end HostNet.Firewall.Iptables.Command
