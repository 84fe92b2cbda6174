import HostNet.Firewall.Iptables.Ops

namespace HostNet.Firewall.Iptables

-- The chains of a table with their rules, in ascending order of their names.
abbrev Chains := List (String × List Rule)

namespace Chains

def find? (chains : Chains) (name : String) : Option (List Rule) := chains.lookup name

def put (name : String) (rules : List Rule) : Chains → Chains
  | [] => [(name,rules)]
  | c :: rest =>
    if c.1 = name then (name,rules) :: rest
    else if name < c.1 then (name,rules) :: c :: rest
    else c :: put name rules rest

def drop (chains : Chains) (name : String) : Chains := chains.filter (·.1 != name)

def builtIn (table : String) : Chains :=
  if table = natTable then [("INPUT",[]),("OUTPUT",[]),(postrouting,[]),("PREROUTING",[])] else []

end Chains

-- The state: whether the tool can be used, the message that every request fails with, and the tables.
structure Memory where
  usable : Bool
  failure : Option String
  tables : Family → String → Chains

namespace Memory

def initial : Memory := ⟨true,none,fun _ table => .builtIn table⟩

instance : Inhabited Memory := ⟨initial⟩

def rules? (m : Memory) (family : Family) (table chain : String) : Option (List Rule) :=
  (m.tables family table).find? chain

def put (m : Memory) (family : Family) (table : String) (chains : Chains) : Memory :=
  { m with tables := fun f t => if f = family ∧ t = table then chains else m.tables f t }

def check (m : Memory) : Except ToolError Unit :=
  match m.failure with
  | some message => .error (.failed message)
  | none => .ok ()

def noChain (chain : String) : ToolError :=
  .notFound ("iptables: No chain/target/match by that name: " ++ chain)

def noRule : ToolError := .notFound "iptables: Bad rule (does a matching rule exist in that chain?)."

def change (family : Family) (table : String) (f : Chains → Except ToolError Chains) :
    Step Memory ToolError Unit :=
  Step.update fun m => do
    m.check
    return m.put family table (← f (m.tables family table))

def listChains (family : Family) (table : String) : Step Memory ToolError (List String) := do
  let m ← get
  Step.ofExcept m.check
  return (m.tables family table).map Prod.fst

def newChain (family : Family) (table chain : String) : Step Memory ToolError Unit :=
  change family table fun chains =>
    match chains.find? chain with
    | some _ => .error (.failed ("iptables: Chain already exists: " ++ chain))
    | none => .ok (chains.put chain [])

-- Appends a rule unless an equal one is there.
def appendUnique (family : Family) (table chain : String) (rule : Rule) : Step Memory ToolError Unit :=
  change family table fun chains =>
    match chains.find? chain with
    | none => .error (noChain chain)
    | some rules => .ok (if rules.contains rule then chains else chains.put chain (rules ++ [rule]))

-- Deletes the first rule that is equal.
def delete (family : Family) (table chain : String) (rule : Rule) : Step Memory ToolError Unit :=
  change family table fun chains =>
    match chains.find? chain with
    | none => .error (noChain chain)
    | some rules => if rules.contains rule then .ok (chains.put chain (rules.erase rule)) else .error noRule

-- Removes the rules of a chain, which is made if it is not there.
def clearChain (family : Family) (table chain : String) : Step Memory ToolError Unit :=
  change family table fun chains => .ok (chains.put chain [])

def deleteChain (family : Family) (table chain : String) : Step Memory ToolError Unit :=
  change family table fun chains =>
    match chains.find? chain with
    | none => .error (noChain chain)
    | some [] => .ok (chains.drop chain)
    | some _ => .error (.failed ("iptables: Directory not empty: " ++ chain))

def ops : Ops Memory where
  supported := fun m => (m.usable,m)
  listChains := listChains
  newChain := newChain
  appendUnique := appendUnique
  delete := delete
  clearChain := clearChain
  deleteChain := deleteChain

end Memory
end HostNet.Firewall.Iptables
