import HostNet.Firewall.Nft.Ops

namespace HostNet.Firewall.Nft

structure Stored where
  listed : Listed
  rule : Rule
deriving DecidableEq, Repr

-- Whether the table is there, its chains in the order in which they were made, and the last handle.
structure Ruleset where
  table : Bool
  chains : List (String × List Stored)
  lastHandle : Nat
deriving DecidableEq, Repr

namespace Ruleset

def empty : Ruleset := ⟨false,[],0⟩

def rules? (r : Ruleset) (chain : String) : Option (List Stored) := r.chains.lookup chain

def rules (r : Ruleset) (chain : String) : Except ToolError (List Stored) :=
  match r.rules? chain with
  | some rules => .ok rules
  | none => .error (.notFound ("Error: No such file or directory; chain " ++ chain))

def put (r : Ruleset) (chain : String) (rules : List Stored) : Ruleset :=
  { r with chains := r.chains.map fun c => if c.1 = chain then (chain,rules) else c }

def apply (r : Ruleset) : Change → Except ToolError Ruleset
  | .addTable _ => .ok { r with table := true }
  | .addChain name _ _ =>
    if !r.table then .error (.notFound "Error: No such file or directory; table")
    else match r.rules? name with
      | some _ => .ok r
      | none => .ok { r with chains := r.chains ++ [(name,[])] }
  | .flushChain name => do
    let _ ← r.rules name
    return r.put name []
  | .addRule chain rule comment => do
    let handle := r.lastHandle + 1
    let rules ← r.rules chain
    return { r.put chain (rules ++ [⟨⟨chain,handle,comment⟩,rule⟩]) with lastHandle := handle }
  | .deleteRule chain handle => do
    let rules ← r.rules chain
    if rules.any (·.listed.handle == handle) then
      return r.put chain (rules.eraseP (·.listed.handle == handle))
    else throw (.notFound
      s!"Error: Could not process rule: No such file or directory; handle {handle}")

-- A transaction is applied as a whole or not at all.
def applyAll (r : Ruleset) (t : Transaction) : Except ToolError Ruleset := t.foldlM apply r

end Ruleset

-- The state: whether the tool can be used, the message that every request fails with, the ruleset, and how many
-- transactions were applied, with the script of the last.
structure Memory where
  usable : Bool
  failure : Option String
  ruleset : Ruleset
  transactions : Nat
  lastScript : Option String
deriving DecidableEq, Repr

namespace Memory

def initial : Memory := ⟨true,none,.empty,0,none⟩

instance : Inhabited Memory := ⟨initial⟩

def check (m : Memory) : Except ToolError Unit :=
  match m.failure with
  | some message => .error (.failed message)
  | none => .ok ()

def listRules (chain : String) : Step Memory ToolError (List Listed) := do
  let m ← get
  Step.ofExcept m.check
  return (← Step.ofExcept (m.ruleset.rules chain)).map Stored.listed

def run (t : Transaction) : Step Memory ToolError Unit :=
  Step.update fun m => do
    m.check
    let ruleset ← m.ruleset.applyAll t
    return { m with ruleset,transactions := m.transactions + 1,lastScript := some t.script }

def ops : Ops Memory where
  supported := fun m => (m.usable,m)
  listRules := listRules
  run := run

end Memory
end HostNet.Firewall.Nft
