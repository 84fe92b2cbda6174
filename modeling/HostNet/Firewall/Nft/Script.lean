import HostNet.Subnet.Text

namespace HostNet.Firewall.Nft

def family : String := "inet"

def table : String := "cni_plugins_masquerade"

def checksChain : String := "masq_checks"

def postroutingChain : String := "postrouting"

inductive Rule where
  -- Packets to the subnet are left alone.
  | returnTo (destination : Subnet)
  | goto (chain : String)
  -- Masquerades what an address sends out of a subnet.
  | masquerade (source : Address) (inside : Subnet)
  | words (text : String)
deriving DecidableEq, Repr

def familyWord : Family → String
  | .v4 => "ip"
  | .v6 => "ip6"

def Rule.text : Rule → String
  | .returnTo net => familyWord net.family ++ " daddr == " ++ net.text ++ "  return"
  | .goto chain => "goto " ++ chain
  | .masquerade source inside =>
    let word := familyWord source.family
    word ++ " saddr == " ++ source.text ++ " " ++ word ++ " daddr != " ++ inside.text ++ " masquerade"
  | .words text => text

structure Hook where
  type : String
  hook : String
  priority : String
deriving DecidableEq, Repr

inductive Change where
  | addTable (comment : Option String)
  | addChain (name : String) (hook : Option Hook) (comment : Option String)
  | flushChain (name : String)
  | addRule (chain : String) (rule : Rule) (comment : Option String)
  | deleteRule (chain : String) (handle : Nat)
deriving DecidableEq, Repr

def target : String := family ++ " " ++ table

def commentText (comment : String) : String := "comment \"" ++ comment ++ "\""

def chainSpec (hook : Option Hook) (comment : Option String) : String :=
  (match hook with
    | none => ""
    | some h => " type " ++ h.type ++ " hook " ++ h.hook ++ " priority " ++ h.priority ++ " ;") ++
  (match comment with
    | none => ""
    | some c => " " ++ commentText c ++ " ;")

def Change.command : Change → String
  | .addTable none => "add table " ++ target
  | .addTable (some c) => "add table " ++ target ++ " \x7b " ++ commentText c ++ " ; \x7d"
  | .addChain name hook comment =>
    let spec := chainSpec hook comment
    "add chain " ++ target ++ " " ++ name ++ (if spec.isEmpty then "" else " \x7b" ++ spec ++ " \x7d")
  | .flushChain name => "flush chain " ++ target ++ " " ++ name
  | .addRule chain rule none => "add rule " ++ target ++ " " ++ chain ++ " " ++ rule.text
  | .addRule chain rule (some c) =>
    "add rule " ++ target ++ " " ++ chain ++ " " ++ rule.text ++ " " ++ commentText c
  | .deleteRule chain handle =>
    "delete rule " ++ target ++ " " ++ chain ++ " handle " ++ toString handle

-- Changes that are made together or not at all.
abbrev Transaction := List Change

def Transaction.script (t : Transaction) : String :=
  String.join (t.map fun change => change.command ++ "\n")

structure Listed where
  chain : String
  handle : Nat
  comment : Option String
deriving DecidableEq, Repr

end HostNet.Firewall.Nft
