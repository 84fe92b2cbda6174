import HostNet.Proofs.ChainRuns
import HostNet.Proofs.CommandTables

namespace HostNet.Firewall.Iptables.Command
open Step (Agree Corresponds Unrelated)
open Text (Word)

-- Requests as they come from anyone.
inductive Request where
  | listChains (family : Family) (table : String)
  | newChain (family : Family) (table chain : String)
  | appendUnique (family : Family) (table chain : String) (rule : Rule)
  | delete (family : Family) (table chain : String) (rule : Rule)
  | clearChain (family : Family) (table chain : String)
  | deleteChain (family : Family) (table chain : String)
deriving DecidableEq

namespace Request

-- The chain that a request is about.
def chain? : Request → Option String
  | .listChains _ _ => none
  | .newChain _ _ chain | .appendUnique _ _ chain _ | .delete _ _ chain _ | .clearChain _ _ chain
  | .deleteChain _ _ chain => some chain

-- What it tells: the names of chains, if it asks for them.
def perform (ops : Ops σ) : Request → Step σ ToolError (List String)
  | .listChains family table => ops.listChains family table
  | .newChain family table chain => do ops.newChain family table chain; return []
  | .appendUnique family table chain rule => do ops.appendUnique family table chain rule; return []
  | .delete family table chain rule => do ops.delete family table chain rule; return []
  | .clearChain family table chain => do ops.clearChain family table chain; return []
  | .deleteChain family table chain => do ops.deleteChain family table chain; return []

theorem perform_corresponds (w : Manner) (r : Request) (named : ∀ chain ∈ r.chain?, Word chain) :
    Corresponds (fun m n => m = n ∧ Named n) SameNames SameKind (r.perform (Command.ops (tool w)))
      (r.perform Memory.ops) := by
  have silent {x y : Step Memory ToolError Unit}
      (same : Corresponds (fun m n => m = n ∧ Named n) Unrelated SameKind x y) :
      Corresponds (fun m n => m = n ∧ Named n) SameNames SameKind (do x; return []) (do y; return []) :=
    Step.corresponds_bind same fun _ _ _ => Step.corresponds_pure fun _ => Iff.rfl
  cases r with
  | listChains family table => exact listChains_corresponds w family table
  | newChain family table chain =>
    exact silent (corresponds_named (newChain_corresponds w family table chain)
      (newChain_named family table (named chain rfl)))
  | appendUnique family table chain rule =>
    exact silent (corresponds_named (appendUnique_corresponds w family table chain rule)
      (appendUnique_named family table chain rule))
  | delete family table chain rule =>
    exact silent (corresponds_named (delete_corresponds w family table chain rule)
      (delete_named family table chain rule))
  | clearChain family table chain => exact silent (clearChain_corresponds w family table (named chain rfl))
  | deleteChain family table chain =>
    exact silent (corresponds_named (deleteChain_corresponds w family table chain)
      (deleteChain_named family table chain))

end Request

-- A tool that says what iptables says.
def Manner.iptables : Manner where
  policy? table chain :=
    if table = natTable ∧ chain ∈ ["PREROUTING","INPUT","OUTPUT",postrouting] then some "ACCEPT" else none
  written rule := String.ofList ((" ".intercalate rule).toList.filter (· != '\n'))
  arranged lines := lines
  noChain _ := ⟨"","iptables: No chain/target/match by that name.\n",some 1⟩
  noRule _ := ⟨"","iptables: Bad rule (does a matching rule exist in that chain?).\n",some 1⟩
  refused arguments := ⟨"",if arguments.head? = some "-X" then "iptables: Directory not empty.\n"
    else "iptables: Chain already exists.\n",some 1⟩
  policy_line table chain policy told := by
    split at told
    · cases told; decide
    · cases told
  written_line rule := by simp
  arranged_perm lines := .refl lines
  noChain_said _ := by decide
  noRule_said _ := by decide
  refused_said arguments := by
    split <;> decide

end HostNet.Firewall.Iptables.Command

namespace HostNet.Masquerade.Iptables
open Step (Corresponds Unrelated Agree)
open Firewall (ToolError)
open Firewall.Iptables Firewall.Iptables.Command
open Text (Word)

theorem hexDigest_whole (text : String) : ∀ c ∈ Digest.hexDigest text, Text.isBlank c = false := by
  have digits : ∀ n < 16, Text.isBlank (Text.Hex.digit n) = false := by decide
  intro c member
  obtain ⟨b,_,either⟩ := List.mem_flatMap.mp member
  have small := b.toNat_lt
  simp only [List.mem_cons,List.not_mem_nil,or_false] at either
  rcases either with rfl | rfl
  · exact digits _ (by omega)
  · exact digits _ (by omega)

theorem chainName_word (network id : String) : Word (chainName network id) := by
  have start : Word chainStart := by decide
  unfold chainName Digest.label?
  split
  · exact start
  · rw [Option.getD_some]
    constructor
    · rw [String.toList_append]
      exact List.append_ne_nil_of_left_ne_nil start.filled _
    · intro c member
      rw [String.toList_append,String.toList_ofList] at member
      rcases List.mem_append.mp member with begun | digit
      · exact start.whole c begun
      · exact hexDigest_whole _ c (List.mem_of_mem_take digit)

-- For the chain of an identity masquerading asks the commands for what it asks the tables for.
theorem tools_command (w : Manner) {chain : String} (word : Word chain) :
    Tools chain (fun m n => m = n ∧ Named n) SameKind (Command.ops (tool w)) Memory.ops where
  listChains family := (listChains_corresponds w family natTable).imp fun names others same => by
    rw [Bool.eq_iff_iff,List.contains_iff_mem,List.contains_iff_mem]
    exact same chain
  newChain family := corresponds_named (newChain_corresponds w family natTable chain)
    (newChain_named family natTable word)
  appendUnique family rule := corresponds_named (appendUnique_corresponds w family natTable chain rule)
    (appendUnique_named family natTable chain rule)
  clearChain family := clearChain_corresponds w family natTable word
  deleteChain family := corresponds_named (deleteChain_corresponds w family natTable chain)
    (deleteChain_named family natTable chain)
  enter family _ _ := corresponds_named (appendUnique_corresponds w family natTable postrouting _)
    (appendUnique_named family natTable postrouting _)
  leave family _ _ := corresponds_named (delete_corresponds w family natTable postrouting _)
    (delete_named family natTable postrouting _)

theorem wording_kind : Wording SameKind Unrelated Unrelated where
  kind _ _ same := same
  words _ _ _ := trivial
  one _ _ _ _ := trivial
  several _ _ _ _ := trivial

theorem call_corresponds (w : Manner) (identity : Identity) (c : Call) :
    Corresponds (fun m n => m = n ∧ Named n) Unrelated Unrelated (c.perform (Command.ops (tool w)) identity)
      (c.perform Memory.ops identity) := by
  have tools := tools_command w (chainName_word identity.network identity.id)
  cases c with
  | install nets => exact install_corresponds tools wording_kind nets
  | teardown nets => exact teardown_corresponds tools wording_kind nets

-- Over a tool that keeps its tables as they are kept in memory, requests made as commands tell what requests to those
-- tables tell and leave the same; so masquerading leaves the same rules with either, and succeeds or fails alike.
theorem commands_follow_tables (w : Manner) (m : Memory) (named : Named m) :
    (∀ requests : List Request, (∀ r ∈ requests, ∀ chain ∈ r.chain?, Word chain) →
      List.Forall₂ (Agree SameNames SameKind)
          (Step.several (requests.map (·.perform (Command.ops (tool w)))) m).1
          (Step.several (requests.map (·.perform Memory.ops)) m).1 ∧
        (Step.several (requests.map (·.perform (Command.ops (tool w)))) m).2 =
          (Step.several (requests.map (·.perform Memory.ops)) m).2) ∧
    ∀ calls : List (Identity × Call),
      List.Forall₂ (Agree Unrelated Unrelated)
          (Step.several (calls.map fun c => c.2.perform (Command.ops (tool w)) c.1) m).1
          (Step.several (calls.map fun c => c.2.perform Memory.ops c.1) m).1 ∧
        (Step.several (calls.map fun c => c.2.perform (Command.ops (tool w)) c.1) m).2 =
          (Step.several (calls.map fun c => c.2.perform Memory.ops c.1) m).2 := by
  constructor
  · intro requests words
    have same := Step.several_corresponds requests (fun r member => Request.perform_corresponds w r (words r member))
      (s := m) (t := m) ⟨rfl,named⟩
    exact ⟨same.1,same.2.1⟩
  · intro calls
    have same := Step.several_corresponds calls (fun c _ => call_corresponds w c.1 c.2) (s := m) (t := m) ⟨rfl,named⟩
    exact ⟨same.1,same.2.1⟩

def chores : List Request :=
  [.newChain .v4 natTable "PETA-1",.newChain .v4 natTable "PETA-1",
    .appendUnique .v4 natTable postrouting ["-s","10.22.0.1/24","-j","PETA-1"],
    .appendUnique .v4 natTable postrouting ["-s","10.22.0.1/24","-j","PETA-1"],
    .delete .v4 natTable postrouting ["-j","PETA-1"],.clearChain .v4 natTable "PETA-2",.listChains .v4 natTable,
    .deleteChain .v4 natTable postrouting]

-- Chores of every kind, among them some that fail, and calls for a network.
theorem chores_follow :
    let pods : List (Identity × Call) := [(.ofNetwork "pods",.install [.ofAddress (.ofNat .v4 0x0A160001) 24]),
      (.ofNetwork "pods",.teardown [.ofAddress (.ofNat .v4 0x0A160001) 24])]
    Named Memory.initial ∧ (∀ r ∈ chores, ∀ chain ∈ r.chain?, Word chain) ∧
    List.Forall₂ (Agree SameNames SameKind)
      (Step.several (chores.map (·.perform (Command.ops (tool .iptables)))) Memory.initial).1
      (Step.several (chores.map (·.perform Memory.ops)) Memory.initial).1 ∧
    (Step.several (chores.map (·.perform Memory.ops)) Memory.initial).1.map Except.toOption =
      [some [],none,some [],some [],none,some [],
        some ["INPUT","OUTPUT","PETA-1","PETA-2",postrouting,"PREROUTING"],none] ∧
    (Step.several (pods.map fun c => c.2.perform (Command.ops (tool .iptables)) c.1) Memory.initial).2 =
      (Step.several (pods.map fun c => c.2.perform Memory.ops c.1) Memory.initial).2 := by
  intro pods
  have words : ∀ r ∈ chores, ∀ chain ∈ r.chain?, Word chain := by decide
  obtain ⟨requests,calls⟩ := commands_follow_tables .iptables Memory.initial initial_named
  exact ⟨initial_named,words,(requests chores words).1,by decide +kernel,(calls pods).2⟩

end HostNet.Masquerade.Iptables
