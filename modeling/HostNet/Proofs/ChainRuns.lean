import HostNet.Proofs.SharedChain

namespace HostNet.Masquerade.Iptables
open Firewall (ToolError)
open Firewall.Iptables
open Step (Corresponds Unrelated Keeps)

-- A request among several, of which it is said beforehand which ones fail.
def requested (failures : Nat → Option String) (x : Step Memory ToolError α) : Step (Memory × Nat) ToolError α :=
  Step.within (fun s => { s.1 with failure := failures s.2 }) (fun m s => ({ m with failure := s.1.failure },s.2 + 1)) x

def failing (failures : Nat → Option String) : Ops (Memory × Nat) where
  supported := fun s =>
    let (usable,m) := Memory.ops.supported s.1
    (usable,m,s.2)
  listChains family table := requested failures (Memory.listChains family table)
  newChain family table chain := requested failures (Memory.newChain family table chain)
  appendUnique family table chain rule := requested failures (Memory.appendUnique family table chain rule)
  delete family table chain rule := requested failures (Memory.delete family table chain rule)
  clearChain family table chain := requested failures (Memory.clearChain family table chain)
  deleteChain family table chain := requested failures (Memory.deleteChain family table chain)

inductive Call where
  | install (nets : List Subnet)
  | teardown (nets : List Subnet)
deriving DecidableEq

def Call.perform (ops : Ops σ) (identity : Identity) : Call → Step σ Error Unit
  | .install nets => Iptables.install ops nets identity
  | .teardown nets => Iptables.teardown ops nets identity

-- A call for an identity, during which the tool fails at the given requests.
structure Attempt where
  identity : Identity
  call : Call
  failures : Nat → Option String

namespace Attempt

def chain (a : Attempt) : String := chainName a.identity.network a.identity.id

def outcome (a : Attempt) (m : Memory) : Except Error Unit × Memory :=
  let (told,s) := (a.call.perform (failing a.failures) a.identity).outcome (m,0)
  (told,s.1)

end Attempt

def after (m : Memory) (attempts : List Attempt) : Memory := attempts.foldl (fun m a => (a.outcome m).2) m

-- The calls of a run with what came of each.
def told (m : Memory) : List Attempt → List (Attempt × Except Error Unit)
  | [] => []
  | a :: rest => (a,(a.outcome m).1) :: told (a.outcome m).2 rest

section Requests
variable {failures : Nat → Option String} {chain : String}

-- Two runs of one call that have come equally far.
structure Abreast (chain : String) (s t : Memory × Nat) : Prop where
  count : s.2 = t.2
  shares : ∀ family, share chain s.1 family = share chain t.1 family

theorem requested_matching {E : ToolError → ToolError → Prop} {A : α → β → Prop} {x : Step Memory ToolError α}
    {y : Step Memory ToolError β} (inner : Corresponds (Matching chain) A E x y) :
    Corresponds (Abreast chain) A E (requested failures x) (requested failures y) := by
  intro s t abreast
  obtain ⟨agree,matching⟩ := inner { s.1 with failure := failures s.2 } { t.1 with failure := failures t.2 }
    ⟨congrArg failures abreast.count,abreast.shares⟩
  rw [requested,requested,Step.outcome_within,Step.outcome_within]
  exact ⟨agree,congrArg (· + 1) abreast.count,matching.shares⟩

theorem requested_spares {p : Rule → Bool} {chains : List String} {m : Memory} {x : Step Memory ToolError α}
    (inner : Keeps (Spares chains p m) x) : Keeps (fun s => Spares chains p m s.1) (requested failures x) :=
  Step.keeps_within inner (fun _ spared => ⟨spared.chains,spared.entries,spared.tables⟩)
    fun _ _ _ spared => ⟨spared.chains,spared.entries,spared.tables⟩

theorem keeps_listChains (I : Memory → Prop) (family : Family) : Keeps I (Memory.listChains family natTable) := by
  refine Step.keeps_bind (fun _ held => held) fun m => ?_
  exact Step.keeps_bind (Step.keeps_ofExcept _) fun _ => Step.keeps_pure _

-- For its chain a call finds the same and does the same wherever the chain has the same share.
theorem tools_matching (failures : Nat → Option String) (apart : chain ≠ postrouting) :
    Tools chain (Abreast chain) Eq (failing failures) (failing failures) where
  listChains family := requested_matching (Matching.listChains family)
  newChain _ := requested_matching (Matching.own apart Memory.newChain_edits)
  appendUnique _ rule := requested_matching (Matching.own apart (Memory.appendUnique_edits rule))
  clearChain _ := requested_matching (Matching.own apart Memory.clearChain_edits)
  deleteChain _ := requested_matching (Matching.own apart Memory.deleteChain_edits)
  enter _ source comment := requested_matching (Matching.entry apart (Memory.appendUnique_edits _)
    fun _ _ => extended_picked (jumpsTo_jump source chain comment) _ _)
  leave _ source comment := requested_matching (Matching.entry apart (Memory.delete_edits _)
    fun _ _ => reduced_picked (jumpsTo_jump source chain comment) _ _)

-- And it spares what others have.
theorem tools_spare {p : Rule → Bool} {chains : List String} (failures : Nat → Option String) (m : Memory)
    (own : chain ∈ chains) (apart : chain ≠ postrouting)
    (other : ∀ source comment, p (jumpRule source chain comment) = false) :
    Tools chain (fun s t : Memory × Nat => s = t ∧ Spares chains p m s.1) Eq (failing failures) (failing failures) :=
  have kept {x : Step Memory ToolError Unit} (inner : Keeps (Spares chains p m) x) :
      Corresponds (fun s t : Memory × Nat => s = t ∧ Spares chains p m s.1) Unrelated Eq (requested failures x)
        (requested failures x) :=
    (Step.corresponds_self (requested_spares inner)).imp fun _ _ _ => trivial
  { listChains := fun family => (Step.corresponds_self (requested_spares (keeps_listChains _ family))).imp
      fun _ _ same => by rw [same]
    newChain := fun _ => kept (.own own apart Memory.newChain_edits)
    appendUnique := fun _ rule => kept (.own own apart (Memory.appendUnique_edits rule))
    clearChain := fun _ => kept (.own own apart Memory.clearChain_edits)
    deleteChain := fun _ => kept (.own own apart Memory.deleteChain_edits)
    enter := fun _ source comment => kept (.entry (Memory.appendUnique_edits _)
      fun _ _ => extended_unpicked (other source comment))
    leave := fun _ source comment => kept (.entry (Memory.delete_edits _)
      fun _ _ => reduced_unpicked (other source comment)) }

end Requests

section Attempts
variable {m n : Memory} {a b : Attempt}

theorem Attempt.chain_apart (a : Attempt) (other : String) (different : other.toList.take 5 ≠ chainStart.toList) :
    a.chain ≠ other := chainName_apart _ _ other different

theorem Attempt.chain_postrouting (a : Attempt) : a.chain ≠ postrouting := a.chain_apart _ (by decide)

-- A call depends on the share of its chain, and what it does to that is the same for equal shares.
theorem outcome_own (a : Attempt) (same : ∀ family, share a.chain m family = share a.chain n family) :
    (a.outcome m).1 = (a.outcome n).1 ∧
      ∀ family, share a.chain (a.outcome m).2 family = share a.chain (a.outcome n).2 family := by
  have tools : Tools (chainName a.identity.network a.identity.id) (Abreast a.chain) Eq (failing a.failures)
      (failing a.failures) := tools_matching a.failures a.chain_postrouting
  have both : Corresponds (Abreast a.chain) Unrelated Eq (a.call.perform (failing a.failures) a.identity)
      (a.call.perform (failing a.failures) a.identity) := by
    cases a.call with
    | install nets => exact install_corresponds tools wording_eq nets
    | teardown nets => exact teardown_corresponds tools wording_eq nets
  obtain ⟨agree,abreast⟩ := both (m,0) (n,0) ⟨rfl,same⟩
  exact ⟨Step.agree_eq.mp (agree.imp fun _ _ _ => rfl),abreast.shares⟩

theorem outcome_spares {p : Rule → Bool} {chains : List String} (a : Attempt) (m : Memory) (own : a.chain ∈ chains)
    (other : ∀ source comment, p (jumpRule source a.chain comment) = false) :
    Spares chains p m (a.outcome m).2 := by
  have tools : Tools (chainName a.identity.network a.identity.id) (fun s t => s = t ∧ Spares chains p m s.1) Eq
      (failing a.failures) (failing a.failures) := tools_spare a.failures m own a.chain_postrouting other
  have kept : Keeps (fun s : Memory × Nat => Spares chains p m s.1)
      (a.call.perform (failing a.failures) a.identity) := by
    cases a.call with
    | install nets => exact Step.keeps_of_corresponds (install_corresponds tools wording_eq nets)
    | teardown nets => exact Step.keeps_of_corresponds (teardown_corresponds tools wording_eq nets)
  exact kept (m,0) (Spares.refl chains p m)

-- Calls for another chain leave the share of a chain alone.
theorem outcome_other (apart : b.chain ≠ a.chain) (family : Family) :
    share a.chain (b.outcome m).2 family = share a.chain m family := by
  have spared := outcome_spares (p := jumpsTo a.chain) b m (List.mem_singleton_self _) fun source comment =>
    jumpsTo_other apart.symm (b.chain_apart "-j" (by decide)) (a.chain_apart "-j" (by decide)) source comment
  rw [share,share,spared.chains family _ (by simpa using apart.symm) a.chain_postrouting,spared.entries]

end Attempts

theorem after_spares {p : Rule → Bool} {chains : List String} (m : Memory) (attempts : List Attempt)
    (own : ∀ a ∈ attempts, a.chain ∈ chains)
    (other : ∀ chain ∈ chains, ∀ source comment, p (jumpRule source chain comment) = false) :
    Spares chains p m (after m attempts) := by
  induction attempts generalizing m with
  | nil => exact Spares.refl chains p m
  | cons a rest ih =>
    have first := outcome_spares a m (own a (by simp)) (other _ (own a (by simp)))
    exact first.trans (ih (a.outcome m).2 fun b later => own b (List.mem_cons_of_mem _ later))

-- A run and what is left of it without the calls for other chains, side by side.
theorem after_alone (a : Attempt) (m n : Memory) (attempts : List Attempt)
    (same : ∀ family, share a.chain m family = share a.chain n family) :
    (∀ family, share a.chain (after m attempts) family =
      share a.chain (after n (attempts.filter fun b => b.chain = a.chain)) family) ∧
    (told m attempts).filter (fun t => t.1.chain = a.chain) = told n (attempts.filter fun b => b.chain = a.chain) := by
  induction attempts generalizing m n with
  | nil => exact ⟨same,rfl⟩
  | cons b rest ih =>
    by_cases own : b.chain = a.chain
    · rw [← own] at same
      obtain ⟨answer,between⟩ := outcome_own b same
      rw [own] at between
      obtain ⟨shares,answers⟩ := ih (b.outcome m).2 (b.outcome n).2 between
      rw [List.filter_cons_of_pos (by simpa using own)]
      refine ⟨shares,?_⟩
      rw [told,List.filter_cons_of_pos (by simpa using own),answers,told,answer]
    · have between : ∀ family, share a.chain (b.outcome m).2 family = share a.chain n family :=
        fun family => (outcome_other own family).trans (same family)
      obtain ⟨shares,answers⟩ := ih (b.outcome m).2 n between
      rw [List.filter_cons_of_neg (by simpa using own)]
      refine ⟨shares,?_⟩
      rw [told,List.filter_cons_of_neg (by simpa using own),answers]

-- Instances with chains of their own do not disturb each other, whatever the tables were and wherever the tool fails:
-- what belongs to a chain, and what came of the calls for it, is as if there had been no other calls. Chains that
-- belong to no call of the run and entries that lead to none of its chains stay as they were, and so do the built-in
-- chains.
theorem chains_undisturbed (m : Memory) (attempts : List Attempt) :
    (∀ a ∈ attempts,
      (∀ family, share a.chain (after m attempts) family =
        share a.chain (after m (attempts.filter fun b => b.chain = a.chain)) family) ∧
      (told m attempts).filter (fun t => t.1.chain = a.chain) =
        told m (attempts.filter fun b => b.chain = a.chain)) ∧
    (∀ family chain, chain ∈ ["INPUT","OUTPUT","PREROUTING"] ∨ chain ≠ postrouting ∧ (∀ a ∈ attempts, a.chain ≠ chain) →
      (after m attempts).view family chain = m.view family chain) ∧
    (∀ family, ((after m attempts).view family postrouting).map
        (·.filter fun rule => attempts.all fun a => !jumpsTo a.chain rule) =
      (m.view family postrouting).map (·.filter fun rule => attempts.all fun a => !jumpsTo a.chain rule)) ∧
    ∀ family table, table ≠ natTable → (after m attempts).tables family table = m.tables family table := by
  have own : ∀ a ∈ attempts, a.chain ∈ attempts.map Attempt.chain := fun a member => List.mem_map_of_mem member
  have spared : Spares (attempts.map Attempt.chain) (fun rule => attempts.all fun a => !jumpsTo a.chain rule) m
      (after m attempts) := by
    refine after_spares m attempts own fun chain known source comment => ?_
    obtain ⟨a,member,rfl⟩ := List.mem_map.mp known
    rw [List.all_eq_false]
    exact ⟨a,member,by simp [jumpsTo_jump]⟩
  refine ⟨fun a _ => after_alone a m m attempts fun _ => rfl,?_,spared.entries,spared.tables⟩
  rintro family chain (builtIn | ⟨inner,unknown⟩)
  · have apart : chain ≠ postrouting ∧ chain.toList.take 5 ≠ chainStart.toList := by
      simp only [List.mem_cons,List.not_mem_nil,or_false] at builtIn
      rcases builtIn with rfl | rfl | rfl <;> decide
    refine spared.chains family chain ?_ apart.1
    intro known
    obtain ⟨a,_,same⟩ := List.mem_map.mp known
    exact a.chain_apart chain apart.2 same
  · refine spared.chains family chain ?_ inner
    intro known
    obtain ⟨a,member,same⟩ := List.mem_map.mp known
    exact unknown a member same

end HostNet.Masquerade.Iptables
