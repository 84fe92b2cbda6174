import HostNet.Proofs.ChainEdits
import HostNet.Proofs.KernelAnswers
import HostNet.Proofs.OwnRules

namespace HostNet.Masquerade.Iptables
open Firewall (ToolError)
open Firewall.Iptables
open Step (Agree Corresponds Unrelated Keeps)

-- What a call for one chain leaves as it was: all other chains but the one that every instance enters, and the entries
-- there that are picked.
structure Spares (chains : List String) (p : Rule → Bool) (m n : Memory) : Prop where
  chains : ∀ family c, c ∉ chains → c ≠ postrouting → n.view family c = m.view family c
  entries : ∀ family, (n.view family postrouting).map (·.filter p) = (m.view family postrouting).map (·.filter p)
  tables : ∀ family table, table ≠ natTable → n.tables family table = m.tables family table

-- What belongs to a chain in one family: its rules and the rules that jump to it, each with whether the chain is there.
structure Share where
  rules : Option (List Rule)
  jumps : Option (List Rule)
deriving DecidableEq

def share (chain : String) (m : Memory) (family : Family) : Share where
  rules := m.view family chain
  jumps := (m.view family postrouting).map (·.filter (jumpsTo chain))

section Entries
variable {p : Rule → Bool} {rule : Rule}

theorem filter_appended_other (other : p rule = false) (rules : List Rule) :
    (appended rules rule).filter p = rules.filter p := by
  rcases appended_cases rules rule with same | longer
  · rw [same]
  · rw [longer,List.filter_append,List.filter_cons_of_neg (by simp [other]),List.filter_nil,List.append_nil]

theorem filter_erase_other (other : p rule = false) (rules : List Rule) :
    (rules.erase rule).filter p = rules.filter p := by
  induction rules with
  | nil => rfl
  | cons first rest ih =>
    by_cases here : first = rule
    · subst here
      rw [List.erase_cons_head,List.filter_cons_of_neg (by simp [other])]
    · rw [List.erase_cons_tail (by simpa using here),List.filter_cons,List.filter_cons,ih]

-- A jump to one chain is a jump to no other.
theorem jumpsTo_other {chain other : String} (apart : other ≠ chain) (plain : chain ≠ "-j") (plain' : other ≠ "-j")
    (source comment : String) : jumpsTo other (jumpRule source chain comment) = false := by
  simp [jumpsTo,jumpRule,commented,List.infix_cons_iff,List.cons_prefix_cons,apart,plain.symm,plain']

end Entries

section Requests
variable {family : Family} {chain : String} {g : Memory.Edit} {x : Step Memory ToolError Unit}

theorem keeps_edits {I : Memory → Prop} (edits : Memory.Edits family chain g x)
    (kept : ∀ n rules n', I n → g (n.view family chain) = .ok rules →
      Memory.Becomes n (n.view.set family chain rules) n' → I n') : Keeps I x := by
  intro n held
  cases broken : n.failure with
  | some message => rw [edits.failing n message broken]; exact held
  | none =>
    cases told : g (n.view family chain) with
    | error e => rw [edits.refused n e broken told]; exact held
    | ok rules =>
      obtain ⟨n',ran,becomes⟩ := edits.made n rules broken told
      rw [ran]
      exact kept n rules n' held told becomes

theorem corresponds_edits {R : Memory → Memory → Prop} (edits : Memory.Edits family chain g x)
    (broken : ∀ m n, R m n → m.failure = n.failure)
    (agree : ∀ m n, R m n → Agree (fun rules rules' => ∀ m' n', Memory.Becomes m (m.view.set family chain rules) m' →
      Memory.Becomes n (n.view.set family chain rules') n' → R m' n') Eq
      (g (m.view family chain)) (g (n.view family chain))) : Corresponds R Unrelated Eq x x := by
  intro m n related
  have same := broken m n related
  cases failing : m.failure with
  | some message =>
    rw [edits.failing m message failing,edits.failing n message (same.symm.trans failing)]
    exact ⟨.error rfl,related⟩
  | none =>
    have agree := agree m n related
    cases told : g (m.view family chain) with
    | error e =>
      cases told' : g (n.view family chain) with
      | ok rules => rw [told,told'] at agree; cases agree
      | error f =>
        rw [edits.refused m e failing told,edits.refused n f (same.symm.trans failing) told']
        rw [told,told'] at agree
        cases agree with
        | error equal => exact ⟨.error equal,related⟩
    | ok rules =>
      cases told' : g (n.view family chain) with
      | error f => rw [told,told'] at agree; cases agree
      | ok rules' =>
        obtain ⟨m',ran,becomes⟩ := edits.made m rules failing told
        obtain ⟨n',ran',becomes'⟩ := edits.made n rules' (same.symm.trans failing) told'
        rw [ran,ran']
        rw [told,told'] at agree
        cases agree with
        | ok after => exact ⟨.ok trivial,after m' n' becomes becomes'⟩

end Requests

section Spared
variable {chains : List String} {p : Rule → Bool} {m n o : Memory} {family : Family} {g : Memory.Edit}
  {x : Step Memory ToolError Unit}

theorem Spares.refl (chains : List String) (p : Rule → Bool) (m : Memory) : Spares chains p m m :=
  ⟨fun _ _ _ _ => rfl,fun _ => rfl,fun _ _ _ => rfl⟩

theorem Spares.trans (first : Spares chains p m n) (second : Spares chains p n o) : Spares chains p m o where
  chains family c other inner := (second.chains family c other inner).trans (first.chains family c other inner)
  entries family := (second.entries family).trans (first.entries family)
  tables family table other := (second.tables family table other).trans (first.tables family table other)

-- Two runs in which what belongs to a chain is the same, and the tool fails in both or in none.
structure Matching (chain : String) (m n : Memory) : Prop where
  failure : m.failure = n.failure
  shares : ∀ family, share chain m family = share chain n family

theorem Spares.own (own : chain ∈ chains) (apart : chain ≠ postrouting) (edits : Memory.Edits family chain g x) :
    Keeps (Spares chains p m) x := by
  refine keeps_edits edits fun n rules n' spared _ becomes => spared.trans ⟨?_,?_,becomes.tables⟩
  · intro f c other _
    have different : c ≠ chain := fun same => other (same ▸ own)
    rw [becomes.view,View.set_chain _ _ _ _ different]
  · intro f
    rw [becomes.view,View.set_chain _ _ _ _ apart.symm]

theorem Spares.entry (edits : Memory.Edits family postrouting g x)
    (unpicked : ∀ held rules, g held = .ok rules → rules.map (·.filter p) = held.map (·.filter p)) :
    Keeps (Spares chains p m) x := by
  refine keeps_edits edits fun n rules n' spared told becomes => spared.trans ⟨?_,?_,becomes.tables⟩
  · intro f c _ inner
    rw [becomes.view,View.set_chain _ _ _ _ inner]
  · intro f
    rw [becomes.view]
    by_cases same : f = family
    · subst same
      rw [View.set_same,unpicked _ rules told]
    · rw [View.set_family _ _ _ _ same]

variable {chain : String}

theorem Matching.own (apart : chain ≠ postrouting) (edits : Memory.Edits family chain g x) :
    Corresponds (Matching chain) Unrelated Eq x x := by
  refine corresponds_edits edits (fun _ _ matching => matching.failure) fun m n matching => ?_
  have held : m.view family chain = n.view family chain := congrArg Share.rules (matching.shares family)
  rw [held]
  cases g (n.view family chain) with
  | error e => exact .error rfl
  | ok rules =>
    refine .ok fun m' n' becomes becomes' => ⟨?_,fun f => ?_⟩
    · rw [becomes.failure,becomes'.failure,matching.failure]
    · have jumps := congrArg Share.jumps (matching.shares f)
      have own := congrArg Share.rules (matching.shares f)
      simp only [share] at jumps own ⊢
      rw [becomes.view,becomes'.view,View.set_chain _ _ _ _ apart.symm,View.set_chain _ _ _ _ apart.symm,jumps]
      by_cases same : f = family
      · subst same
        rw [View.set_same,View.set_same]
      · rw [View.set_family _ _ _ _ same,View.set_family _ _ _ _ same,own]

-- Among the entries an instance sees only its own.
theorem Matching.entry (apart : chain ≠ postrouting) (edits : Memory.Edits family postrouting g x)
    (picked : ∀ one two : Option (List Rule), one.map (·.filter (jumpsTo chain)) = two.map (·.filter (jumpsTo chain)) →
      Agree (fun rules rules' => rules.map (·.filter (jumpsTo chain)) = rules'.map (·.filter (jumpsTo chain))) Eq
        (g one) (g two)) :
    Corresponds (Matching chain) Unrelated Eq x x := by
  refine corresponds_edits edits (fun _ _ matching => matching.failure) fun m n matching => ?_
  have entered := picked _ _ (congrArg Share.jumps (matching.shares family))
  refine entered.imp fun rules rules' same m' n' becomes becomes' => ⟨?_,fun f => ?_⟩
  · rw [becomes.failure,becomes'.failure,matching.failure]
  · have jumps := congrArg Share.jumps (matching.shares f)
    have own := congrArg Share.rules (matching.shares f)
    simp only [share] at jumps own ⊢
    rw [becomes.view,becomes'.view,View.set_chain _ _ _ _ apart,View.set_chain _ _ _ _ apart,own]
    by_cases here : f = family
    · subst here
      rw [View.set_same,View.set_same,same]
    · rw [View.set_family _ _ _ _ here,View.set_family _ _ _ _ here,jumps]

end Spared

section Entering
variable {p : Rule → Bool} {rule : Rule}

theorem extended_unpicked (other : p rule = false) {held rules : Option (List Rule)}
    (told : Memory.extended chain rule held = .ok rules) : rules.map (·.filter p) = held.map (·.filter p) := by
  cases held with
  | none => cases told
  | some held =>
    cases told
    rw [Option.map_some,filter_appended_other other,Option.map_some]

theorem reduced_unpicked (other : p rule = false) {held rules : Option (List Rule)}
    (told : Memory.reduced chain rule held = .ok rules) : rules.map (·.filter p) = held.map (·.filter p) := by
  cases held with
  | none => cases told
  | some held =>
    by_cases there : held.contains rule = true
    · rw [Memory.reduced,if_pos there] at told
      cases told
      rw [Option.map_some,filter_erase_other other,Option.map_some]
    · rw [Memory.reduced,if_neg there] at told
      cases told

theorem extended_picked (picked : p rule = true) (one two : Option (List Rule))
    (same : one.map (·.filter p) = two.map (·.filter p)) :
    Agree (fun rules rules' => rules.map (·.filter p) = rules'.map (·.filter p)) Eq
      (Memory.extended chain rule one) (Memory.extended chain rule two) := by
  cases one with
  | none =>
    cases two with
    | none => exact .error rfl
    | some rules => cases same
  | some rules =>
    cases two with
    | none => cases same
    | some rules' =>
      rw [Option.map_some,Option.map_some,Option.some.injEq] at same
      refine .ok ?_
      rw [Option.map_some,Option.map_some,filter_appended _ _ picked,filter_appended _ _ picked,same]

theorem filter_contains (picked : p rule = true) (rules : List Rule) :
    (rules.filter p).contains rule = rules.contains rule := by
  rw [Bool.eq_iff_iff,List.contains_iff_mem,List.contains_iff_mem,List.mem_filter]
  exact and_iff_left picked

theorem reduced_picked (picked : p rule = true) (one two : Option (List Rule))
    (same : one.map (·.filter p) = two.map (·.filter p)) :
    Agree (fun rules rules' => rules.map (·.filter p) = rules'.map (·.filter p)) Eq
      (Memory.reduced chain rule one) (Memory.reduced chain rule two) := by
  cases one with
  | none =>
    cases two with
    | none => exact .error rfl
    | some rules => cases same
  | some rules =>
    cases two with
    | none => cases same
    | some rules' =>
      rw [Option.map_some,Option.map_some,Option.some.injEq] at same
      have there : rules.contains rule = rules'.contains rule := by
        rw [← filter_contains picked,same,filter_contains picked]
      simp only [Memory.reduced,there]
      split
      · refine .ok ?_
        rw [Option.map_some,Option.map_some,erase_filtered picked,erase_filtered picked,same]
      · exact .error rfl

end Entering

-- What the listing of two tools has in common, if a chain is there in both or in none.
theorem Matching.listChains (family : Family) : Corresponds (Matching chain)
    (fun names others => names.contains chain = others.contains chain) Eq
    (Memory.listChains family natTable) (Memory.listChains family natTable) := by
  intro m n matching
  cases failing : m.failure with
  | some message =>
    rw [Step.outcome_error (Memory.listChains_failing failing),
      Step.outcome_error (Memory.listChains_failing (matching.failure.symm.trans failing))]
    exact ⟨.error rfl,matching⟩
  | none =>
    rw [Step.outcome_ok (Memory.listChains_working failing),
      Step.outcome_ok (Memory.listChains_working (matching.failure.symm.trans failing))]
    have own : m.view family chain = n.view family chain := congrArg Share.rules (matching.shares family)
    refine ⟨.ok ?_,matching⟩
    have found (o : Memory) : ((o.tables family natTable).map Prod.fst).contains chain =
        (o.view family chain).isSome :=
      Chains.names_contain _ chain
    rw [found,found,own]

end HostNet.Masquerade.Iptables
