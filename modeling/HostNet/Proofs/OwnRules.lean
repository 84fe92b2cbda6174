import HostNet.Proofs.RepeatedInstalls
import Mathlib.Data.List.Infix
import Mathlib.Data.List.Induction

namespace HostNet.Masquerade.Iptables
open Firewall.Iptables

-- Whether a rule sends packets to a chain, whatever it asks of them.
def jumpsTo (chain : String) (rule : Rule) : Bool := decide (["-j",chain] <:+: rule)

-- What belongs to an instance in one family: the rules of its chain, and the jumps to it.
structure OwnRules where
  rules : List Rule
  jumps : List Rule
deriving DecidableEq

def ownRules (chain : String) (v : View) (family : Family) : OwnRules where
  rules := (v family chain).getD []
  jumps := ((v family postrouting).getD []).filter (jumpsTo chain)

-- What several appends leave.
def filled (rules new : List Rule) : List Rule := new.foldl appended rules

section Filled
variable {rules new : List Rule} {rule : Rule}

theorem appended_there (there : rule ∈ rules) : appended rules rule = rules := if_pos (by simpa using there)

theorem appended_absent (absent : rule ∉ rules) : appended rules rule = rules ++ [rule] :=
  if_neg (by simpa using absent)

theorem appended_cases (rules : List Rule) (rule : Rule) :
    appended rules rule = rules ∨ appended rules rule = rules ++ [rule] := by
  by_cases there : rule ∈ rules
  · exact .inl (appended_there there)
  · exact .inr (appended_absent there)

theorem mem_filled (rules new : List Rule) (rule : Rule) : rule ∈ filled rules new ↔ rule ∈ rules ∨ rule ∈ new := by
  induction new generalizing rules with
  | nil => simp [filled]
  | cons first rest ih =>
    refine (ih (appended rules first)).trans ?_
    rw [mem_appended,List.mem_cons,or_assoc]

theorem filled_idle (there : ∀ rule ∈ new, rule ∈ rules) : filled rules new = rules := by
  induction new with
  | nil => rfl
  | cons first rest ih =>
    rw [filled,List.foldl_cons,appended_there (there first (by simp))]
    exact ih fun rule later => there rule (List.mem_cons_of_mem _ later)

theorem filled_begins (rules new : List Rule) : rules <+: filled rules new := by
  induction new generalizing rules with
  | nil => exact List.prefix_rfl
  | cons first rest ih =>
    refine List.IsPrefix.trans ?_ (ih (appended rules first))
    rcases appended_cases rules first with same | longer
    · rw [same]
    · rw [longer]
      exact List.prefix_append _ _

theorem filled_append (rules one two : List Rule) :
    filled rules (one ++ two) = filled (filled rules one) two :=
  List.foldl_append

theorem eraseDups_last [BEq α] [LawfulBEq α] (l : List α) (a : α) :
    (l ++ [a]).eraseDups = if a ∈ l then l.eraseDups else l.eraseDups ++ [a] := by
  rw [List.eraseDups_append]
  by_cases there : a ∈ l
  · rw [if_pos there]
    simp [List.removeAll,there]
  · rw [if_neg there]
    simp [List.removeAll,there,List.eraseDups_cons]

theorem appended_eraseDups (rules : List Rule) (rule : Rule) :
    appended rules.eraseDups rule = (rules ++ [rule]).eraseDups := by
  rw [eraseDups_last]
  by_cases there : rule ∈ rules
  · rw [if_pos there,appended_there (List.mem_eraseDups.mpr there)]
  · rw [if_neg there,appended_absent (mt List.mem_eraseDups.mp there)]

-- Where nothing was, each rule stands where it came first.
theorem filled_fresh (new : List Rule) : filled [] new = new.eraseDups := by
  induction new using List.reverseRecOn with
  | nil => rfl
  | append_singleton rest rule ih =>
    rw [filled_append,ih]
    exact appended_eraseDups rest rule

-- What was there before does not show exactly if it is how the new rules begin.
theorem filled_unseen : filled rules new = filled [] new ↔ rules <+: filled [] new := by
  constructor
  · intro same
    exact same ▸ filled_begins rules new
  · intro begins
    induction new using List.reverseRecOn with
    | nil => exact List.prefix_nil.mp begins
    | append_singleton rest rule ih =>
      by_cases earlier : rules <+: filled [] rest
      · rw [filled_append,filled_append,ih earlier]
      · -- Then nothing of the new rules was missing.
        have whole : rules = filled [] (rest ++ [rule]) := by
          rw [filled_append] at begins ⊢
          rcases appended_cases (filled [] rest) rule with same | longer
          · exact absurd (same ▸ begins) earlier
          · rw [filled,List.foldl_cons,List.foldl_nil,longer] at begins ⊢
            exact (List.prefix_concat_iff.mp begins).resolve_right earlier
        refine (filled_idle fun other member => ?_).trans whole
        rw [whole,mem_filled]
        exact .inr member

end Filled

theorem filter_appended {p : Rule → Bool} (rules : List Rule) (rule : Rule) (picked : p rule = true) :
    (appended rules rule).filter p = appended (rules.filter p) rule := by
  by_cases there : rule ∈ rules
  · rw [appended_there there,appended_there (List.mem_filter.mpr ⟨there,picked⟩)]
  · have absent : rule ∉ rules.filter p := fun member => there (List.mem_of_mem_filter member)
    rw [appended_absent there,appended_absent absent,List.filter_append,List.filter_cons_of_pos picked,List.filter_nil]

theorem erase_filtered {p : Rule → Bool} {rule : Rule} (picked : p rule = true) (rules : List Rule) :
    (rules.erase rule).filter p = (rules.filter p).erase rule := by
  induction rules with
  | nil => rfl
  | cons first rest ih =>
    by_cases here : first = rule
    · subst here
      simp [picked]
    · have later : ∀ l, (first :: l).erase rule = first :: l.erase rule := fun l => by simp [here]
      by_cases kept : p first = true
      · rw [later,List.filter_cons_of_pos kept,List.filter_cons_of_pos kept,later,ih]
      · rw [later,List.filter_cons_of_neg kept,List.filter_cons_of_neg kept,ih]

theorem jumpsTo_jump (source chain comment : String) : jumpsTo chain (jumpRule source chain comment) = true :=
  decide_eq_true ⟨["-s",source],["-m","comment","--comment",comment],rfl⟩

def ofFamily (family : Family) (nets : List Subnet) : List Subnet := nets.filter (·.family == family)

theorem ofFamily_own (net : Subnet) (rest : List Subnet) :
    ofFamily net.family (net :: rest) = net :: ofFamily net.family rest := List.filter_cons_of_pos (by simp)

theorem ofFamily_other {net : Subnet} (other : family ≠ net.family) (rest : List Subnet) :
    ofFamily family (net :: rest) = ofFamily family rest := List.filter_cons_of_neg (by simpa using Ne.symm other)

-- What setting up appends to the chain of its instance for one net.
def netRules (comment : String) (net : Subnet) : List Rule :=
  [acceptRule net comment,masqueradeRule net.family comment]

section Setups
variable {chain comment : String} {family : Family} {v : View}

theorem ownRules_setup_apart (net : Subnet) (other : family ≠ net.family) :
    ownRules chain (setupView chain comment v net) family = ownRules chain v family := by
  rw [ownRules,setupView_apart chain other,setupView_apart postrouting other,ownRules]

theorem ownRules_setup (net : Subnet) (apart : chain ≠ postrouting) :
    ownRules chain (setupView chain comment v net) net.family =
      ⟨filled (ownRules chain v net.family).rules (netRules comment net),
        appended (ownRules chain v net.family).jumps (jumpRule net.text chain comment)⟩ := by
  have entry : setupView chain comment v net net.family postrouting =
      some (appended ((v net.family postrouting).getD []) (jumpRule net.text chain comment)) := by
    rw [setupView,View.set_same]
  rw [ownRules,setupView_own apart,entry,Option.getD_some,Option.getD_some,filter_appended _ _ (jumpsTo_jump _ _ _)]
  rfl

-- A run of setups appends to what belongs to the instance, and each family gets the rules of its own nets.
theorem ownRules_setups (nets : List Subnet) (apart : chain ≠ postrouting) :
    ownRules chain (nets.foldl (setupView chain comment) v) family =
      ⟨filled (ownRules chain v family).rules ((ofFamily family nets).flatMap (netRules comment)),
        filled (ownRules chain v family).jumps
          ((ofFamily family nets).map fun net => jumpRule net.text chain comment)⟩ := by
  induction nets generalizing v with
  | nil => rfl
  | cons net rest ih =>
    rw [List.foldl_cons,ih]
    by_cases same : family = net.family
    · subst same
      rw [ownRules_setup net apart,ofFamily_own,List.flatMap_cons,List.map_cons,filled_append]
      rfl
    · rw [ownRules_setup_apart net same,ofFamily_other same]

end Setups

end HostNet.Masquerade.Iptables
