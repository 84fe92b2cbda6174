import HostNet.Proofs.ChainTables
import HostNet.Proofs.CorrespondingSteps

namespace HostNet.Firewall.Iptables.Memory
open Step (Agree)

-- What a request about one chain makes of its rules.
abbrev Edit := Option (List Rule) → Except ToolError (Option (List Rule))

-- A request that changes no chain but its own, and nothing if it fails.
structure Edits (family : Family) (chain : String) (g : Edit) (x : Step Memory ToolError Unit) : Prop where
  failing : ∀ m message, m.failure = some message → x.outcome m = (.error (.failed message),m)
  refused : ∀ m e, m.failure = none → g (m.view family chain) = .error e → x.outcome m = (.error e,m)
  made : ∀ m rules, m.failure = none → g (m.view family chain) = .ok rules →
    ∃ m', x.outcome m = (.ok (),m') ∧ Becomes m (m.view.set family chain rules) m'

def created (chain : String) : Edit
  | none => .ok (some [])
  | some _ => .error (.failed ("iptables: Chain already exists: " ++ chain))

def extended (chain : String) (rule : Rule) : Edit
  | none => .error (noChain chain)
  | some rules => .ok (some (appended rules rule))

def reduced (chain : String) (rule : Rule) : Edit
  | none => .error (noChain chain)
  | some rules => if rules.contains rule then .ok (some (rules.erase rule)) else .error noRule

def emptied : Edit := fun _ => .ok (some [])

def removed (chain : String) : Edit
  | none => .error (noChain chain)
  | some [] => .ok none
  | some _ => .error (.failed ("iptables: Directory not empty: " ++ chain))

variable {family : Family} {chain : String}

-- The chains of a table after one of them was given other rules.
def Replaced (chains : Chains) (chain : String) (rules : Option (List Rule)) (chains' : Chains) : Prop :=
  ∀ c, chains'.find? c = if c = chain then rules else chains.find? c

theorem change_edits {g : Edit} {f : Chains → Except ToolError Chains}
    (agree : ∀ chains, Agree (Replaced chains chain) Eq (g (chains.find? chain)) (f chains)) :
    Edits family chain g (change family natTable f) where
  failing m message failing := Step.outcome_error (change_failing failing f)
  refused m e working told := by
    have agree := agree (m.tables family natTable)
    have found : g ((m.tables family natTable).find? chain) = .error e := told
    rw [found] at agree
    cases refused : f (m.tables family natTable) with
    | ok chains => rw [refused] at agree; cases agree
    | error e' =>
      rw [refused] at agree
      cases agree with
      | error same => rw [same]; exact Step.outcome_error (change_refused working refused)
  made m rules working told := by
    have agree := agree (m.tables family natTable)
    have found : g ((m.tables family natTable).find? chain) = .ok rules := told
    rw [found] at agree
    cases changed : f (m.tables family natTable) with
    | error e => rw [changed] at agree; cases agree
    | ok chains =>
      rw [changed] at agree
      cases agree with
      | ok replaced =>
        refine ⟨_,Step.outcome_ok (change_working working changed),put_becomes m family chains _ ?_ ?_⟩
        · intro c
          rw [replaced c]
          by_cases same : c = chain <;> simp [View.set,same,Memory.view,rules?]
        · intro f other c
          exact View.set_family _ _ _ _ other

theorem replaced_put (chains : Chains) (chain : String) (rules : List Rule) :
    Replaced chains chain (some rules) (chains.put chain rules) := chains.find_put chain rules

theorem replaced_drop (chains : Chains) (chain : String) : Replaced chains chain none (chains.drop chain) :=
  chains.find_drop chain

theorem replaced_held {chains : Chains} (held : chains.find? chain = rules) : Replaced chains chain rules chains := by
  intro c
  split
  · rename_i same
    rw [same,held]
  · rfl

theorem newChain_edits : Edits family chain (created chain) (newChain family natTable chain) := by
  refine change_edits fun chains => ?_
  cases chains.find? chain with
  | none => exact .ok (replaced_put chains chain [])
  | some rules => exact .error rfl

theorem appendUnique_edits (rule : Rule) :
    Edits family chain (extended chain rule) (appendUnique family natTable chain rule) := by
  refine change_edits fun chains => ?_
  cases held : chains.find? chain with
  | none => exact .error rfl
  | some rules =>
    refine .ok ?_
    by_cases there : rules.contains rule = true
    · rw [if_pos there,appended,if_pos there]
      exact replaced_held held
    · rw [if_neg there,appended,if_neg there]
      exact replaced_put chains chain _

theorem delete_edits (rule : Rule) : Edits family chain (reduced chain rule) (delete family natTable chain rule) := by
  refine change_edits fun chains => ?_
  cases chains.find? chain with
  | none => exact .error rfl
  | some rules =>
    by_cases there : rules.contains rule = true
    · simp only [reduced,if_pos there]
      exact .ok (replaced_put chains chain _)
    · simp only [reduced,if_neg there]
      exact .error rfl

theorem clearChain_edits : Edits family chain emptied (clearChain family natTable chain) :=
  change_edits fun chains => .ok (replaced_put chains chain [])

theorem deleteChain_edits : Edits family chain (removed chain) (deleteChain family natTable chain) := by
  refine change_edits fun chains => ?_
  cases chains.find? chain with
  | none => exact .error rfl
  | some rules =>
    cases rules with
    | nil => exact .ok (replaced_drop chains chain)
    | cons rule rest => exact .error rfl

end HostNet.Firewall.Iptables.Memory
