import HostNet.Firewall.Iptables.Memory
import Mathlib.Data.List.Basic

namespace HostNet.Firewall

-- What stands under two names takes up two entries.
theorem two_entries (entries : List (String × α)) (one two : String) (different : one ≠ two)
    (first : (entries.lookup one).isSome) (second : (entries.lookup two).isSome) : 2 ≤ entries.length := by
  match entries with
  | [] => cases first
  | [e] =>
    have held : ∀ name, (List.lookup name [e]).isSome → name = e.1 := by
      intro name found
      simpa using found
    exact absurd ((held one first).trans (held two second).symm) different
  | _ :: _ :: _ => simp

end HostNet.Firewall

namespace HostNet.Firewall.Iptables

namespace Chains

theorem find_put (chains : Chains) (name : String) (rules : List Rule) (other : String) :
    (chains.put name rules).find? other = if other = name then some rules else chains.find? other := by
  induction chains with
  | nil =>
    by_cases same : other = name
    · simp [put,find?,same]
    · simp [put,find?,List.lookup_cons,same,beq_eq_false_iff_ne.mpr same]
  | cons c rest ih =>
    obtain ⟨key,held⟩ := c
    unfold put
    split
    · rename_i same
      by_cases asked : other = name
      · simp [find?,asked]
      · have different : other ≠ key := fun eq => asked (eq.trans same)
        simp [find?,List.lookup_cons,asked,beq_eq_false_iff_ne.mpr different,beq_eq_false_iff_ne.mpr asked]
    · split
      · by_cases asked : other = name
        · simp [find?,asked]
        · simp [find?,List.lookup_cons,asked,beq_eq_false_iff_ne.mpr asked]
      · rename_i different _
        unfold find? at ih ⊢
        rw [List.lookup_cons,List.lookup_cons]
        by_cases asked : other = key
        · have apart : other ≠ name := fun eq => different (asked ▸ eq)
          simp [asked,different]
        · rw [beq_eq_false_iff_ne.mpr asked]
          exact ih

theorem find_drop (chains : Chains) (name other : String) :
    (chains.drop name).find? other = if other = name then none else chains.find? other := by
  induction chains with
  | nil => simp [drop,find?]
  | cons c rest ih =>
    obtain ⟨key,held⟩ := c
    unfold drop find? at ih ⊢
    rw [List.filter_cons]
    by_cases removed : key = name
    · subst key
      rw [if_neg (by simp),ih,List.lookup_cons]
      by_cases asked : other = name
      · simp [asked]
      · simp [asked,beq_eq_false_iff_ne.mpr asked]
    · rw [if_pos (by simpa using removed),List.lookup_cons,List.lookup_cons]
      by_cases asked : other = key
      · simp [asked,removed]
      · rw [beq_eq_false_iff_ne.mpr asked]
        exact ih

theorem names_contain (chains : Chains) (name : String) :
    (chains.map Prod.fst).contains name = (chains.find? name).isSome := by
  induction chains with
  | nil => rfl
  | cons c rest ih =>
    rw [List.map_cons,List.contains_cons,ih,find?,find?,List.lookup_cons]
    cases name == c.1 <;> simp

end Chains

-- The rules of a table by family and chain: all that rules do to packets depends on.
abbrev View := Family → String → Option (List Rule)

def View.set (v : View) (family : Family) (chain : String) (rules : Option (List Rule)) : View :=
  fun f c => if f = family ∧ c = chain then rules else v f c

@[simp] theorem View.set_same (v : View) (family : Family) (chain : String) (rules : Option (List Rule)) :
    v.set family chain rules family chain = rules := by simp [set]

theorem View.set_chain (v : View) {chain c : String} (family f : Family) (rules : Option (List Rule))
    (other : c ≠ chain) : v.set family chain rules f c = v f c := by simp [set,other]

theorem View.set_family (v : View) {family f : Family} (chain c : String) (rules : Option (List Rule))
    (other : f ≠ family) : v.set family chain rules f c = v f c := by simp [set,other]

theorem View.set_held (v : View) (family : Family) (chain : String) (rules : Option (List Rule))
    (held : v family chain = rules) : v.set family chain rules = v := by
  funext f c
  by_cases same : f = family ∧ c = chain
  · obtain ⟨rfl,rfl⟩ := same
    rw [set_same,held]
  · simp [set,same]

theorem View.set_again (v : View) (family : Family) (chain : String) (old new : Option (List Rule)) :
    (v.set family chain old).set family chain new = v.set family chain new := by
  funext f c
  by_cases same : f = family ∧ c = chain <;> simp [set,same]

-- What `append` leaves: a rule that is there already is not repeated.
def appended (rules : List Rule) (rule : Rule) : List Rule := if rules.contains rule then rules else rules ++ [rule]

theorem mem_appended (rules : List Rule) (new rule : Rule) :
    rule ∈ appended rules new ↔ rule ∈ rules ∨ rule = new := by
  unfold appended
  split
  · rename_i there
    have held : new ∈ rules := by simpa using there
    exact ⟨Or.inl,fun either => either.elim id fun same => same ▸ held⟩
  · simp

theorem appended_nodup {rules : List Rule} (once : rules.Nodup) (new : Rule) : (appended rules new).Nodup := by
  unfold appended
  split
  · exact once
  · rename_i fresh
    rw [List.nodup_append]
    refine ⟨once,by simp,?_⟩
    intro rule member other added same
    rw [List.mem_singleton.mp added] at same
    exact fresh (by simpa using same ▸ member)

namespace Memory

def view (m : Memory) : View := fun family chain => m.rules? family natTable chain

theorem initial_postrouting (family : Family) : initial.view family postrouting = some [] := by
  have found : (Chains.builtIn natTable).find? postrouting = some [] := by decide
  exact found

theorem initial_absent (family : Family) (chain : String)
    (other : chain ∉ ["INPUT","OUTPUT",postrouting,"PREROUTING"]) : initial.view family chain = none := by
  have names : (Chains.builtIn natTable).map Prod.fst = ["INPUT","OUTPUT",postrouting,"PREROUTING"] := by decide
  have unknown : ((Chains.builtIn natTable).map Prod.fst).contains chain = false := by
    rw [names]; simpa using other
  rw [Chains.names_contain] at unknown
  have found : (Chains.builtIn natTable).find? chain = none :=
    Option.not_isSome_iff_eq_none.mp (Bool.eq_false_iff.mp unknown)
  exact found

-- A state in which the nat tables look as given, and all else is as it was.
structure Becomes (m : Memory) (v : View) (m' : Memory) : Prop where
  usable : m'.usable = m.usable
  failure : m'.failure = m.failure
  view : m'.view = v
  tables : ∀ family table, table ≠ natTable → m'.tables family table = m.tables family table

theorem Becomes.refl (m : Memory) : Becomes m m.view m := ⟨rfl,rfl,rfl,fun _ _ _ => rfl⟩

theorem Becomes.trans (first : Becomes m v m') (second : Becomes m' w m'') : Becomes m w m'' where
  usable := second.usable.trans first.usable
  failure := second.failure.trans first.failure
  view := second.view
  tables family table other := (second.tables family table other).trans (first.tables family table other)

theorem put_becomes (m : Memory) (family : Family) (chains : Chains) (v : View)
    (shown : ∀ chain, chains.find? chain = v family chain)
    (kept : ∀ f, f ≠ family → ∀ chain, v f chain = m.view f chain) :
    Becomes m v (m.put family natTable chains) where
  usable := rfl
  failure := rfl
  view := by
    funext f c
    by_cases same : f = family
    · subst f
      simp [Memory.view,rules?,put,shown]
    · simp [Memory.view,rules?,put,same,kept f same]
  tables f table other := by simp [put,other]

-- An edit of one chain is seen as one of its entry.
theorem entry_becomes (m : Memory) (family : Family) {chain : String} {entry : Option (List Rule)} {chains : Chains}
    (found : ∀ c, chains.find? c = if c = chain then entry else (m.tables family natTable).find? c) :
    Becomes m (m.view.set family chain entry) (m.put family natTable chains) := by
  apply put_becomes
  · intro c
    rw [found]
    by_cases same : c = chain <;> simp [View.set,same,Memory.view,rules?]
  · intro f other c
    exact View.set_family _ _ _ _ other

theorem place_becomes (m : Memory) (family : Family) (chain : String) (rules : List Rule) :
    Becomes m (m.view.set family chain (some rules))
      (m.put family natTable ((m.tables family natTable).put chain rules)) :=
  entry_becomes m family (Chains.find_put _ chain rules)

theorem remove_becomes (m : Memory) (family : Family) (chain : String) :
    Becomes m (m.view.set family chain none) (m.put family natTable ((m.tables family natTable).drop chain)) :=
  entry_becomes m family (Chains.find_drop _ chain)

theorem put_same (m : Memory) (family : Family) (table : String) : m.put family table (m.tables family table) = m := by
  unfold put
  congr
  funext f t
  split
  · rename_i here
    rw [here.1,here.2]
  · rfl

theorem keep_becomes (m : Memory) (family : Family) :
    Becomes m m.view (m.put family natTable (m.tables family natTable)) :=
  put_becomes m family _ _ (fun _ => rfl) (fun _ _ _ => rfl)

variable {m : Memory} {family : Family} {table chain : String} {rules : List Rule}

theorem check_working (working : m.failure = none) : m.check = .ok () := by simp [check,working]

theorem check_failing (failing : m.failure = some message) : m.check = .error (.failed message) := by
  simp [check,failing]

theorem change_working (working : m.failure = none) {f : Chains → Except ToolError Chains}
    (changed : f (m.tables family table) = .ok chains) :
    change family table f m = .ok () (m.put family table chains) := by
  simp [change,Step.update,check_working working,changed,bind,Except.bind,pure,Except.pure]

theorem change_refused (working : m.failure = none) {f : Chains → Except ToolError Chains}
    (refused : f (m.tables family table) = .error e) : change family table f m = .error e m := by
  simp [change,Step.update,check_working working,refused,bind,Except.bind]

theorem change_failing (failing : m.failure = some message) (f : Chains → Except ToolError Chains) :
    change family table f m = .error (.failed message) m := by
  simp [change,Step.update,check_failing failing,bind,Except.bind]

theorem listChains_working (working : m.failure = none) :
    listChains family table m = .ok ((m.tables family table).map Prod.fst) m := by
  have checked : (Step.ofExcept m.check : Step Memory ToolError Unit) m = .ok () m := by
    rw [check_working working]
    rfl
  have known : (get : Step Memory ToolError Memory) m = .ok m m := rfl
  exact (Step.bind_ok known).trans ((Step.bind_ok checked).trans rfl)

theorem listChains_failing (failing : m.failure = some message) :
    listChains family table m = .error (.failed message) m := by
  have checked : (Step.ofExcept m.check : Step Memory ToolError Unit) m = .error (.failed message) m := by
    rw [check_failing failing]
    rfl
  have known : (get : Step Memory ToolError Memory) m = .ok m m := rfl
  exact (Step.bind_ok known).trans (Step.bind_error checked)

theorem newChain_working (working : m.failure = none) (absent : m.view family chain = none) :
    ∃ m', newChain family natTable chain m = .ok () m' ∧ Becomes m (m.view.set family chain (some [])) m' := by
  have found : (m.tables family natTable).find? chain = none := absent
  exact ⟨_,change_working working (by rw [found]),place_becomes m family chain []⟩

theorem appendUnique_working (rule : Rule) (working : m.failure = none) (present : m.view family chain = some rules) :
    ∃ m', appendUnique family natTable chain rule m = .ok () m' ∧
      Becomes m (m.view.set family chain (some (appended rules rule))) m' := by
  have found : (m.tables family natTable).find? chain = some rules := present
  by_cases there : rules.contains rule = true
  · have ran : appendUnique family natTable chain rule m =
        .ok () (m.put family natTable (m.tables family natTable)) :=
      change_working working (by rw [found]; simp only [there,if_true])
    rw [appended,if_pos there,View.set_held _ _ _ _ present]
    exact ⟨_,ran,keep_becomes m family⟩
  · have ran : appendUnique family natTable chain rule m =
        .ok () (m.put family natTable ((m.tables family natTable).put chain (rules ++ [rule]))) :=
      change_working working (by rw [found]; simp only [if_neg there])
    rw [appended,if_neg there]
    exact ⟨_,ran,place_becomes m family chain _⟩

theorem appendUnique_absent (rule : Rule) (working : m.failure = none) (absent : m.view family chain = none) :
    appendUnique family natTable chain rule m = .error (noChain chain) m := by
  have found : (m.tables family natTable).find? chain = none := absent
  exact change_refused working (by rw [found])

-- A rule that is there is appended without any change.
theorem appendUnique_idle (working : m.failure = none) (present : m.view family chain = some rules)
    (there : rule ∈ rules) : appendUnique family natTable chain rule m = .ok () m := by
  have found : (m.tables family natTable).find? chain = some rules := present
  have ran : appendUnique family natTable chain rule m = .ok () (m.put family natTable (m.tables family natTable)) :=
    change_working working (by rw [found]; simp only [List.contains_iff_mem.mpr there,if_true])
  rw [ran,put_same]

theorem clearChain_working (family : Family) (chain : String) (working : m.failure = none) :
    ∃ m', clearChain family natTable chain m = .ok () m' ∧ Becomes m (m.view.set family chain (some [])) m' :=
  ⟨_,change_working working rfl,place_becomes m family chain []⟩

theorem deleteChain_working (working : m.failure = none) (empty : m.view family chain = some []) :
    ∃ m', deleteChain family natTable chain m = .ok () m' ∧ Becomes m (m.view.set family chain none) m' := by
  have found : (m.tables family natTable).find? chain = some [] := empty
  exact ⟨_,change_working working (by rw [found]),remove_becomes m family chain⟩

end Memory
end HostNet.Firewall.Iptables
