import HostNet.Masquerade.Iptables
import HostNet.Proofs.ChainTables

namespace HostNet.Masquerade.Iptables
open Firewall (ToolError)
open Firewall.Iptables

theorem jumpRule_inj {source chain comment source' chain' comment' : String} :
    jumpRule source chain comment = jumpRule source' chain' comment' ↔
      source = source' ∧ chain = chain' ∧ comment = comment' := by
  simp [jumpRule,commented]

-- What setting up for one net does to the nat tables.
def setupView (chain comment : String) (v : View) (net : Subnet) : View :=
  let own := (v net.family chain).getD []
  let jumps := (v net.family postrouting).getD []
  (v.set net.family chain (some (appended (appended own (acceptRule net comment))
      (masqueradeRule net.family comment)))).set net.family postrouting
    (some (appended jumps (jumpRule net.text chain comment)))

-- What tearing down for one net does to them.
def teardownView (chain comment : String) (v : View) (net : Subnet) : View :=
  let jumps := (v net.family postrouting).map fun rules =>
    (rules.erase (jumpRule net.address.text chain comment)).erase (jumpRule net.text chain comment)
  (v.set net.family postrouting jumps).set net.family chain none

section Views
variable {v : View} {chain comment c : String} {family : Family} {net : Subnet}

theorem setupView_apart (c : String) (other : family ≠ net.family) :
    setupView chain comment v net family c = v family c := by
  rw [setupView,View.set_family _ _ _ _ other,View.set_family _ _ _ _ other]

theorem setupView_beside (own : c ≠ chain) (inner : c ≠ postrouting) :
    setupView chain comment v net net.family c = v net.family c := by
  rw [setupView,View.set_chain _ _ _ _ inner,View.set_chain _ _ _ _ own]

theorem setupView_own (apart : chain ≠ postrouting) :
    setupView chain comment v net net.family chain = some (appended (appended
      ((v net.family chain).getD []) (acceptRule net comment)) (masqueradeRule net.family comment)) := by
  rw [setupView,View.set_chain _ _ _ _ apart,View.set_same]

theorem setupView_entry (held : v net.family postrouting = some rules) :
    setupView chain comment v net net.family postrouting =
      some (appended rules (jumpRule net.text chain comment)) := by
  rw [setupView,View.set_same,held,Option.getD_some]

theorem teardownView_apart (c : String) (other : family ≠ net.family) :
    teardownView chain comment v net family c = v family c := by
  rw [teardownView,View.set_family _ _ _ _ other,View.set_family _ _ _ _ other]

theorem teardownView_beside (own : c ≠ chain) (inner : c ≠ postrouting) :
    teardownView chain comment v net net.family c = v net.family c := by
  rw [teardownView,View.set_chain _ _ _ _ own,View.set_chain _ _ _ _ inner]

theorem teardownView_own : teardownView chain comment v net net.family chain = none := by
  rw [teardownView,View.set_same]

theorem teardownView_entry (apart : chain ≠ postrouting) (held : v net.family postrouting = some rules) :
    teardownView chain comment v net net.family postrouting =
      some ((rules.erase (jumpRule net.address.text chain comment)).erase (jumpRule net.text chain comment)) := by
  rw [teardownView,View.set_chain _ _ _ _ apart.symm,View.set_same,held,Option.map_some]

end Views

variable {m : Memory} {chain comment : String} {net : Subnet}

-- The chain is there afterwards, with the rules that it had.
theorem ensureChain_working (chain : String) (working : m.failure = none) (family : Family) (f : FirewallTask) :
    ∃ m', (if !((m.tables family natTable).map Prod.fst).contains chain then
        Step.mapError (failure f) (Memory.newChain family natTable chain) else pure ()) m = .ok () m' ∧
      Memory.Becomes m (m.view.set family chain (some ((m.view family chain).getD []))) m' := by
  have found : (m.tables family natTable).find? chain = m.view family chain := rfl
  rw [Chains.names_contain,found]
  cases held : m.view family chain with
  | none =>
    obtain ⟨m',ran,becomes⟩ := Memory.newChain_working working held
    exact ⟨m',Step.mapError_ok ran,becomes⟩
  | some rules =>
    rw [Option.getD_some,View.set_held _ _ _ _ held]
    exact ⟨m,rfl,Memory.Becomes.refl m⟩

-- All but the jump needs no chain to be there before.
theorem setupNet_filled (chain comment : String) (net : Subnet) (working : m.failure = none) :
    ∃ m', setupNet Memory.ops chain comment net m = Step.mapError (failure (.appendJump chain))
        (Memory.appendUnique net.family natTable postrouting (jumpRule net.text chain comment)) m' ∧
      Memory.Becomes m (m.view.set net.family chain (some (appended (appended ((m.view net.family chain).getD [])
        (acceptRule net comment)) (masqueradeRule net.family comment)))) m' := by
  obtain ⟨m₁,made,b₁⟩ := ensureChain_working chain working net.family (.createChain chain)
  have own₁ : m₁.view net.family chain = some ((m.view net.family chain).getD []) := by
    rw [b₁.view,View.set_same]
  obtain ⟨m₂,accepted,b₂⟩ := Memory.appendUnique_working (acceptRule net comment)
    (b₁.failure.trans working) own₁
  have own₂ : m₂.view net.family chain = some (appended ((m.view net.family chain).getD [])
      (acceptRule net comment)) := by rw [b₂.view,View.set_same]
  obtain ⟨m₃,masqueraded,b₃⟩ := Memory.appendUnique_working (masqueradeRule net.family comment)
    (b₂.failure.trans (b₁.failure.trans working)) own₂
  have whole := b₁.trans (b₂.trans b₃)
  rw [b₂.view,b₁.view,View.set_again,View.set_again] at whole
  refine ⟨m₃,?_,whole⟩
  refine (Step.bind_ok (Step.mapError_ok (Memory.listChains_working working))).trans ?_
  refine (congrFun (Step.when_bind _ _ _) m).trans ?_
  refine (Step.bind_ok made).trans ?_
  refine (Step.bind_ok (Step.mapError_ok accepted)).trans ?_
  exact Step.bind_ok (Step.mapError_ok masqueraded)

theorem setupNet_working (comment : String) (net : Subnet) (working : m.failure = none) (apart : chain ≠ postrouting)
    (present : (m.view net.family postrouting).isSome) :
    ∃ m', setupNet Memory.ops chain comment net m = .ok () m' ∧
      Memory.Becomes m (setupView chain comment m.view net) m' := by
  obtain ⟨jumps,held⟩ := Option.isSome_iff_exists.mp present
  obtain ⟨m₃,filled,b₃⟩ := setupNet_filled chain comment net working
  have jumps₃ : m₃.view net.family postrouting = some jumps := by
    rw [b₃.view,View.set_chain _ _ _ _ apart.symm,held]
  obtain ⟨m₄,jumped,b₄⟩ := Memory.appendUnique_working (jumpRule net.text chain comment)
    (b₃.failure.trans working) jumps₃
  have whole := b₃.trans b₄
  rw [b₃.view] at whole
  refine ⟨m₄,filled.trans (Step.mapError_ok jumped),?_⟩
  simpa only [setupView,held,Option.getD_some] using whole

theorem ignoreAbsent_ok {x : Step Memory ToolError Unit} (ran : x m = .ok () m') :
    ignoreAbsent x m = .ok () m' := (Step.bind_ok (Step.attempt_ok ran)).trans rfl

theorem ignoreAbsent_absent {x : Step Memory ToolError Unit} (ran : x m = .error (.notFound message) m') :
    ignoreAbsent x m = .ok () m' := (Step.bind_ok (Step.attempt_error ran)).trans rfl

theorem ignoreAbsent_failed {x : Step Memory ToolError Unit} (ran : x m = .error (.failed message) m') :
    ignoreAbsent x m = .error (.failed message) m' := (Step.bind_ok (Step.attempt_error ran)).trans rfl

-- Neither a missing chain nor a missing rule is a failure, so the rule is gone in any case.
theorem delete_working (chain : String) (working : m.failure = none) (family : Family) (rule : Rule) :
    ∃ m', ignoreAbsent (Memory.delete family natTable chain rule) m = .ok () m' ∧
      Memory.Becomes m (m.view.set family chain ((m.view family chain).map (·.erase rule))) m' := by
  have found : (m.tables family natTable).find? chain = m.view family chain := rfl
  cases held : m.view family chain with
  | none =>
    have refused : Memory.delete family natTable chain rule m = .error (Memory.noChain chain) m :=
      Memory.change_refused working (by rw [found,held])
    rw [Option.map_none,View.set_held _ _ _ _ held]
    exact ⟨m,ignoreAbsent_absent refused,Memory.Becomes.refl m⟩
  | some rules =>
    by_cases there : rules.contains rule = true
    · have ran : Memory.delete family natTable chain rule m =
          .ok () (m.put family natTable ((m.tables family natTable).put chain (rules.erase rule))) :=
        Memory.change_working working (by rw [found,held]; simp only [there,if_true])
      exact ⟨_,ignoreAbsent_ok ran,Memory.place_becomes m family chain _⟩
    · have refused : Memory.delete family natTable chain rule m = .error Memory.noRule m :=
        Memory.change_refused working (by rw [found,held]; simp only [if_neg there])
      have same : rules.erase rule = rules := List.erase_of_not_mem (by simpa using there)
      rw [Option.map_some,same,View.set_held _ _ _ _ held]
      exact ⟨m,ignoreAbsent_absent refused,Memory.Becomes.refl m⟩

-- The jumps go first, so the chain is empty and what else is there is as it will be when its deletion is asked for.
theorem teardownNet_stages (chain comment : String) (net : Subnet) (working : m.failure = none) :
    ∃ m₁ m₂ found m',
      ignoreAbsent (Memory.delete net.family natTable postrouting (jumpRule net.address.text chain comment)) m =
        .ok () m₁ ∧
      ignoreAbsent (Memory.delete net.family natTable postrouting (jumpRule net.text chain comment)) m₁ = .ok () m₂ ∧
      ignoreAbsent (Memory.clearChain net.family natTable chain) m₂ = .ok () found ∧
      ignoreAbsent (Memory.deleteChain net.family natTable chain) found = .ok () m' ∧
      teardownNet Memory.ops chain comment net m = .ok () m' ∧
      Memory.Becomes m ((teardownView chain comment m.view net).set net.family chain (some [])) found ∧
      Memory.Becomes m (teardownView chain comment m.view net) m' := by
  obtain ⟨m₁,bare,b₁⟩ := delete_working postrouting working net.family
    (jumpRule net.address.text chain comment)
  have working₁ := b₁.failure.trans working
  obtain ⟨m₂,jumped,b₂⟩ := delete_working postrouting working₁ net.family
    (jumpRule net.text chain comment)
  have working₂ := b₂.failure.trans working₁
  obtain ⟨found,cleared,b₃⟩ := Memory.clearChain_working net.family chain working₂
  have empty : found.view net.family chain = some [] := by rw [b₃.view,View.set_same]
  obtain ⟨m',deleted,b₄⟩ := Memory.deleteChain_working (b₃.failure.trans working₂) empty
  have before := b₁.trans (b₂.trans b₃)
  have whole := before.trans b₄
  rw [b₃.view,b₂.view,b₁.view,View.set_same,View.set_again,View.set_again,Option.map_map] at whole
  rw [b₂.view,b₁.view,View.set_same,View.set_again,Option.map_map] at before
  refine ⟨m₁,m₂,found,m',bare,jumped,ignoreAbsent_ok cleared,ignoreAbsent_ok deleted,?_,?_,whole⟩
  · refine (Step.bind_ok bare).trans ?_
    refine (Step.bind_ok jumped).trans ?_
    refine (Step.bind_ok (ignoreAbsent_ok cleared)).trans ?_
    exact ignoreAbsent_ok deleted
  · rw [teardownView,View.set_again]
    exact before

theorem teardownNet_working (chain comment : String) (net : Subnet) (working : m.failure = none) :
    ∃ m', teardownNet Memory.ops chain comment net m = .ok () m' ∧
      Memory.Becomes m (teardownView chain comment m.view net) m' := by
  obtain ⟨_,_,_,m',_,_,_,_,ran,_,becomes⟩ := teardownNet_stages chain comment net working
  exact ⟨m',ran,becomes⟩

theorem setupNet_failing (failing : m.failure = some message) :
    setupNet Memory.ops chain comment net m = .error (failure .listChains (.failed message)) m :=
  Step.bind_error (Step.mapError_error (Memory.listChains_failing failing))

theorem teardownNet_failing (failing : m.failure = some message) :
    teardownNet Memory.ops chain comment net m = .error (.failed message) m := by
  have refused : Memory.delete net.family natTable postrouting (jumpRule net.address.text chain comment) m =
      .error (.failed message) m := Memory.change_failing failing _
  exact Step.bind_error (ignoreAbsent_failed refused)

-- The built-in chain stays whatever is set up.
theorem setupView_postrouting (v : View) (present : ∀ family, (v family postrouting).isSome) (family : Family) :
    (setupView chain comment v net family postrouting).isSome := by
  by_cases same : family = net.family
  · subst family
    obtain ⟨rules,held⟩ := Option.isSome_iff_exists.mp (present net.family)
    rw [setupView_entry held]
    rfl
  · rw [setupView_apart _ same]
    exact present family

theorem setupNets_working (nets : List Subnet) (working : m.failure = none) (apart : chain ≠ postrouting)
    (present : ∀ family, (m.view family postrouting).isSome) :
    ∃ m', nets.forM (setupNet Memory.ops chain comment) m = .ok () m' ∧
      Memory.Becomes m (nets.foldl (setupView chain comment) m.view) m' := by
  induction nets generalizing m with
  | nil => exact ⟨m,rfl,Memory.Becomes.refl m⟩
  | cons net rest ih =>
    obtain ⟨m₁,first,b₁⟩ := setupNet_working comment net working apart (present net.family)
    have present₁ : ∀ family, (m₁.view family postrouting).isSome := by
      rw [b₁.view]
      exact setupView_postrouting m.view present
    obtain ⟨m₂,others,b₂⟩ := ih (b₁.failure.trans working) present₁
    rw [b₁.view] at b₂
    exact ⟨m₂,(Step.bind_ok first).trans others,b₁.trans b₂⟩

theorem teardownNets_working (chain comment : String) (nets : List Subnet) (working : m.failure = none) :
    ∃ m', teardownNets Memory.ops chain comment nets m = .ok [] m' ∧
      Memory.Becomes m (nets.foldl (teardownView chain comment) m.view) m' := by
  induction nets generalizing m with
  | nil => exact ⟨m,rfl,Memory.Becomes.refl m⟩
  | cons net rest ih =>
    obtain ⟨m₁,first,b₁⟩ := teardownNet_working chain comment net working
    obtain ⟨m₂,others,b₂⟩ := ih (b₁.failure.trans working)
    rw [b₁.view] at b₂
    refine ⟨m₂,?_,b₁.trans b₂⟩
    refine (Step.bind_ok (Step.attempt_ok first)).trans ?_
    exact (Step.bind_ok others).trans rfl

theorem teardownNets_failing (nets : List Subnet) (failing : m.failure = some message) :
    teardownNets Memory.ops chain comment nets m = .ok (nets.map fun _ => message) m := by
  induction nets with
  | nil => rfl
  | cons net rest ih =>
    refine (Step.bind_ok (Step.attempt_error (teardownNet_failing failing))).trans ?_
    exact (Step.bind_ok ih).trans rfl

theorem chainName_begins (network id : String) : ∃ rest, chainName network id = chainStart ++ rest := by
  unfold chainName Digest.label?
  split
  · exact ⟨"",by simp⟩
  · exact ⟨_,rfl⟩

theorem chainName_apart (network id other : String) (different : other.toList.take 5 ≠ chainStart.toList) :
    chainName network id ≠ other := by
  rintro rfl
  obtain ⟨rest,begins⟩ := chainName_begins network id
  rw [begins,String.toList_append] at different
  exact different (by rfl)

theorem chainName_postrouting (network id : String) : chainName network id ≠ postrouting :=
  chainName_apart network id postrouting (by decide)

theorem initial_absent (network id : String) (family : Family) :
    Memory.initial.view family (chainName network id) = none := by
  apply Memory.initial_absent
  have input := chainName_apart network id "INPUT" (by decide)
  have output := chainName_apart network id "OUTPUT" (by decide)
  have prerouting := chainName_apart network id "PREROUTING" (by decide)
  simp [input,output,prerouting,chainName_postrouting]

theorem install_working (nets : List Subnet) (identity : Identity) (working : m.failure = none)
    (present : ∀ family, (m.view family postrouting).isSome) :
    ∃ m', install Memory.ops nets identity m = .ok () m' ∧
      Memory.Becomes m (nets.foldl (setupView (chainName identity.network identity.id)
        (chainComment identity.network identity.id)) m.view) m' :=
  setupNets_working nets working (chainName_postrouting _ _) present

theorem install_failing (nets : List Subnet) (identity : Identity) (failing : m.failure = some message) :
    (Step.outcome (install Memory.ops nets identity) m).2 = m := by
  cases nets with
  | nil => rfl
  | cons net rest =>
    have refused : install Memory.ops (net :: rest) identity m =
      .error (failure .listChains (.failed message)) m := Step.bind_error (setupNet_failing failing)
    rw [Step.outcome,refused]

theorem teardown_working (nets : List Subnet) (identity : Identity) (working : m.failure = none) :
    ∃ m', teardown Memory.ops nets identity m = .ok () m' ∧
      Memory.Becomes m (nets.foldl (teardownView (chainName identity.network identity.id)
        (chainComment identity.network identity.id)) m.view) m' := by
  obtain ⟨m',ran,becomes⟩ := teardownNets_working (chainName identity.network identity.id)
    (chainComment identity.network identity.id) nets working
  exact ⟨m',(Step.bind_ok ran).trans rfl,becomes⟩

theorem teardown_failing (nets : List Subnet) (identity : Identity) (failing : m.failure = some message) :
    teardown Memory.ops nets identity m = if nets.isEmpty then .ok () m else
      .error (.firewall .iptables (.teardownChain (chainName identity.network identity.id))
        ("\n".intercalate (nets.map fun _ => message))) m := by
  refine (Step.bind_ok (teardownNets_failing nets failing)).trans ?_
  cases nets <;> rfl

end HostNet.Masquerade.Iptables
