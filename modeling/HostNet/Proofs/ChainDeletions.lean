import HostNet.Proofs.Reinstalling
import HostNet.Proofs.RestoredChains
import Mathlib.Data.List.TakeWhile

namespace HostNet.Masquerade.Iptables
open Firewall (ToolError)
open Firewall.Iptables

-- A request to delete a chain, with the state that it meets.
structure Deletion (σ : Type) where
  family : Family
  table : String
  chain : String
  found : σ

-- What is done to a state with something beside it.
def beside (x : Step σ ε α) : Step (σ × τ) ε α := Step.within Prod.fst (fun t s => (t,s.2)) x

-- The same operations, with each request to delete a chain written down.
def noting (ops : Ops σ) : Ops (σ × List (Deletion σ)) where
  supported := fun s =>
    let (usable,t) := ops.supported s.1
    (usable,t,s.2)
  listChains family table := beside (ops.listChains family table)
  newChain family table chain := beside (ops.newChain family table chain)
  appendUnique family table chain rule := beside (ops.appendUnique family table chain rule)
  delete family table chain rule := beside (ops.delete family table chain rule)
  clearChain family table chain := beside (ops.clearChain family table chain)
  deleteChain family table chain := fun s =>
    beside (ops.deleteChain family table chain) (s.1,s.2 ++ [⟨family,table,chain,s.1⟩])

-- No rule of the family's built-in chain sends packets to the chain that is to be deleted.
def Deletion.Unreferenced (d : Deletion Memory) : Prop :=
  ∀ rules, d.found.view d.family postrouting = some rules → ∀ rule ∈ rules, jumpsTo d.chain rule = false

variable {m : Memory} {v : View} {chain comment : String} {family : Family} {jumps : List Rule} {net : Subnet}

section Lists

theorem freed_filtered (chain comment : String) (rules : List Rule) (net : Subnet) :
    (freed chain comment rules net).filter (jumpsTo chain) =
      freed chain comment (rules.filter (jumpsTo chain)) net := by
  rw [freed,erase_filtered (jumpsTo_jump _ _ _),erase_filtered (jumpsTo_jump _ _ _),freed]

-- Two erasures leave nothing exactly if there was no more than one of each.
theorem erased_none {one two : Rule} (different : one ≠ two) (rules : List Rule) :
    (rules.erase one).erase two = [] ↔ rules.Nodup ∧ ∀ rule ∈ rules, rule = one ∨ rule = two := by
  constructor
  · intro nothing
    have counted : ∀ rule, ((rules.erase one).erase two).count rule = 0 := by simp [nothing]
    have others : ∀ rule, rule ≠ one → rule ≠ two → rules.count rule = 0 := fun rule first second => by
      have left := counted rule
      rwa [List.count_erase_of_ne second,List.count_erase_of_ne first] at left
    refine ⟨List.nodup_iff_count_le_one.mpr fun rule => ?_,fun rule member => ?_⟩
    · have left := counted rule
      by_cases first : rule = one
      · subst first
        rw [List.count_erase_of_ne different,List.count_erase_self] at left
        omega
      · by_cases second : rule = two
        · subst second
          rw [List.count_erase_self,List.count_erase_of_ne first] at left
          omega
        · rw [others rule first second]
          omega
    · by_contra neither
      obtain ⟨first,second⟩ := not_or.mp neither
      exact List.count_eq_zero.mp (others rule first second) member
  · rintro ⟨once,known⟩
    refine List.eq_nil_iff_forall_not_mem.mpr fun rule left => ?_
    obtain ⟨second,kept⟩ := (once.erase one).mem_erase_iff.mp left
    obtain ⟨first,member⟩ := once.mem_erase_iff.mp kept
    exact (known rule member).elim first second

theorem jumpRule_spellings (chain comment : String) (net : Subnet) (a : Address) :
    jumpRule a.text chain comment ≠ jumpRule net.text chain comment := by
  intro same
  exact net.text_not_address a (jumpRule_inj.mp same).1.symm

-- Tearing down for a net takes all jumps away just if there is at most one of each spelling, and no other.
theorem freed_none : freed chain comment jumps net = [] ↔ jumps.Nodup ∧ ∀ rule ∈ jumps,
    rule = jumpRule net.address.text chain comment ∨ rule = jumpRule net.text chain comment :=
  erased_none (jumpRule_spellings chain comment net net.address) jumps

end Lists

section Notes
variable {σ τ : Type} {s t : σ}

theorem beside_part : Step.Part (Prod.fst : σ × τ → σ) (fun t s => (t,s.2)) where
  found _ _ := rfl
  again _ _ _ := rfl
  same _ := rfl

theorem ignoreAbsent_beside (x : Step σ ToolError Unit) :
    ignoreAbsent (beside x : Step (σ × τ) ToolError Unit) = beside (ignoreAbsent x) := by
  unfold ignoreAbsent beside
  rw [Step.within_bind beside_part,Step.within_attempt]
  congr 1
  funext outcome
  cases outcome with
  | ok _ => exact (Step.within_pure beside_part ()).symm
  | error e =>
    by_cases absent : e.isNotFound = true
    · simp only [absent,if_true]
      exact (Step.within_pure beside_part ()).symm
    · simp only [absent,Bool.false_eq_true,if_false]
      exact (Step.within_throw beside_part e).symm

theorem ignoreAbsent_besides {x : Step σ ToolError Unit} (ran : ignoreAbsent x s = .ok () t) (log : τ) :
    ignoreAbsent (beside x) (s,log) = .ok () (t,log) := by
  rw [ignoreAbsent_beside]
  exact Step.within_ok ran

end Notes

section Teardowns

theorem noted_teardownNet (chain comment : String) (net : Subnet) (working : m.failure = none)
    (log : List (Deletion Memory)) : ∃ found m',
      teardownNet (noting Memory.ops) chain comment net (m,log) =
        .ok () (m',log ++ [⟨net.family,natTable,chain,found⟩]) ∧
      teardownNet Memory.ops chain comment net m = .ok () m' ∧
      Memory.Becomes m ((teardownView chain comment m.view net).set net.family chain (some [])) found ∧
      Memory.Becomes m (teardownView chain comment m.view net) m' := by
  obtain ⟨m₁,m₂,found,m',bare,jumped,cleared,deleted,ran,met,becomes⟩ := teardownNet_stages chain comment net working
  refine ⟨found,m',?_,ran,met,becomes⟩
  refine (Step.bind_ok (ignoreAbsent_besides bare log)).trans ?_
  refine (Step.bind_ok (ignoreAbsent_besides jumped log)).trans ?_
  refine (Step.bind_ok (ignoreAbsent_besides cleared log)).trans ?_
  exact ignoreAbsent_besides deleted (log ++ [⟨net.family,natTable,chain,found⟩])

theorem teardownView_freed (apart : chain ≠ postrouting) (v : View) (net : Subnet) :
    teardownView chain comment v net net.family postrouting =
      (v net.family postrouting).map fun rules => freed chain comment rules net := by
  rw [teardownView,View.set_chain _ _ _ _ apart.symm,View.set_same]
  rfl

theorem torn_jumps (apart : chain ≠ postrouting) (v : View) (net : Subnet) :
    (ownRules chain (teardownView chain comment v net) net.family).jumps =
      freed chain comment (ownRules chain v net.family).jumps net := by
  simp only [ownRules,teardownView_freed apart]
  cases v net.family postrouting with
  | none => rfl
  | some rules => exact freed_filtered chain comment rules net

theorem torn_jumps_apart (v : View) (net : Subnet) (other : family ≠ net.family) :
    (ownRules chain (teardownView chain comment v net) family).jumps = (ownRules chain v family).jumps := by
  simp only [ownRules,teardownView_apart _ other]

theorem unreferenced_iff (d : Deletion Memory) :
    d.Unreferenced ↔ (ownRules d.chain d.found.view d.family).jumps = [] := by
  unfold Deletion.Unreferenced ownRules
  cases d.found.view d.family postrouting with
  | none => simp
  | some rules => simp [List.filter_eq_nil_iff]

-- What stands in the way of the chain's deletion is what the tear-down for the net leaves of the jumps.
theorem noted_unreferenced (apart : chain ≠ postrouting) {found : Memory}
    (met : Memory.Becomes m ((teardownView chain comment m.view net).set net.family chain (some [])) found) :
    Deletion.Unreferenced ⟨net.family,natTable,chain,found⟩ ↔
      freed chain comment (ownRules chain m.view net.family).jumps net = [] := by
  have jumps : (ownRules chain found.view net.family).jumps =
      (ownRules chain (teardownView chain comment m.view net) net.family).jumps := by
    rw [ownRules,ownRules,met.view,View.set_chain _ _ _ _ apart.symm]
  rw [unreferenced_iff,jumps,torn_jumps apart]

-- In each family the tear-down for the first net leaves no jump.
def FirstFrees (chain comment : String) (v : View) (nets : List Subnet) : Prop := ∀ family first,
  (ofFamily family nets).head? = some first → freed chain comment (ownRules chain v family).jumps first = []

theorem firstFrees_cons (apart : chain ≠ postrouting) (v : View) (net : Subnet) (rest : List Subnet) :
    FirstFrees chain comment v (net :: rest) ↔
      freed chain comment (ownRules chain v net.family).jumps net = [] ∧
        FirstFrees chain comment (teardownView chain comment v net) rest := by
  constructor
  · intro frees
    have own := frees net.family net (by rw [ofFamily_own]; rfl)
    refine ⟨own,fun family first begins => ?_⟩
    by_cases same : family = net.family
    · subst same
      rw [torn_jumps apart,own]
      rfl
    · rw [torn_jumps_apart v net same]
      exact frees family first (by rwa [ofFamily_other same])
  · rintro ⟨own,others⟩ family first begins
    by_cases same : family = net.family
    · subst same
      rw [ofFamily_own,List.head?_cons,Option.some.injEq] at begins
      exact begins ▸ own
    · rw [ofFamily_other same] at begins
      exact torn_jumps_apart v net same ▸ others family first begins

-- Each net has its request to delete the chain, and the first of each family decides whether all are in order.
theorem noted_teardownNets (apart : chain ≠ postrouting) (comment : String) (nets : List Subnet)
    (working : m.failure = none) (log : List (Deletion Memory)) : ∃ noted m',
      teardownNets (noting Memory.ops) chain comment nets (m,log) = .ok [] (m',log ++ noted) ∧
      teardownNets Memory.ops chain comment nets m = .ok [] m' ∧
      noted.map (fun d => (d.family,d.table,d.chain)) = nets.map (fun net => (net.family,natTable,chain)) ∧
      ((∀ d ∈ noted, d.Unreferenced) ↔ FirstFrees chain comment m.view nets) := by
  induction nets generalizing m log with
  | nil => exact ⟨[],m,by rw [List.append_nil]; rfl,rfl,rfl,by simp [FirstFrees,ofFamily]⟩
  | cons net rest ih =>
    obtain ⟨found,m₁,first,plain,met,b₁⟩ := noted_teardownNet chain comment net working log
    obtain ⟨noted,m₂,others,rest_,listed,frees⟩ :=
      ih (b₁.failure.trans working) (log ++ [⟨net.family,natTable,chain,found⟩])
    refine ⟨⟨net.family,natTable,chain,found⟩ :: noted,m₂,?_,?_,?_,?_⟩
    · refine (Step.bind_ok (Step.attempt_ok first)).trans ?_
      rw [List.append_assoc] at others
      exact (Step.bind_ok others).trans rfl
    · exact (Step.bind_ok (Step.attempt_ok plain)).trans ((Step.bind_ok rest_).trans rfl)
    · rw [List.map_cons,listed,List.map_cons]
    · rw [b₁.view] at frees
      rw [List.forall_mem_cons,noted_unreferenced apart met,frees,firstFrees_cons apart]

-- A tool that fails is asked for no deletion.
theorem noted_failing (nets : List Subnet) (failing : m.failure = some message) (log : List (Deletion Memory)) :
    teardownNets (noting Memory.ops) chain comment nets (m,log) = .ok (nets.map fun _ => message) (m,log) := by
  induction nets with
  | nil => rfl
  | cons net rest ih =>
    have refused : Memory.delete net.family natTable postrouting (jumpRule net.address.text chain comment) m =
        .error (.failed message) m := Memory.change_failing failing _
    have noted : ignoreAbsent (beside (Memory.delete net.family natTable postrouting
        (jumpRule net.address.text chain comment))) (m,log) = .error (.failed message) (m,log) := by
      rw [ignoreAbsent_beside]
      exact Step.within_error (ignoreAbsent_failed refused)
    refine (Step.bind_ok (Step.attempt_error (Step.bind_error noted))).trans ?_
    exact (Step.bind_ok ih).trans rfl

end Teardowns

section Setups

-- The nets for which setting up comes to their jumps: all before the first whose built-in chain is not there.
def entered (v : View) (nets : List Subnet) : List Subnet :=
  nets.takeWhile fun net => (v net.family postrouting).isSome

theorem setupView_present (present : (v net.family postrouting).isSome) (family : Family) :
    (setupView chain comment v net family postrouting).isSome = (v family postrouting).isSome := by
  by_cases same : family = net.family
  · subst same
    rw [setupView,View.set_same,present,Option.isSome_some]
  · rw [setupView_apart postrouting same]

-- What a run of setups leaves of jumps, also if it stops on the way.
theorem setupNets_jumps (apart : chain ≠ postrouting) (comment : String) (nets : List Subnet)
    (working : m.failure = none) :
    ((nets.forM (setupNet Memory.ops chain comment)).outcome m).2.failure = none ∧ ∀ family,
      (ownRules chain ((nets.forM (setupNet Memory.ops chain comment)).outcome m).2.view family).jumps =
        filled (ownRules chain m.view family).jumps
          ((ofFamily family (entered m.view nets)).map fun net => jumpRule net.text chain comment) := by
  induction nets generalizing m with
  | nil => exact ⟨working,fun _ => rfl⟩
  | cons net rest ih =>
    by_cases present : (m.view net.family postrouting).isSome = true
    · obtain ⟨m₁,first,b₁⟩ := setupNet_working comment net working apart present
      have begun : ((net :: rest).forM (setupNet Memory.ops chain comment)).outcome m =
          (rest.forM (setupNet Memory.ops chain comment)).outcome m₁ := Step.outcome_bind first
      obtain ⟨kept,jumps⟩ := ih (b₁.failure.trans working)
      refine ⟨begun ▸ kept,fun family => ?_⟩
      have same : entered m₁.view rest = entered m.view rest := by
        simp only [entered,b₁.view,setupView_present present]
      have later : entered m.view (net :: rest) = net :: entered m.view rest := List.takeWhile_cons_of_pos present
      rw [begun,jumps family,same,later,b₁.view]
      by_cases own : family = net.family
      · subst own
        rw [ownRules_setup net apart,ofFamily_own,List.map_cons]
        rfl
      · rw [ownRules_setup_apart net own,ofFamily_other own]
    · obtain ⟨m₃,filling,b₃⟩ := setupNet_filled chain comment net working
      have absent : m₃.view net.family postrouting = none := by
        rw [b₃.view,View.set_chain _ _ _ _ apart.symm]
        simpa using present
      have refused := Memory.appendUnique_absent (jumpRule net.text chain comment) (b₃.failure.trans working) absent
      have stopped : ((net :: rest).forM (setupNet Memory.ops chain comment)).outcome m = _ :=
        Step.outcome_error (Step.bind_error (filling.trans (Step.mapError_error refused)))
      have nobody : entered m.view (net :: rest) = [] := List.takeWhile_cons_of_neg present
      rw [stopped,nobody]
      refine ⟨b₃.failure.trans working,fun family => ?_⟩
      rw [ownRules,ownRules,b₃.view,View.set_chain _ _ _ _ apart.symm]
      rfl

theorem filled_freed (chain comment : String) (jumps : List Rule) (nets : List Subnet) (first : Subnet) :
    freed chain comment (filled jumps (nets.map fun net => jumpRule net.text chain comment)) first = [] ↔
      (∀ net ∈ nets, net = first) ∧ jumps.Nodup ∧ ∀ rule ∈ jumps,
        rule = jumpRule first.address.text chain comment ∨ rule = jumpRule first.text chain comment := by
  rw [freed_none]
  simp only [mem_filled]
  constructor
  · rintro ⟨once,known⟩
    refine ⟨fun net among => ?_,once.sublist (filled_begins _ _).sublist,fun rule member => known rule (.inl member)⟩
    rcases known _ (.inr (List.mem_map_of_mem among)) with bare | written
    · exact absurd bare.symm (jumpRule_spellings chain comment net first.address)
    · exact jumpRule_injective chain comment written
  · rintro ⟨alone,once,known⟩
    refine ⟨filled_once once _,fun rule either => either.elim (known rule) fun new => ?_⟩
    obtain ⟨net,among,rfl⟩ := List.mem_map.mp new
    exact .inr (by rw [alone net among])

end Setups

section Undoing
variable {nets : List Subnet} {identity : Identity}

-- Tearing down after installing, whatever came of that, with the deletions written down.
def undone (nets : List Subnet) (identity : Identity) (m : Memory) :
    Except Error Unit × Memory × List (Deletion Memory) :=
  (teardown (noting Memory.ops) nets identity).outcome (((install Memory.ops nets identity).outcome m).2,[])

def deletions (nets : List Subnet) (identity : Identity) (m : Memory) : List (Deletion Memory) :=
  (undone nets identity m).2.2

-- In each family only one net was set up, and the jumps of before, each there once, are to be deleted for that net too.
def OneEach (nets : List Subnet) (identity : Identity) (m : Memory) : Prop :=
  ∀ family first, (ofFamily family nets).head? = some first →
    (∀ net ∈ ofFamily family (entered m.view nets), net = first) ∧ (belongings identity m family).jumps.Nodup ∧
    ∀ rule ∈ (belongings identity m family).jumps,
      rule = jumpRule first.address.text (chainName identity.network identity.id)
          (chainComment identity.network identity.id) ∨
        rule = jumpRule first.text (chainName identity.network identity.id)
          (chainComment identity.network identity.id)

theorem teardown_told {ops : Ops σ} {s t : σ} (ran : teardownNets ops (chainName identity.network identity.id)
      (chainComment identity.network identity.id) nets s = .ok messages t) :
    teardown ops nets identity s = if messages.isEmpty then .ok () t else
      .error (.firewall .iptables (.teardownChain (chainName identity.network identity.id))
        ("\n".intercalate messages)) t := by
  refine (Step.bind_ok ran).trans ?_
  cases messages <;> rfl

theorem firstFrees_installed (nets : List Subnet) (identity : Identity) (working : m.failure = none) :
    FirstFrees (chainName identity.network identity.id) (chainComment identity.network identity.id)
      ((install Memory.ops nets identity).outcome m).2.view nets ↔ OneEach nets identity m := by
  obtain ⟨_,jumps⟩ := setupNets_jumps (chainName_postrouting identity.network identity.id)
    (chainComment identity.network identity.id) nets working
  refine forall_congr' fun family => forall_congr' fun first => imp_congr_right fun _ => ?_
  rw [install,jumps family]
  exact filled_freed _ _ _ _ _

theorem deletions_working (nets : List Subnet) (identity : Identity) (working : m.failure = none) :
    ((undone nets identity m).1,(undone nets identity m).2.1) =
      (teardown Memory.ops nets identity).outcome ((install Memory.ops nets identity).outcome m).2 ∧
    (deletions nets identity m).map (fun d => (d.family,d.table,d.chain)) =
      nets.map (fun net => (net.family,natTable,chainName identity.network identity.id)) ∧
    ((∀ d ∈ deletions nets identity m, d.Unreferenced) ↔ OneEach nets identity m) := by
  have apart := chainName_postrouting identity.network identity.id
  have kept : ((install Memory.ops nets identity).outcome m).2.failure = none :=
    (setupNets_jumps apart (chainComment identity.network identity.id) nets working).1
  obtain ⟨noted,m',ran,plain,listed,frees⟩ :=
    noted_teardownNets apart (chainComment identity.network identity.id) nets kept []
  rw [← firstFrees_installed nets identity working]
  unfold deletions undone
  rw [Step.outcome_ok (teardown_told ran),Step.outcome_ok (teardown_told plain)]
  exact ⟨rfl,listed,frees⟩

theorem deletions_failing (nets : List Subnet) (identity : Identity) (failing : m.failure = some message) :
    ((undone nets identity m).1,(undone nets identity m).2.1) =
      (teardown Memory.ops nets identity).outcome ((install Memory.ops nets identity).outcome m).2 ∧
    deletions nets identity m = [] := by
  unfold deletions undone
  rw [install_failing nets identity failing,Step.outcome,Step.outcome,
    teardown_told (noted_failing nets failing []),teardown_told (teardownNets_failing nets failing)]
  cases nets <;> exact ⟨rfl,rfl⟩

-- With nothing of the identity before, the nets of a family must be the same.
theorem oneEach_unknown (present : ∀ family, (m.view family postrouting).isSome)
    (unknown : Unknown (chainName identity.network identity.id) m.view) :
    OneEach nets identity m ↔ ∀ net ∈ nets, ∀ other ∈ nets, net.family = other.family → net = other := by
  have all : entered m.view nets = nets := List.takeWhile_eq_self_iff.mpr fun net _ => present net.family
  have nothing : ∀ family, (belongings identity m family).jumps = [] := by
    intro family
    obtain ⟨rules,held⟩ := Option.isSome_iff_exists.mp (present family)
    simpa [belongings,ownRules,held,List.filter_eq_nil_iff] using unknown.unentered family rules held
  unfold OneEach
  simp only [all,nothing]
  constructor
  · intro each net among other also same
    have own : net ∈ ofFamily net.family nets := List.mem_filter.mpr ⟨among,by simp⟩
    have beside : other ∈ ofFamily net.family nets := List.mem_filter.mpr ⟨also,by simp [same]⟩
    obtain ⟨first,rest,listed⟩ := List.exists_cons_of_ne_nil (List.ne_nil_of_mem own)
    obtain ⟨alone,_⟩ := each net.family first (by rw [listed]; rfl)
    rw [alone net own,alone other beside]
  · intro same family first begins
    refine ⟨fun net among => ?_,.nil,by simp⟩
    obtain ⟨kept,own⟩ := List.mem_filter.mp among
    obtain ⟨asked,also⟩ := List.mem_filter.mp (List.mem_of_mem_head? begins)
    exact same net kept first asked ((beq_iff_eq.mp own).trans (beq_iff_eq.mp also).symm)

end Undoing

-- The nets of a family share a chain, which is deleted along with the first of them. No jump to it is left by then just
-- if the family has no other net and no jumps of before but those of this net; what is deleted then is the same.
theorem deletions_unreferenced_exactly (nets : List Subnet) (identity : Identity) (m : Memory) :
    ((undone nets identity m).1,(undone nets identity m).2.1) =
      (teardown Memory.ops nets identity).outcome ((install Memory.ops nets identity).outcome m).2 ∧
    ((∀ d ∈ deletions nets identity m, d.Unreferenced) ↔ (m.failure = none → OneEach nets identity m)) ∧
    (m.failure = none →
      (deletions nets identity m).map (fun d => (d.family,d.table,d.chain)) =
        nets.map (fun net => (net.family,natTable,chainName identity.network identity.id)) ∧
      ((∀ family, (m.view family postrouting).isSome) →
        Unknown (chainName identity.network identity.id) m.view →
        ((∀ d ∈ deletions nets identity m, d.Unreferenced) ↔
          ∀ net ∈ nets, ∀ other ∈ nets, net.family = other.family → net = other))) := by
  cases broken : m.failure with
  | none =>
    obtain ⟨same,listed,exactly⟩ := deletions_working nets identity broken
    refine ⟨same,exactly.trans ⟨fun each _ => each,fun each => each rfl⟩,fun _ => ⟨listed,fun present unknown => ?_⟩⟩
    exact exactly.trans (oneEach_unknown present unknown)
  | some message =>
    obtain ⟨same,nothing⟩ := deletions_failing nets identity broken
    exact ⟨same,by simp [nothing],by simp⟩

end HostNet.Masquerade.Iptables

namespace HostNet.Masquerade
open Firewall.Iptables

-- Two nets of a network: the chain is to be deleted while the jump of the second is there.
theorem jump_outlives_chain : Iptables.Unknown (chainName "pods" "") Memory.initial.view ∧
    ∃ d ∈ Iptables.deletions [oldNet,newNet] (.ofNetwork "pods") .initial, ¬d.Unreferenced := by
  have unknown : Iptables.Unknown (chainName "pods" "") Memory.initial.view := by
    refine ⟨Iptables.initial_absent "pods" "",fun family rules held => ?_⟩
    cases (Memory.initial_postrouting family).symm.trans held
    simp
  refine ⟨unknown,?_⟩
  by_contra none_
  have clear : ∀ d ∈ Iptables.deletions [oldNet,newNet] (.ofNetwork "pods") .initial, d.Unreferenced :=
    fun d member => by_contra fun left => none_ ⟨d,member,left⟩
  have working : Memory.initial.failure = none := rfl
  obtain ⟨_,_,exactly⟩ := Iptables.deletions_working [oldNet,newNet] (.ofNetwork "pods") working
  have same := (exactly.trans (Iptables.oneEach_unknown Iptables.initial_present unknown)).mp clear
  have different : oldNet ≠ newNet := by decide
  exact different (same oldNet (by simp) newNet (by simp) rfl)

end HostNet.Masquerade
