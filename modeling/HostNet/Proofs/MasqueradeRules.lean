import HostNet.Proofs.InstanceComments
import HostNet.Proofs.RulesetChanges
import HostNet.Proofs.StepKeeps

namespace HostNet.Masquerade.Nft
open Firewall (ToolError)
open Firewall.Nft Firewall.Nft.Ruleset
open Function (update)

variable {m : Memory} {r : Ruleset} {b : Bool} {v : String → Option (List Stored)} {n : Nat}

theorem listRules_working (working : m.failure = none) (chain : String) :
    Memory.listRules chain m = match m.ruleset.rules? chain with
      | some rules => .ok (rules.map Stored.listed) m
      | none => .error (.notFound ("Error: No such file or directory; chain " ++ chain)) m := by
  have checked : (Step.ofExcept m.check : Step Memory ToolError Unit) m = .ok () m := by
    rw [Memory.check,working]
    rfl
  have known : (get : Step Memory ToolError Memory) m = .ok m m := rfl
  refine (Step.bind_ok known).trans ((Step.bind_ok checked).trans ?_)
  cases held : m.ruleset.rules? chain with
  | some rules =>
    have answer : (Step.ofExcept (m.ruleset.rules chain) : Step Memory ToolError (List Stored)) m = .ok rules m := by
      rw [Ruleset.rules,held]
      rfl
    exact (Step.bind_ok answer).trans rfl
  | none =>
    have answer : (Step.ofExcept (m.ruleset.rules chain) : Step Memory ToolError (List Stored)) m =
        .error (.notFound ("Error: No such file or directory; chain " ++ chain)) m := by
      rw [Ruleset.rules,held]
      rfl
    exact Step.bind_error answer

theorem listRules_failing (failing : m.failure = some message) (chain : String) :
    Memory.listRules chain m = .error (.failed message) m := by
  have checked : (Step.ofExcept m.check : Step Memory ToolError Unit) m = .error (.failed message) m := by
    rw [Memory.check,failing]
    rfl
  have known : (get : Step Memory ToolError Memory) m = .ok m m := rfl
  exact (Step.bind_ok known).trans (Step.bind_error checked)

theorem run_working (working : m.failure = none) (t : Transaction) (ran : m.ruleset.applyAll t = .ok r) :
    ∃ m', Memory.run t m = .ok () m' ∧ m'.usable = m.usable ∧ m'.failure = m.failure ∧ m'.ruleset = r := by
  refine ⟨{ m with ruleset := r,transactions := m.transactions + 1,lastScript := some t.script },?_,rfl,rfl,rfl⟩
  simp [Memory.run,Step.update,Memory.check,working,ran,bind,Except.bind,pure,Except.pure]

-- The rules that all instances have in common.
def sharedRules : List Rule := [.returnTo (.multicast .v4),.returnTo (.multicast .v6),.goto checksChain]

def shared (last : Nat) : List Stored := numbered postroutingChain none last sharedRules

-- What the other instances own in a chain.
def ofOthers (hash : String) (rules : List Stored) : List Stored := rules.filter fun s => !isOwnedBy hash s.listed

theorem frame_shows (shown : r.Shows b v n) :
    ∃ r', r.applyAll frame = .ok r' ∧ r'.Shows true (update (update v checksChain
      (some ((v checksChain).getD []))) postroutingChain (some (shared n))) (n + 3) := by
  obtain ⟨r₁,table,shown₁⟩ := addTable_shows shown (some "Masquerading for PETA bridge networks")
  obtain ⟨r₂,checks,shown₂⟩ := addChain_shows shown₁ checksChain none
    (some "Masquerade traffic from certain IPs to any (non-multicast) IP outside their subnet")
  obtain ⟨r₃,postrouting,shown₃⟩ := addChain_shows shown₂ postroutingChain
    (some ⟨"nat","postrouting","srcnat"⟩) none
  obtain ⟨r₄,flushed,shown₄⟩ := flushChain_shows shown₃ (Function.update_self ..)
  obtain ⟨r₅,filled,shown₅⟩ := additions_shows sharedRules none shown₄ (Function.update_self ..)
  refine ⟨r₅,?_,?_⟩
  · refine (applyAll_cons table _).trans ?_
    refine (applyAll_cons checks _).trans ?_
    refine (applyAll_cons postrouting _).trans ?_
    exact (applyAll_cons flushed _).trans filled
  · rw [Function.update_idem,Function.update_idem] at shown₅
    exact shown₅

theorem ownRules_working (working : m.failure = none) (hash : String) :
    ownRules Memory.ops hash m =
      .ok ((((m.ruleset.rules? checksChain).getD []).map Stored.listed).filter (isOwnedBy hash)) m := by
  have listed := listRules_working working checksChain
  cases held : m.ruleset.rules? checksChain with
  | some rules =>
    rw [held] at listed
    exact ownRules_listed listed hash
  | none =>
    rw [held] at listed
    exact (Step.bind_ok (Step.attempt_error listed)).trans rfl

theorem ownRules_failing (failing : m.failure = some message) (hash : String) :
    ownRules Memory.ops hash m = .error (.failed message) m :=
  (Step.bind_ok (Step.attempt_error (listRules_failing failing checksChain))).trans rfl

theorem checks_postrouting : checksChain ≠ postroutingChain := by decide

-- The rules of the instance are replaced by one for each net; those of others stay as they are.
theorem install_working (nets : List Subnet) (identity : Identity) (working : m.failure = none)
    (sound : Sound m.ruleset.rules? m.ruleset.lastHandle) :
    ∃ m', install Memory.ops nets identity m = .ok () m' ∧ m'.usable = m.usable ∧ m'.failure = m.failure ∧
      m'.ruleset.Shows true (update (update m.ruleset.rules? checksChain
          (some (ofOthers (instanceHash identity) ((m.ruleset.rules? checksChain).getD []) ++
            numbered checksChain (some (instanceComment identity)) (m.ruleset.lastHandle + 3) (nets.map ruleFor))))
          postroutingChain (some (shared m.ruleset.lastHandle)))
        (m.ruleset.lastHandle + 3 + nets.length) := by
  obtain ⟨r₁,framed,shown₁⟩ := frame_shows (shows_self m.ruleset)
  have sound₁ := applyAll_sound frame sound framed
  rw [shown₁.rules,shown₁.lastHandle] at sound₁
  have held₁ : update (update m.ruleset.rules? checksChain (some ((m.ruleset.rules? checksChain).getD [])))
      postroutingChain (some (shared m.ruleset.lastHandle)) checksChain =
      some ((m.ruleset.rules? checksChain).getD []) := by
    rw [Function.update_of_ne checks_postrouting,Function.update_self]
  obtain ⟨r₂,deleted,shown₂⟩ := picked_shows (isOwnedBy (instanceHash identity)) shown₁ held₁
    (sound₁.named held₁) (sound₁.distinct held₁)
  obtain ⟨r₃,added,shown₃⟩ := additions_shows (nets.map ruleFor) (some (instanceComment identity)) shown₂
    (Function.update_self ..)
  rw [Function.update_idem,Function.update_comm checks_postrouting.symm,Function.update_idem,
    List.length_map] at shown₃
  have ran : m.ruleset.applyAll (installTransaction nets identity
      ((((m.ruleset.rules? checksChain).getD []).map Stored.listed).filter (isOwnedBy (instanceHash identity)))) =
      .ok r₃ := by
    rw [List.map_map] at added
    exact (applyAll_append _ _ ((applyAll_append _ _ framed).trans deleted)).trans added
  obtain ⟨m',changed,usable,failing,rfl⟩ := run_working working _ ran
  refine ⟨m',?_,usable,failing,shown₃⟩
  refine (Step.bind_ok (Step.mapError_ok (ownRules_working working _))).trans ?_
  exact Step.mapError_ok changed

theorem install_failing (nets : List Subnet) (identity : Identity) (failing : m.failure = some message) :
    install Memory.ops nets identity m = .error (failure (.listRules identity.network) (.failed message)) m :=
  Step.bind_error (Step.mapError_error (ownRules_failing failing _))

theorem teardown_working (identity : Identity) (working : m.failure = none)
    (sound : Sound m.ruleset.rules? m.ruleset.lastHandle) :
    ∃ m', teardown Memory.ops identity m = .ok () m' ∧ m'.usable = m.usable ∧ m'.failure = m.failure ∧
      m'.ruleset.Shows m.ruleset.table (update m.ruleset.rules? checksChain
        ((m.ruleset.rules? checksChain).map (ofOthers (instanceHash identity)))) m.ruleset.lastHandle := by
  have own := ownRules_working working (instanceHash identity)
  cases held : m.ruleset.rules? checksChain with
  | none =>
    rw [held] at own
    refine ⟨m,(Step.bind_ok (Step.mapError_ok own)).trans rfl,rfl,rfl,?_⟩
    rw [Option.map_none,← held,Function.update_eq_self]
    exact shows_self m.ruleset
  | some rules =>
    rw [held,Option.getD_some] at own
    obtain ⟨r,deleted,shown⟩ := picked_shows (isOwnedBy (instanceHash identity)) (shows_self m.ruleset) held
      (sound.named held) (sound.distinct held)
    cases stale : (rules.map Stored.listed).filter (isOwnedBy (instanceHash identity)) with
    | nil =>
      rw [stale] at own deleted
      cases deleted
      exact ⟨m,(Step.bind_ok (Step.mapError_ok own)).trans rfl,rfl,rfl,shown⟩
    | cons first rest =>
      rw [stale] at own deleted
      obtain ⟨m',changed,usable,failing,rfl⟩ := run_working working _ deleted
      refine ⟨m',?_,usable,failing,shown⟩
      refine (Step.bind_ok (Step.mapError_ok own)).trans ?_
      exact Step.mapError_ok changed

theorem teardown_failing (identity : Identity) (failing : m.failure = some message) :
    teardown Memory.ops identity m = .error (failure (.listRules identity.network) (.failed message)) m :=
  Step.bind_error (Step.mapError_error (ownRules_failing failing _))

section Kept
open Step (Keeps)
variable {I : Memory → Prop}

theorem listRules_keeps (chain : String) : Keeps I (Memory.listRules chain) := by
  intro m held
  cases broken : m.failure with
  | some message => rw [Step.outcome,listRules_failing broken chain]; exact held
  | none =>
    rw [Step.outcome,listRules_working broken chain]
    cases m.ruleset.rules? chain <;> exact held

theorem ownRules_keeps (hash : String) : Keeps I (ownRules Memory.ops hash) := by
  refine Step.keeps_bind (Step.keeps_attempt (listRules_keeps checksChain)) fun answer => ?_
  cases answer with
  | ok rules => exact Step.keeps_pure _
  | error e => exact Step.keeps_if (Step.keeps_pure _) (Step.keeps_throw e)

-- All that masquerading changes is changed by transactions.
variable (kept : ∀ m t r, I m → m.ruleset.applyAll t = .ok r →
  I { m with ruleset := r,transactions := m.transactions + 1,lastScript := some t.script })
include kept

theorem run_keeps (t : Transaction) : Keeps I (Memory.run t) := by
  refine Step.keeps_update fun m m' held ran => ?_
  cases checked : m.check with
  | error e => simp [checked,bind,Except.bind] at ran
  | ok _ =>
    cases applied : m.ruleset.applyAll t with
    | error e => simp [checked,applied,bind,Except.bind] at ran
    | ok r =>
      simp only [checked,applied,bind,Except.bind,pure,Except.pure,Except.ok.injEq] at ran
      rw [← ran]
      exact kept m t r held applied

theorem masquerader_keeps : (Masquerader.nft Memory.ops).Keeps I where
  supported _ held := held
  install _ _ := Step.keeps_bind (Step.keeps_mapError _ (ownRules_keeps _)) fun _ =>
    Step.keeps_mapError _ (run_keeps kept _)
  teardown _ _ := Step.keeps_bind (Step.keeps_mapError _ (ownRules_keeps _)) fun _ =>
    Step.keeps_if (Step.keeps_pure _) (Step.keeps_mapError _ (run_keeps kept _))

end Kept

end HostNet.Masquerade.Nft
