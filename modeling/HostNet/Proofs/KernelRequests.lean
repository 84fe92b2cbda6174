import HostNet.Proofs.KernelAnswers
import HostNet.Proofs.StepKeeps

namespace HostNet

open Step (Keeps)

namespace Kernel.Table

-- A table without its troubles: interruptions, refusals and the number of listings.
def quiet (t : Table) : Table := { t with interruptions := 0,listings := 0,refusals := [] }

variable {t u : Table} {kind : RequestKind} {read : Table → Except Error α} {f : Table → Except Error Table}

theorem quiet_parts (same : t.quiet = u.quiet) : t.links = u.links ∧ t.addresses = u.addresses ∧
    t.routes = u.routes ∧ t.portVlans = u.portVlans ∧ t.lastIndex = u.lastIndex := by
  simp only [quiet,mk.injEq,and_true] at same
  exact same

theorem change_ok (ran : change kind f t = .ok () u) : f t = .ok u := by
  unfold change Step.update at ran
  cases checked : t.check kind with
  | error e => simp [checked,bind,Except.bind] at ran
  | ok _ =>
    cases made : f t with
    | error e => simp [checked,made,bind,Except.bind] at ran
    | ok v =>
      simp only [checked,made,bind,Except.bind,EStateM.Result.ok.injEq,true_and] at ran
      rw [ran]

theorem change_error (ran : change kind f t = .error e u) : u = t ∧ (t.Answers → f t = .error e) := by
  unfold change Step.update at ran
  cases checked : t.check kind with
  | error e' =>
    simp only [checked,bind,Except.bind,EStateM.Result.error.injEq] at ran
    refine ⟨ran.2.symm,fun answers => ?_⟩
    rw [answers.check kind] at checked
    cases checked
  | ok _ =>
    cases made : f t with
    | error e' =>
      simp only [checked,made,bind,Except.bind,EStateM.Result.error.injEq] at ran
      exact ⟨ran.2.symm,fun _ => by rw [ran.1]⟩
    | ok v => simp [checked,made,bind,Except.bind] at ran

-- A listing changes nothing but how often was listed, and how many listings will look interrupted.
theorem list_keeps {I : Table → Prop}
    (apart : ∀ t listings interruptions, I t → I { t with listings := listings,interruptions := interruptions })
    (kind : RequestKind) (read : Table → Except Error α) : Keeps I (list kind read) := by
  intro t held
  unfold Step.outcome list
  cases t.check kind with
  | error e => exact held
  | ok _ => cases read t <;> exact apart t _ _ held

theorem list_quiet (kind : RequestKind) (read : Table → Except Error α) (q : Table) :
    Keeps (fun t => t.quiet = q) (list kind read) :=
  list_keeps (fun _ _ _ held => held) kind read

theorem list_told (ran : list kind read t = .ok answer u) : read t = .ok answer.value := by
  unfold list at ran
  cases checked : t.check kind with
  | error e => simp [checked] at ran
  | ok _ =>
    cases known : read t with
    | error e => simp [checked,known] at ran
    | ok value =>
      simp only [checked,known,EStateM.Result.ok.injEq] at ran
      rw [← ran.1]

-- What is told in the end is what could have been told at once.
theorem retryFrom_told (plain : ∀ t u, t.quiet = u.quiet → read t = read u) (last : Option α) (attempts : Nat)
    (latest : ∀ value, last = some value → read t = .ok value)
    (ran : retryFrom (list kind read) last attempts t = .ok value u) : read t = .ok value := by
  induction attempts generalizing t last with
  | zero =>
    cases last with
    | none => cases ran
    | some value => cases ran; exact latest _ rfl
  | succ attempts ih =>
    have still := list_quiet kind read t.quiet t rfl
    cases asked : list kind read t with
    | ok answer between =>
      rw [Step.outcome_ok asked] at still
      rw [retryFrom,Step.bind_ok (Step.attempt_ok asked)] at ran
      have told := list_told asked
      cases interrupted : answer.interrupted with
      | false =>
        simp only [interrupted,Bool.false_eq_true,if_false] at ran
        cases ran
        exact told
      | true =>
        simp only [interrupted,if_true] at ran
        have later := ih (t := between) (some answer.value) (fun _ same => by
          cases same
          exact (plain between t still).trans told) ran
        exact (plain t between still.symm).trans later
    | error e between =>
      rw [Step.outcome_error asked] at still
      rw [retryFrom,Step.bind_ok (Step.attempt_error asked)] at ran
      cases e with
      | interrupted =>
        have later := ih (t := between) last (fun value same => (plain between t still).trans (latest value same)) ran
        exact (plain t between still.symm).trans later
      | refused reason => cases ran
      | socket reason => cases ran
      | other message => cases ran

theorem retry_told (plain : ∀ t u, t.quiet = u.quiet → read t = read u)
    (ran : retry (list kind read) t = .ok value u) : read t = .ok value :=
  retryFrom_told plain none maxAttempts (fun _ none => nomatch none) ran

theorem find_quiet (name : String) (q : Table) : Keeps (fun t => t.quiet = q) (driver.find name) :=
  Step.keeps_mapError _ (keeps_retryFrom (list_quiet .linkByName (linkNamed name) q) none maxAttempts)

theorem find_told (ran : driver.find name t = .ok link u) : t.named? name = some link := by
  cases asked : retry (list .linkByName (linkNamed name)) t with
  | error e between => exact nomatch (Step.mapError_error asked).symm.trans ran
  | ok found between =>
    cases (Step.mapError_ok asked).symm.trans ran
    have plain : ∀ t u : Table, t.quiet = u.quiet → linkNamed name t = linkNamed name u := by
      intro t u same
      rw [linkNamed,linkNamed,named?,named?,(quiet_parts same).1]
    have told := retry_told plain asked
    unfold linkNamed at told
    cases there : t.named? name with
    | none => rw [there] at told; cases told
    | some link => rw [there] at told; cases told; rfl

theorem addressesOf_quiet (index : Nat) (q : Table) : Keeps (fun t => t.quiet = q) (driver.addressesOf index) :=
  keeps_retryFrom (list_quiet .addresses (addressesAt index) q) none maxAttempts

theorem addressesOf_told (ran : driver.addressesOf index t = .ok listed u) :
    listed = t.addresses.filter (·.index == index) := by
  have plain : ∀ t u : Table, t.quiet = u.quiet → addressesAt index t = addressesAt index u := by
    intro t u same
    rw [addressesAt,addressesAt,(quiet_parts same).2.1]
  have asked : retry (list .addresses (addressesAt index)) t = .ok listed u := ran
  cases retry_told plain asked
  rfl

theorem addressesOf_answers (answers : t.Answers) (index : Nat) :
    ∃ u, driver.addressesOf index t = .ok (t.addresses.filter (·.index == index)) u := by
  obtain ⟨u,asked,_⟩ := addressesOf_ok (answers.check _) index
  exact ⟨u,asked⟩

end Kernel.Table

end HostNet
