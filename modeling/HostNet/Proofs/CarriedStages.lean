import HostNet.Proofs.BridgeStages
import HostNet.Proofs.KernelRequests
import HostNet.Proofs.ReachableHosts

namespace HostNet

open Step (Keeps)
open Stage (run)
open Kernel (Table Link)
open Config (Plan)
open Bridge (Ground)

namespace Host

def ground (h : Host) : Ground := ⟨h.kernel.quiet,h.files⟩

-- What a host has beside its ground, and which requests it refuses.
structure Beside (h u : Host) : Prop where
  refusals : u.kernel.refusals = h.kernel.refusals
  iptables : u.iptables = h.iptables
  nft : u.nft = h.nft

theorem Beside.refl (h : Host) : Beside h h := ⟨rfl,rfl,rfl⟩

-- A step that makes stages: all of them if it succeeds. If it fails, one of them is impossible, or a request was
-- refused after the first few.
structure CarriesOut (P : Ground → Prop) (stages : List (Stage Ground)) (x : Step Host ε α)
    (Q : α → Ground → Prop) : Prop where
  beside : ∀ h, Keeps (Beside h) x
  done : ∀ {h a u}, P h.ground → x h = .ok a u → run stages h.ground = some u.ground ∧ Q a u.ground
  broken : ∀ {h e u g}, P h.ground → x h = .error e u → run stages h.ground = some g →
    ¬h.kernel.Answers ∧ ∃ first, first <+: stages ∧ run first h.ground = some u.ground

namespace CarriesOut

variable {P P' : Ground → Prop} {Q Q' : α → Ground → Prop} {R : β → Ground → Prop} {x : Step Host ε α}
  {f : α → Step Host ε β} {one two : List (Stage Ground)}

theorem done_beside (carried : CarriesOut P one x Q) (ran : x h = .ok a u) : Beside h u := by
  have kept := carried.beside h h (Beside.refl h)
  rwa [Step.outcome_ok ran] at kept

theorem broken_beside (carried : CarriesOut P one x Q) (ran : x h = .error e u) : Beside h u := by
  have kept := carried.beside h h (Beside.refl h)
  rwa [Step.outcome_error ran] at kept

theorem succeeds (carried : CarriesOut P one x Q) (given : P h.ground) (answers : h.kernel.Answers)
    (through : run one h.ground = some g) : ∃ a u, x h = .ok a u ∧ u.ground = g ∧ Q a g ∧ Beside h u := by
  cases ran : x h with
  | error e u => exact absurd answers (carried.broken given ran through).1
  | ok a u =>
    obtain ⟨all,holds⟩ := carried.done given ran
    cases all.symm.trans through
    exact ⟨a,u,rfl,rfl,holds,carried.done_beside ran⟩

theorem pure (a : α) (holds : ∀ g, P g → Q a g) : CarriesOut P [] (pure a : Step Host ε α) Q where
  beside _ := Step.keeps_pure a
  done given ran := by cases ran; exact ⟨rfl,holds _ given⟩
  broken _ ran := by cases ran

theorem bind (first : CarriesOut P one x Q) (rest : ∀ a, CarriesOut (Q a) two (f a) R) :
    CarriesOut P (one ++ two) (x >>= f) R where
  beside h := Step.keeps_bind (first.beside h) fun a => (rest a).beside h
  done {h b u} given ran := by
    cases begun : x h with
    | error e t => rw [Step.bind_error begun] at ran; cases ran
    | ok a t =>
      rw [Step.bind_ok begun] at ran
      obtain ⟨half,between⟩ := first.done given begun
      obtain ⟨whole,after⟩ := (rest a).done between ran
      exact ⟨(Stage.run_through half).trans whole,after⟩
  broken {h e u g} given ran through := by
    obtain ⟨m,half,others⟩ := Stage.run_begun through
    cases begun : x h with
    | error e t =>
      cases (Step.bind_error begun).symm.trans ran
      obtain ⟨refused,part,within,reached⟩ := first.broken given begun half
      exact ⟨refused,part,within.trans (List.prefix_append one two),reached⟩
    | ok a t =>
      rw [Step.bind_ok begun] at ran
      obtain ⟨all,between⟩ := first.done given begun
      cases all.symm.trans half
      obtain ⟨refused,part,within,reached⟩ := (rest a).broken between ran others
      refine ⟨fun answers => refused ((first.done_beside begun).refusals.trans answers),one ++ part,
        (List.prefix_append_right_inj one).mpr within,(Stage.run_through all).trans reached⟩

theorem cons (first : CarriesOut P [stage] x Q) (rest : ∀ a, CarriesOut (Q a) two (f a) R) :
    CarriesOut P (stage :: two) (x >>= f) R := first.bind rest

theorem asked (first : CarriesOut P [] x Q) (rest : ∀ a, CarriesOut (Q a) two (f a) R) :
    CarriesOut P two (x >>= f) R := first.bind rest

theorem last (first : CarriesOut P one x Q) (rest : ∀ a, CarriesOut (Q a) [] (f a) R) :
    CarriesOut P one (x >>= f) R := by
  have whole := first.bind rest
  rwa [List.append_nil] at whole

theorem mapError (g : ε → ε') (inner : CarriesOut P one x Q) : CarriesOut P one (Step.mapError g x) Q where
  beside h := Step.keeps_mapError g (inner.beside h)
  done {h a u} given ran := by
    cases begun : x h with
    | ok b t => cases (Step.mapError_ok begun).symm.trans ran; exact inner.done given begun
    | error e t => cases (Step.mapError_error begun).symm.trans ran
  broken {h e u g} given ran := by
    cases begun : x h with
    | ok b t => cases (Step.mapError_ok begun).symm.trans ran
    | error e t => cases (Step.mapError_error begun).symm.trans ran; exact inner.broken given begun

theorem throw (e : ε) (impossible : ∀ g, P g → run one g = none) :
    CarriesOut P one (MonadExcept.throw e : Step Host ε α) Q where
  beside _ := Step.keeps_throw e
  done _ ran := by cases ran
  broken given _ through := nomatch (impossible _ given).symm.trans through

-- A stage at which there is nothing to do.
theorem pass (idle : ∀ g, P g → stage g = some g) (carried : CarriesOut P one x Q) :
    CarriesOut P (stage :: one) x Q := by
  have passing : ∀ {h : Host} (rest : List (Stage Ground)), P h.ground →
      run (stage :: rest) h.ground = run rest h.ground := by
    intro h rest given
    rw [Stage.run_cons,idle _ given,Option.bind_some]
  refine ⟨carried.beside,fun given ran => ?_,fun given ran through => ?_⟩
  · rw [passing one given]
    exact carried.done given ran
  · rw [passing one given] at through
    obtain ⟨refused,first,within,reached⟩ := carried.broken given ran through
    exact ⟨refused,stage :: first,List.cons_prefix_cons.mpr ⟨rfl,within⟩,(passing first given).trans reached⟩

theorem imp (carried : CarriesOut P one x Q) (before : ∀ g, P' g → P g) (after : ∀ a g, Q a g → Q' a g) :
    CarriesOut P' one x Q' where
  beside := carried.beside
  done given ran := (carried.done (before _ given) ran).imp id (after _ _)
  broken given := carried.broken (before _ given)

end CarriesOut

theorem onKernel_beside {x : Step Table ε α} (kept : ∀ r, Keeps (fun t => t.refusals = r) x) (h : Host) :
    Keeps (Beside h) (onKernel x) :=
  Step.keeps_within (kept h.kernel.refusals) (fun _ beside => beside.refusals) fun _ _ beside refusals =>
    ⟨refusals,beside.iptables,beside.nft⟩

theorem onFiles_beside (x : Step Files ε α) (h : Host) : Keeps (Beside h) (onFiles x) := by
  have any : Keeps (fun _ : Files => True) x := fun _ _ => trivial
  exact Step.keeps_within any (fun _ _ => trivial) fun _ _ beside _ => ⟨beside.refusals,beside.iptables,beside.nft⟩

theorem driver_beside (h : Host) : driver.Keeps (Beside h) :=
  (Table.driver_refusals h.kernel.refusals).within (fun _ beside => beside.refusals) fun _ _ beside refusals =>
    ⟨refusals,beside.iptables,beside.nft⟩

theorem onKernel_ok {x : Step Table ε α} (ran : onKernel x h = .ok a u) :
    ∃ t, x h.kernel = .ok a t ∧ u = { h with kernel := t } := Step.of_within ran

theorem onKernel_error {x : Step Table ε α} (ran : onKernel x h = .error e u) :
    ∃ t, x h.kernel = .error e t ∧ u = { h with kernel := t } := Step.of_within_error ran

theorem onFiles_ok {x : Step Files ε α} (ran : onFiles x h = .ok a u) :
    ∃ files, x h.files = .ok a files ∧ u = { h with files } := Step.of_within ran

theorem onFiles_error {x : Step Files ε α} (ran : onFiles x h = .error e u) :
    ∃ files, x h.files = .error e files ∧ u = { h with files } := Step.of_within_error ran

section Requests
variable {P : Ground → Prop} {Q : Ground → Prop} {root : String} {p : Plan}

-- A stage that troubles of the table do not change.
def Plain (stage : Stage Table) : Prop := ∀ t, stage t.quiet = (stage t).map Table.quiet

-- A step that makes a stage or leaves everything as it was, which without refusals means that it is impossible.
def Makes (stage : Stage Table) (x : Step Host ε Unit) (h : Host) : Prop :=
  (∃ t, x h = .ok () { h with kernel := t } ∧ stage h.kernel = some t) ∨
    ∃ e, x h = .error e h ∧ (h.kernel.Answers → stage h.kernel = none)

theorem stage_carries {stage : Stage Table} {x : Step Host ε Unit} (beside : ∀ h, Keeps (Beside h) x)
    (plain : Plain stage) (makes : ∀ h, P h.ground → Makes stage x h)
    (after : ∀ g t, P g → stage g.kernel = some t → Q { g with kernel := t }) :
    CarriesOut P [Bridge.onKernel stage] x fun _ => Q := by
  have quietly : ∀ h : Host, stage h.ground.kernel = (stage h.kernel).map Table.quiet := fun h => plain h.kernel
  refine ⟨beside,fun {h _ u} given ran => ?_,fun {h _ u g} given ran through => ?_⟩
  · rcases makes h given with ⟨t,done,made⟩ | ⟨e,failed,_⟩
    · cases done.symm.trans ran
      have known := quietly h
      rw [made,Option.map_some] at known
      exact ⟨Stage.run_single.trans (Stage.within_some.mpr ⟨t.quiet,known,rfl⟩),after h.ground t.quiet given known⟩
    · cases failed.symm.trans ran
  · rcases makes h given with ⟨t,done,_⟩ | ⟨e,failed,impossible⟩
    · cases done.symm.trans ran
    · cases failed.symm.trans ran
      refine ⟨fun answers => ?_,[],List.nil_prefix,rfl⟩
      obtain ⟨t,made,_⟩ := Stage.within_some.mp (Stage.run_single.symm.trans through)
      rw [quietly h,impossible answers] at made
      cases made

theorem change_makes {f : Table → Except Kernel.Error Table} {stage : Stage Table} {h : Host}
    (same : (f h.kernel).toOption = stage h.kernel) : Makes stage (onKernel (Table.change kind f)) h := by
  cases ran : Table.change kind f h.kernel with
  | ok _ t =>
    rw [Table.change_ok ran] at same
    exact Or.inl ⟨t,Step.within_ok ran,same.symm⟩
  | error e t =>
    obtain ⟨rfl,refused⟩ := Table.change_error ran
    refine Or.inr ⟨e,Step.within_error ran,fun answers => ?_⟩
    rw [refused answers] at same
    exact same.symm

theorem Makes.mapError {x : Step Host ε Unit} (g : ε → ε') (makes : Makes stage x h) :
    Makes stage (Step.mapError g x) h := by
  rcases makes with ⟨t,ran,made⟩ | ⟨e,ran,none⟩
  · exact Or.inl ⟨t,Step.mapError_ok ran,made⟩
  · exact Or.inr ⟨g e,Step.mapError_error ran,none⟩

-- A request that only tells something, and what it tells.
theorem telling_carries {x : Step Table ε α} {T : α → Table → Prop} (kept : ∀ r, Keeps (fun t => t.refusals = r) x)
    (quiet : ∀ q, Keeps (fun t => t.quiet = q) x) (told : ∀ {t a u}, x t = .ok a u → T a t.quiet)
    (answered : ∀ {h : Host} {e t}, P h.ground → h.kernel.Answers → x h.kernel ≠ .error e t) :
    CarriesOut P [] (onKernel x) fun a g => P g ∧ T a g.kernel := by
  have still : ∀ h : Host, (x.outcome h.kernel).2.quiet = h.kernel.quiet := fun h => quiet h.kernel.quiet h.kernel rfl
  refine ⟨onKernel_beside kept,fun {h a u} given ran => ?_,fun {h e u g} given ran _ => ?_⟩
  · obtain ⟨t,asked,rfl⟩ := onKernel_ok ran
    have same := still h
    rw [Step.outcome_ok asked] at same
    rw [show ground { h with kernel := t } = h.ground by rw [ground,ground,same]]
    exact ⟨rfl,given,told asked⟩
  · obtain ⟨t,failed,rfl⟩ := onKernel_error ran
    have same := still h
    rw [Step.outcome_error failed] at same
    refine ⟨fun answers => answered given answers failed,[],List.nil_prefix,?_⟩
    rw [show ground { h with kernel := t } = h.ground by rw [ground,ground,same]]
    rfl

theorem find_carries (name : String) : CarriesOut (fun g => P g ∧ (g.kernel.named? name).isSome) []
    (driver.find name) (fun link g => P g ∧ g.kernel.named? name = some link) := by
  have parted : driver.find name = onKernel (Table.driver.find name) := (Kernel.within_find kernel_part _ name).symm
  rw [parted]
  refine (telling_carries (fun r => (Table.driver_refusals r).find name) (Table.find_quiet name)
    (T := fun link t => t.named? name = some link) Table.find_told ?_).imp (fun _ => id) fun link g told =>
      ⟨told.1.1,told.2⟩
  intro h e t given answers failed
  obtain ⟨link,there⟩ := Option.isSome_iff_exists.mp given.2
  obtain ⟨_,found,_⟩ := Table.find_ok (answers.check _) there
  cases found.symm.trans failed

theorem addressesOf_carries (index : Nat) : CarriesOut P [] (driver.addressesOf index)
    fun addresses g => P g ∧ addresses = g.kernel.addresses.filter (·.index == index) := by
  have parted : driver.addressesOf index = onKernel (Table.driver.addressesOf index) :=
    (Kernel.within_retryFrom kernel_part _ none Kernel.maxAttempts).symm
  rw [parted]
  refine telling_carries (fun r => (Table.driver_refusals r).addressesOf index) (Table.addressesOf_quiet index)
    (T := fun addresses t => addresses = t.addresses.filter (·.index == index)) Table.addressesOf_told ?_
  intro h e t _ answers failed
  obtain ⟨_,listed⟩ := Table.addressesOf_answers answers index
  cases listed.symm.trans failed

theorem serving (root : String) : (services root).kernel = driver := by rw [services]

theorem enabling (root : String) (family : Family) :
    (services root).enableForwarding family = onFiles (Sysctl.enableForwarding root family) := by rw [services]

theorem setting (root name value : String) :
    (services root).setParameter name value = onFiles (Sysctl.set root name value) := by rw [services]

theorem forwarding_carries (root : String) (family : Family) :
    CarriesOut (fun _ => True) [Bridge.onFiles (Sysctl.forwarded root family)]
      ((services root).enableForwarding family) fun _ _ => True := by
  rw [enabling]
  constructor
  · exact onFiles_beside _
  · intro h _ u _ ran
    obtain ⟨files,enabled,rfl⟩ := onFiles_ok ran
    have made : Sysctl.forwarded root family h.files = some files := Sysctl.forwarded_some.mpr enabled
    exact ⟨Stage.run_single.trans (Stage.within_some.mpr ⟨files,made,rfl⟩),trivial⟩
  · intro h _ u g _ ran through
    obtain ⟨files,failed,rfl⟩ := onFiles_error ran
    obtain ⟨_,made,_⟩ := Stage.within_some.mp (Stage.run_single.symm.trans through)
    have enabled := Sysctl.forwarded_some.mp made
    rw [show h.ground.files = h.files from rfl,failed] at enabled
    cases enabled

-- The file for routers need not be there.
theorem closed_carries (root name : String) (blind : ∀ g files, P g → P { g with files }) :
    CarriesOut P [Bridge.onFiles (Sysctl.closed root name)]
      (Step.attempt ((services root).setParameter (Bridge.acceptRouters name) "0") : Step Host Error _) fun _ => P := by
  rw [setting]
  constructor
  · exact fun h => Step.keeps_attempt (onFiles_beside _ h)
  · intro h answer u given ran
    have left : ∃ files, Sysctl.closed root name h.files = some files ∧ u = { h with files } := by
      cases tried : onFiles (Sysctl.set root (Bridge.acceptRouters name) "0") h with
      | ok _ t =>
        rw [Step.attempt_ok tried] at ran
        cases ran
        obtain ⟨files,wrote,rfl⟩ := onFiles_ok tried
        exact ⟨files,by rw [Sysctl.closed,Step.outcome_ok wrote],rfl⟩
      | error e t =>
        rw [Step.attempt_error tried] at ran
        cases ran
        obtain ⟨files,failed,rfl⟩ := onFiles_error tried
        exact ⟨files,by rw [Sysctl.closed,Step.outcome_error failed],rfl⟩
    obtain ⟨files,made,rfl⟩ := left
    exact ⟨Stage.run_single.trans (Stage.within_some.mpr ⟨files,made,rfl⟩),blind h.ground files given⟩
  · intro h e u g _ ran
    cases tried : onFiles (Sysctl.set root (Bridge.acceptRouters name) "0") h with
    | ok _ t => rw [Step.attempt_ok tried] at ran; cases ran
    | error e t => rw [Step.attempt_error tried] at ran; cases ran

end Requests

end Host
end HostNet
