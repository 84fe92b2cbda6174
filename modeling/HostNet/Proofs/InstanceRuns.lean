import HostNet.Masquerade.Manager
import HostNet.Proofs.InstanceComments
import HostNet.Proofs.MasqueradeRules

namespace HostNet.Masquerade.Nft
open Firewall.Nft Firewall.Nft.Ruleset

inductive Call where
  | install (nets : List Subnet)
  | teardown (nets : List Subnet)
deriving DecidableEq

def Call.perform (identity : Identity) : Call → Step Memory Error Unit
  | .install nets => (Masquerader.nft Memory.ops).install nets identity
  | .teardown nets => (Masquerader.nft Memory.ops).teardown nets identity

-- What a call asks for: the rules that its identity is to own.
def Call.rules (identity : Identity) : Call → List (Rule × Option String)
  | .install nets => nets.map fun net => (ruleFor net,some (instanceComment identity))
  | .teardown _ => []

-- A call on behalf of an identity, and the message of the tool if it fails meanwhile.
structure Attempt where
  identity : Identity
  call : Call
  failure : Option String
deriving DecidableEq

def Attempt.outcome (a : Attempt) (m : Memory) : Except Error Unit × Memory :=
  (a.call.perform a.identity).outcome { m with failure := a.failure }

def after (m : Memory) (attempts : List Attempt) : Memory := attempts.foldl (fun m a => (a.outcome m).2) m

def checks (m : Memory) : List Stored := (m.ruleset.rules? checksChain).getD []

def owned (identity : Identity) (m : Memory) : List Stored :=
  (checks m).filter fun s => isOwnedBy (instanceHash identity) s.listed

-- Rules without their handles.
def bare (rules : List Stored) : List (Rule × Option String) := rules.map fun s => (s.rule,s.listed.comment)

-- What an attempt does: to the rules of its identity what it asks for, if the tool works, and nothing to others.
structure Isolated (m : Memory) (a : Attempt) : Prop where
  succeeds : a.failure = none → (a.outcome m).1 = .ok ()
  own : (a.outcome m).1 = .ok () → bare (owned a.identity (a.outcome m).2) = a.call.rules a.identity
  others : ofOthers (instanceHash a.identity) (checks (a.outcome m).2) = ofOthers (instanceHash a.identity) (checks m)
  elsewhere : ∀ chain, chain ≠ checksChain → (chain = postroutingChain → ∃ nets, a.call = .teardown nets) →
    (a.outcome m).2.ruleset.rules? chain = m.ruleset.rules? chain
  fails : (a.outcome m).1 ≠ .ok () → (a.outcome m).2 = { m with failure := a.failure }
  postrouting : (a.outcome m).1 = .ok () → (∃ nets, a.call = .install nets) →
    ((a.outcome m).2.ruleset.rules? postroutingChain).map bare = some (sharedRules.map fun rule => (rule,none))

theorem bare_numbered (chain : String) (comment : Option String) (last : Nat) (rules : List Rule) :
    bare (numbered chain comment last rules) = rules.map fun rule => (rule,comment) := by
  induction rules generalizing last with
  | nil => rfl
  | cons rule rest ih => simp only [numbered,bare,List.map_cons] at ih ⊢; rw [ih]

theorem numbered_owned (identity : Identity) (chain : String) (last : Nat) (rules : List Rule) :
    ∀ s ∈ numbered chain (some (instanceComment identity)) last rules,
      isOwnedBy (instanceHash identity) s.listed = true := by
  induction rules generalizing last with
  | nil => intro s member; cases member
  | cons rule rest ih =>
    intro s member
    rcases List.mem_cons.mp member with rfl | member
    · exact (owned_comment rfl).mpr rfl
    · exact ih (last + 1) s member

theorem ofOthers_owned (hash : String) (rules : List Stored) :
    (ofOthers hash rules).filter (fun s => isOwnedBy hash s.listed) = [] := by
  rw [ofOthers,List.filter_filter,List.filter_eq_nil_iff]
  intro s _ both
  simp at both

theorem ofOthers_again (hash : String) (rules : List Stored) :
    ofOthers hash (ofOthers hash rules) = ofOthers hash rules := by
  simp [ofOthers,List.filter_filter]

variable {m n : Memory} {a b : Attempt} {identity : Identity}

-- What one call leaves in the chain that all instances share.
theorem install_checks (nets : List Subnet) (identity : Identity) (last : Nat) (rules : List Stored) :
    let new := numbered checksChain (some (instanceComment identity)) last (nets.map ruleFor)
    ofOthers (instanceHash identity) (ofOthers (instanceHash identity) rules ++ new) =
        ofOthers (instanceHash identity) rules ∧
      (ofOthers (instanceHash identity) rules ++ new).filter (fun s => isOwnedBy (instanceHash identity) s.listed) =
        new := by
  intro new
  have own := numbered_owned identity checksChain last (nets.map ruleFor)
  constructor
  · have none : ofOthers (instanceHash identity) new = [] := by
      rw [ofOthers,List.filter_eq_nil_iff]
      intro s member
      simp [own s member]
    have split : ∀ xs ys, ofOthers (instanceHash identity) (xs ++ ys) =
        ofOthers (instanceHash identity) xs ++ ofOthers (instanceHash identity) ys := List.filter_append
    rw [split,none,ofOthers_again,List.append_nil]
  · rw [List.filter_append,ofOthers_owned,List.filter_eq_self.mpr own,List.nil_append]

theorem outcome_install (nets : List Subnet) (failure : Option String) :
    (⟨identity,.install nets,failure⟩ : Attempt).outcome m =
      (install Memory.ops nets identity).outcome { m with failure } := rfl

theorem outcome_teardown (nets : List Subnet) (failure : Option String) :
    (⟨identity,.teardown nets,failure⟩ : Attempt).outcome m =
      (teardown Memory.ops identity).outcome { m with failure } := rfl

theorem outcome_failing (broken : a.failure = some message) :
    ∃ e, a.outcome m = (.error e,{ m with failure := a.failure }) := by
  obtain ⟨identity,call,failure⟩ := a
  cases broken
  have failing : ({ m with failure := some message } : Memory).failure = some message := rfl
  cases call with
  | install nets => exact ⟨_,(outcome_install nets _).trans (Step.outcome_error (install_failing nets identity failing))⟩
  | teardown nets => exact ⟨_,(outcome_teardown nets _).trans (Step.outcome_error (teardown_failing identity failing))⟩

def SoundRules (m : Memory) : Prop := Sound m.ruleset.rules? m.ruleset.lastHandle

theorem masquerader_sound : (Masquerader.nft Memory.ops).Keeps SoundRules :=
  masquerader_keeps fun _ t _ sound applied => applyAll_sound t sound applied

theorem outcome_sound (a : Attempt) (sound : SoundRules m) : SoundRules (a.outcome m).2 := by
  obtain ⟨identity,call,failure⟩ := a
  cases call with
  | install nets => exact masquerader_sound.install nets identity { m with failure } sound
  | teardown nets => exact masquerader_sound.teardown nets identity { m with failure } sound

theorem failing_isolated (broken : a.failure = some message) : Isolated m a := by
  obtain ⟨e,ran⟩ := @outcome_failing m a message broken
  constructor
  · intro working
    cases broken.symm.trans working
  · rw [ran]; nofun
  · rw [ran]; rfl
  · rw [ran]; exact fun _ _ _ => rfl
  · rw [ran]; exact fun _ => rfl
  · rw [ran]; nofun

theorem install_isolated (nets : List Subnet) (sound : SoundRules m) :
    Isolated m ⟨identity,.install nets,none⟩ := by
  obtain ⟨m',ran,_,_,shown⟩ := @install_working { m with failure := none } nets identity rfl sound
  have outcome := (outcome_install nets none).trans (Step.outcome_ok ran)
  have shared : m'.ruleset.rules? postroutingChain = some (Nft.shared m.ruleset.lastHandle) := by
    rw [shown.rules,Function.update_self]
  have held : checks m' = ofOthers (instanceHash identity) (checks m) ++
      numbered checksChain (some (instanceComment identity)) (m.ruleset.lastHandle + 3) (nets.map ruleFor) := by
    rw [checks,shown.rules,Function.update_of_ne checks_postrouting,Function.update_self]
    rfl
  obtain ⟨others,own⟩ := install_checks nets identity (m.ruleset.lastHandle + 3) (checks m)
  rw [← held] at others own
  constructor <;> rw [outcome]
  · exact fun _ => rfl
  · intro _
    rw [owned,own,bare_numbered,List.map_map]
    rfl
  · exact others
  · intro chain other inner
    have apart : chain ≠ postroutingChain := by
      rintro rfl
      obtain ⟨_,torn⟩ := inner rfl
      cases torn
    rw [shown.rules,Function.update_of_ne apart,Function.update_of_ne other]
  · exact fun failed => absurd rfl failed
  · intro _ _
    rw [shared,Option.map_some,Nft.shared,bare_numbered]

theorem teardown_isolated (nets : List Subnet) (sound : SoundRules m) :
    Isolated m ⟨identity,.teardown nets,none⟩ := by
  obtain ⟨m',ran,_,_,shown⟩ := @teardown_working { m with failure := none } identity rfl sound
  have outcome := (outcome_teardown nets none).trans (Step.outcome_ok ran)
  have held : checks m' = ofOthers (instanceHash identity) (checks m) := by
    rw [checks,shown.rules,Function.update_self,checks]
    cases m.ruleset.rules? checksChain <;> rfl
  constructor <;> rw [outcome]
  · exact fun _ => rfl
  · intro _
    rw [owned,held,ofOthers_owned]
    rfl
  · rw [held,ofOthers_again]
  · intro chain other _
    rw [shown.rules,Function.update_of_ne other]
  · exact fun failed => absurd rfl failed
  · rintro _ ⟨_,put⟩
    cases put

-- One call keeps to itself, whatever the rules are and whoever made them.
theorem attempt_isolated (a : Attempt) (sound : SoundRules m) : Isolated m a := by
  cases failure : a.failure with
  | some message => exact failing_isolated failure
  | none =>
    obtain ⟨identity,call,_⟩ := a
    cases failure
    cases call with
    | install nets => exact install_isolated nets sound
    | teardown nets => exact teardown_isolated nets sound

theorem install_outcome (ran : install Memory.ops nets identity m = .ok () m') :
    (⟨identity,.install nets,m.failure⟩ : Attempt).outcome m = (.ok (),m') := Step.outcome_ok ran

theorem install_sound (sound : SoundRules m) (ran : install Memory.ops nets identity m = .ok () m') :
    SoundRules m' := by
  have kept := outcome_sound ⟨identity,.install nets,m.failure⟩ sound
  rwa [install_outcome ran] at kept

-- A successful install leaves its identity what it asks for, whatever there was, and others what they had.
theorem install_replaces (sound : SoundRules m) (ran : install Memory.ops nets identity m = .ok () m') :
    bare (owned identity m') = (Call.install nets).rules identity := by
  have own := (attempt_isolated ⟨identity,.install nets,m.failure⟩ sound).own (by rw [install_outcome ran])
  rwa [install_outcome ran] at own

theorem install_others (sound : SoundRules m) (ran : install Memory.ops nets identity m = .ok () m') :
    ofOthers (instanceHash identity) (checks m') = ofOthers (instanceHash identity) (checks m) := by
  have others := (attempt_isolated ⟨identity,.install nets,m.failure⟩ sound).others
  rwa [install_outcome ran] at others

theorem after_sound (attempts : List Attempt) (sound : SoundRules m) : SoundRules (after m attempts) := by
  induction attempts generalizing m with
  | nil => exact sound
  | cons a rest ih => exact ih (outcome_sound a sound)

theorem owned_others (apart : instanceHash identity ≠ instanceHash a.identity) (m : Memory) :
    owned identity m = (ofOthers (instanceHash a.identity) (checks m)).filter fun s =>
      isOwnedBy (instanceHash identity) s.listed := by
  rw [owned,ofOthers,List.filter_filter]
  apply List.filter_congr
  intro s _
  cases own : isOwnedBy (instanceHash identity) s.listed with
  | false => rfl
  | true =>
    have other : isOwnedBy (instanceHash a.identity) s.listed = false :=
      Bool.eq_false_iff.mpr fun theirs => apart (one_owner own theirs)
    rw [other]
    rfl

-- Calls for others change nothing that an identity owns.
theorem outcome_apart (apart : instanceHash identity ≠ instanceHash a.identity) (sound : SoundRules m) :
    owned identity (a.outcome m).2 = owned identity m := by
  rw [owned_others apart,owned_others apart,(attempt_isolated a sound).others]

-- What an identity owns after a call of its own depends on nothing but what it owned before.
theorem outcome_own (sound : SoundRules m) (sound' : SoundRules n)
    (same : bare (owned a.identity m) = bare (owned a.identity n)) :
    bare (owned a.identity (a.outcome m).2) = bare (owned a.identity (a.outcome n).2) := by
  have first := attempt_isolated a sound
  have second := attempt_isolated a sound'
  cases failure : a.failure with
  | none => rw [first.own (first.succeeds failure),second.own (second.succeeds failure)]
  | some message =>
    obtain ⟨_,ran⟩ := @outcome_failing m a message failure
    obtain ⟨_,ran'⟩ := @outcome_failing n a message failure
    rw [ran,ran']
    exact same

theorem after_alone (attempts : List Attempt)
    (apart : ∀ a ∈ attempts, instanceHash a.identity = instanceHash identity → a.identity = identity)
    (sound : SoundRules m) (sound' : SoundRules n) (same : bare (owned identity m) = bare (owned identity n)) :
    bare (owned identity (after m attempts)) =
      bare (owned identity (after n (attempts.filter fun a => a.identity = identity))) := by
  induction attempts generalizing m n with
  | nil => exact same
  | cons a rest ih =>
    have further : ∀ b ∈ rest, instanceHash b.identity = instanceHash identity → b.identity = identity :=
      fun b member => apart b (List.mem_cons_of_mem _ member)
    by_cases own : a.identity = identity
    · subst own
      rw [List.filter_cons_of_pos (by simp)]
      exact ih further (outcome_sound a sound) (outcome_sound a sound') (outcome_own sound sound' same)
    · have other : instanceHash identity ≠ instanceHash a.identity :=
        fun eq => own (apart a (by simp) eq.symm)
      rw [List.filter_cons_of_neg (by simpa using own)]
      refine ih further (outcome_sound a sound) sound' ?_
      rw [outcome_apart other sound]
      exact same

-- Instances with different hashes share a chain and do not disturb each other: every call of a run keeps to the rules of
-- its identity, and in the end each identity owns what its own calls alone would have left it.
theorem instances_undisturbed (reached : m.ruleset.Reached) (attempts : List Attempt)
    (apart : ∀ a ∈ attempts, ∀ b ∈ attempts, instanceHash a.identity = instanceHash b.identity →
      a.identity = b.identity) :
    (∀ before a rest, attempts = before ++ a :: rest → Isolated (after m before) a) ∧
    ∀ a ∈ attempts, bare (owned a.identity (after m attempts)) =
      bare (owned a.identity (after m (attempts.filter fun b => b.identity = a.identity))) := by
  have sound : SoundRules m := reached.sound
  constructor
  · intro before a rest _
    exact attempt_isolated a (after_sound before sound)
  · intro a member
    exact after_alone attempts (fun b among same => apart b among a member same) sound sound rfl

-- A network and two of its interfaces.
def household : List Identity := [.ofNetwork "pods",⟨"pods","eth0","a"⟩,⟨"pods","eth1","a"⟩]

def neighbours : List Attempt :=
  let net : Subnet := .ofAddress (.ofNat .v4 0x0A160001) 24
  [⟨⟨"pods","eth0","a"⟩,.install [net,net],none⟩,⟨⟨"pods","eth1","a"⟩,.install [net],some "busy"⟩,
    ⟨.ofNetwork "pods",.install [net],none⟩,⟨⟨"pods","eth0","a"⟩,.teardown [],some "busy"⟩,
    ⟨⟨"pods","eth1","a"⟩,.install [net],none⟩,⟨.ofNetwork "pods",.teardown [net],none⟩]

theorem neighbours_undisturbed : Memory.initial.ruleset.Reached ∧
    (∀ a ∈ neighbours, ∀ b ∈ neighbours, instanceHash a.identity = instanceHash b.identity → a.identity = b.identity) ∧
    (∀ before a rest, neighbours = before ++ a :: rest → Isolated (after Memory.initial before) a) ∧
    ∀ a ∈ neighbours, bare (owned a.identity (after Memory.initial neighbours)) =
      bare (owned a.identity (after Memory.initial (neighbours.filter fun b => b.identity = a.identity))) := by
  have reached : Memory.initial.ruleset.Reached := .empty
  have distinct : (household.map instanceHash).Nodup := by decide +kernel
  have known : ∀ a ∈ neighbours, a.identity ∈ household := by decide
  have apart : ∀ a ∈ neighbours, ∀ b ∈ neighbours, instanceHash a.identity = instanceHash b.identity →
      a.identity = b.identity := fun a first b second => List.inj_on_of_nodup_map distinct (known a first) (known b second)
  exact ⟨reached,apart,instances_undisturbed reached neighbours apart⟩

end HostNet.Masquerade.Nft
