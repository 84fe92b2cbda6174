import HostNet.Kernel.Driver

namespace HostNet.Kernel

-- The state after a question was asked a number of times.
def turns (ask : Step σ Error (Listing α)) (s : σ) : Nat → σ
  | 0 => s
  | n + 1 => turns ask (ask.outcome s).2 n

-- The responses that a question would get, one after the other, for as long as it is asked.
def responses (ask : Step σ Error (Listing α)) (s : σ) (n : Nat) : Except Error (Listing α) :=
  (ask.outcome (turns ask s n)).1

-- A question that gets the responses of a stream. Its state counts how often it was asked.
def stream (given : Nat → Except Error (Listing α)) : Step Nat Error (Listing α) := fun n =>
  match given n with
  | .ok listing => .ok listing (n + 1)
  | .error e => .error e (n + 1)

-- The result that a response brings about. A partial listing and an interruption bring about none.
def settled? : Except Error (Listing α) → Option (Except Error α)
  | .ok ⟨value,false⟩ => some (.ok value)
  | .ok ⟨_,true⟩ => none
  | .error .interrupted => none
  | .error e => some (.error e)

-- The result of asking at most so many times, and how often that was.
inductive Verdict (given : Nat → Except Error (Listing α)) (attempts : Nat) : Except Error α → Nat → Prop where
  -- The first response that settles something decides, and is the last one asked for.
  | settled (within : k < attempts) (earlier : ∀ i < k, settled? (given i) = none)
      (decides : settled? (given k) = some result) : Verdict given attempts result (k + 1)
  -- If there is none, the last partial listing counts.
  | partly (unsettled : ∀ i < attempts, settled? (given i) = none) (within : k < attempts)
      (last : given k = .ok ⟨value,true⟩) (later : ∀ i, k < i → i < attempts → given i = .error .interrupted) :
      Verdict given attempts (.ok value) attempts
  | interrupted (always : ∀ i < attempts, given i = .error .interrupted) :
      Verdict given attempts (.error .interrupted) attempts

variable {ask : Step σ Error (Listing α)} {s : σ} {given : Nat → Except Error (Listing α)} {attempts calls : Nat}
  {result : Except Error α} {value : α}

theorem settled_error {response : Except Error (Listing α)} (told : settled? response = some (.error e)) :
    e ≠ .interrupted := by
  rintro rfl
  rcases response with (_ | _ | _ | _) | ⟨_,_ | _⟩ <;> cases told

theorem unsettled_cases {response : Except Error (Listing α)} (unsettled : settled? response = none) :
    response = .error .interrupted ∨ ∃ value, response = .ok ⟨value,true⟩ := by
  rcases response with (_ | _ | _ | _) | ⟨value,_ | _⟩
  · exact .inl rfl
  · cases unsettled
  · cases unsettled
  · cases unsettled
  · cases unsettled
  · exact .inr ⟨value,rfl⟩

-- Two positions with nothing settled before them where something is settled are the same.
theorem first_unique {k j : Nat} {one two : Except Error α} (before : ∀ i < k, settled? (given i) = none)
    (first : settled? (given k) = some one) (before' : ∀ i < j, settled? (given i) = none)
    (first' : settled? (given j) = some two) : k = j := by
  rcases Nat.lt_trichotomy k j with less | same | more
  · rw [before' k less] at first
    cases first
  · exact same
  · rw [before j more] at first'
    cases first'

-- Of two partial listings that only interruptions follow, neither is the later one.
theorem last_unique {k j : Nat} {one two : α} (within : k < attempts) (last : given k = .ok ⟨one,true⟩)
    (later : ∀ i, k < i → i < attempts → given i = .error .interrupted) (within' : j < attempts)
    (last' : given j = .ok ⟨two,true⟩) (later' : ∀ i, j < i → i < attempts → given i = .error .interrupted) :
    k = j := by
  rcases Nat.lt_trichotomy k j with less | same | more
  · rw [later j less within'] at last'
    cases last'
  · exact same
  · rw [later' k more within] at last
    cases last

theorem Verdict.unique (one : Verdict given attempts result calls) (two : Verdict given attempts other times) :
    result = other ∧ calls = times := by
  cases one with
  | settled within before decides =>
    cases two with
    | settled within' before' decides' =>
      obtain rfl := first_unique before decides before' decides'
      exact ⟨Option.some.inj (decides.symm.trans decides'),rfl⟩
    | partly unsettled =>
      rw [unsettled _ within] at decides
      cases decides
    | interrupted always =>
      rw [always _ within] at decides
      cases decides
  | partly unsettled within last later =>
    cases two with
    | settled within' before' decides' =>
      rw [unsettled _ within'] at decides'
      cases decides'
    | partly unsettled' within' last' later' =>
      obtain rfl := last_unique within last later within' last' later'
      cases last.symm.trans last'
      exact ⟨rfl,rfl⟩
    | interrupted always =>
      rw [always _ within] at last
      cases last
  | interrupted always =>
    cases two with
    | settled within' before' decides' =>
      rw [always _ within'] at decides'
      cases decides'
    | partly unsettled' within' last' later' =>
      rw [always _ within'] at last'
      cases last'
    | interrupted always' => exact ⟨rfl,rfl⟩

-- The listing that a response has a part of.
def part? : Except Error (Listing α) → Option α
  | .ok ⟨value,true⟩ => some value
  | _ => none

-- A result with the latest part that was known before: where it is that of interruptions only, the part counts.
def recovered (last : Option α) : Except Error α → Except Error α
  | .error .interrupted =>
    match last with
    | some value => .ok value
    | none => .error .interrupted
  | result => result

theorem recovered_settled {response : Except Error (Listing α)} (told : settled? response = some result)
    (last : Option α) : recovered last result = result := by
  cases result with
  | ok value => rfl
  | error e =>
    have other := settled_error told
    cases e with
    | interrupted => exact absurd rfl other
    | refused reason => rfl
    | socket reason => rfl
    | other message => rfl

theorem recovered_or (one two : Option α) (result : Except Error α) :
    recovered (one.or two) result = recovered two (recovered one result) := by
  rcases result with (_ | _ | _ | _) | _ <;> cases one <;> rfl

theorem unsettled_again (first : settled? (given 0) = none) (rest : ∀ i < attempts, settled? (given (i + 1)) = none) :
    ∀ i < attempts + 1, settled? (given i) = none := by
  intro i within
  cases i with
  | zero => exact first
  | succ i => exact rest i (Nat.lt_of_succ_lt_succ within)

-- A response that settles nothing puts off the verdict on the others, to which its part may contribute.
theorem Verdict.put_off (first : settled? (given 0) = none)
    (verdict : Verdict (fun i => given (i + 1)) attempts result calls) :
    Verdict given (attempts + 1) (recovered (part? (given 0)) result) (calls + 1) := by
  cases verdict with
  | settled within earlier decides =>
    rw [recovered_settled decides]
    exact .settled (Nat.succ_lt_succ within) (unsettled_again first earlier) decides
  | partly unsettled within last later =>
    refine .partly (unsettled_again first unsettled) (Nat.succ_lt_succ within) last fun i less among => ?_
    cases i with
    | zero => exact absurd less (Nat.not_lt_zero _)
    | succ i => exact later i (Nat.lt_of_succ_lt_succ less) (Nat.lt_of_succ_lt_succ among)
  | interrupted always =>
    have others : ∀ i, 0 < i → i < attempts + 1 → given i = .error .interrupted := by
      intro i some among
      cases i with
      | zero => exact absurd some (Nat.lt_irrefl 0)
      | succ i => exact always i (Nat.lt_of_succ_lt_succ among)
    rcases unsettled_cases first with interruption | ⟨value,part⟩
    · rw [interruption]
      refine .interrupted fun i among => ?_
      cases i with
      | zero => exact interruption
      | succ i => exact always i (Nat.lt_of_succ_lt_succ among)
    · rw [part]
      refine .partly (unsettled_again first fun i among => ?_) (Nat.succ_pos _) part others
      rw [always i among]
      rfl

theorem retryFrom_settled (told : settled? (ask.outcome s).1 = some result) (last : Option α) (attempts : Nat) :
    (retryFrom ask last (attempts + 1)).outcome s = (result,(ask.outcome s).2) := by
  rw [retryFrom]
  cases asked : ask s with
  | ok listing t =>
    rw [Step.outcome_ok asked] at told ⊢
    obtain ⟨value,_ | _⟩ := listing
    · cases told
      exact Step.outcome_bind (Step.attempt_ok asked)
    · cases told
  | error e t =>
    rw [Step.outcome_error asked] at told ⊢
    cases e <;> cases told <;> exact Step.outcome_bind (Step.attempt_error asked)

theorem retryFrom_unsettled (told : settled? (ask.outcome s).1 = none) (last : Option α) (attempts : Nat) :
    (retryFrom ask last (attempts + 1)).outcome s =
      (retryFrom ask ((part? (ask.outcome s).1).or last) attempts).outcome (ask.outcome s).2 := by
  rw [retryFrom]
  cases asked : ask s with
  | ok listing t =>
    rw [Step.outcome_ok asked] at told ⊢
    obtain ⟨value,_ | _⟩ := listing
    · cases told
    · exact Step.outcome_bind (Step.attempt_ok asked)
  | error e t =>
    rw [Step.outcome_error asked] at told ⊢
    cases e <;> cases told
    exact Step.outcome_bind (Step.attempt_error asked)

-- A part that is known beforehand counts just where no other does.
theorem retryFrom_last (last : Option α) (attempts : Nat) (s : σ) : (retryFrom ask last attempts).outcome s =
    (recovered last ((retryFrom ask none attempts).outcome s).1,((retryFrom ask none attempts).outcome s).2) := by
  induction attempts generalizing last s with
  | zero => cases last <;> rfl
  | succ attempts ih =>
    cases told : settled? (ask.outcome s).1 with
    | some result =>
      rw [retryFrom_settled told,retryFrom_settled told,recovered_settled told]
    | none =>
      rw [retryFrom_unsettled told,retryFrom_unsettled told,Option.or_none,ih,ih (part? (ask.outcome s).1),recovered_or]

-- The induction is on the attempts that are left; the state between two attempts is any.
theorem retryFrom_verdict (ask : Step σ Error (Listing α)) (attempts : Nat) (s : σ) :
    ∃ calls, Verdict (responses ask s) attempts ((retryFrom ask none attempts).outcome s).1 calls ∧
      ((retryFrom ask none attempts).outcome s).2 = turns ask s calls := by
  induction attempts generalizing s with
  | zero => exact ⟨0,.interrupted fun i among => absurd among (Nat.not_lt_zero i),rfl⟩
  | succ attempts ih =>
    cases told : settled? (ask.outcome s).1 with
    | some result =>
      rw [retryFrom_settled told]
      exact ⟨1,.settled (Nat.succ_pos _) (fun i early => absurd early (Nat.not_lt_zero i)) told,rfl⟩
    | none =>
      obtain ⟨calls,verdict,reached⟩ := ih (ask.outcome s).2
      rw [retryFrom_unsettled told,retryFrom_last,Option.or_none]
      exact ⟨calls + 1,Verdict.put_off told verdict,reached⟩

theorem turns_stream (given : Nat → Except Error (Listing α)) (calls n : Nat) :
    turns (stream given) n calls = n + calls := by
  induction calls generalizing n with
  | zero => rfl
  | succ calls ih =>
    have counted : ((stream given).outcome n).2 = n + 1 := by
      unfold Step.outcome stream
      cases given n <;> rfl
    rw [turns,counted,ih]
    omega

theorem responses_stream (given : Nat → Except Error (Listing α)) : responses (stream given) 0 = given := by
  funext n
  rw [responses,turns_stream,Nat.zero_add]
  unfold Step.outcome stream
  cases given n <;> rfl

-- What reading the kernel over and over has to do with each of the responses that it asks for.
structure Retries (ask : Step σ Error (Listing α)) (read : Step σ Error α) (s : σ) (calls : Nat) : Prop where
  verdict : Verdict (responses ask s) 5 (read.outcome s).1 calls
  reached : (read.outcome s).2 = turns ask s calls
  complete : ∀ i < calls, ∀ value, responses ask s i = .ok (.complete value) → (read.outcome s).1 = .ok value
  failed : ∀ i < calls, ∀ e, responses ask s i = .error e → e ≠ .interrupted → (read.outcome s).1 = .error e

theorem Verdict.of_settled (verdict : Verdict given attempts result calls) (asked : i < calls)
    (told : settled? (given i) = some other) : result = other := by
  cases verdict with
  | settled within earlier decides =>
    rcases Nat.lt_succ_iff_lt_or_eq.mp asked with early | rfl
    · rw [earlier i early] at told
      cases told
    · exact Option.some.inj (decides.symm.trans told)
  | partly unsettled =>
    rw [unsettled i asked] at told
    cases told
  | interrupted always =>
    rw [always i asked] at told
    cases told

theorem settled_failure (failed : e ≠ .interrupted) :
    settled? (.error e : Except Error (Listing α)) = some (.error e) := by
  cases e with
  | interrupted => exact absurd rfl failed
  | refused reason => rfl
  | socket reason => rfl
  | other message => rfl

theorem retry_retries (ask : Step σ Error (Listing α)) (s : σ) : ∃ calls, Retries ask (retry ask) s calls := by
  obtain ⟨calls,verdict,reached⟩ := retryFrom_verdict ask maxAttempts s
  refine ⟨calls,verdict,reached,fun i asked value whole => ?_,fun i asked e told failed => ?_⟩
  · refine verdict.of_settled asked ?_
    rw [whole]
    rfl
  · refine verdict.of_settled asked ?_
    rw [told,settled_failure failed]

-- Every way of reading a kernel asks in this way.
structure Driver.Retried (d : Driver σ) : Prop where
  link : ∀ name s, ∃ calls, Retries (d.linkByName name) (d.link name) s calls
  allLinks : ∀ s, ∃ calls, Retries d.links d.allLinks s calls
  addressesOf : ∀ index s, ∃ calls, Retries (d.addresses (some index)) (d.addressesOf index) s calls
  addressTextsOf : ∀ index s, (d.addressTextsOf index).outcome s =
    (((d.addressesOf index).outcome s).1.map (·.map (·.net.text)),((d.addressesOf index).outcome s).2)
  allRoutes : ∀ family s, ∃ calls, Retries (d.routes family) (d.allRoutes family) s calls
  allPortVlans : ∀ s, ∃ calls, Retries d.portVlans d.allPortVlans s calls

theorem addressTextsOf_outcome (d : Driver σ) (index : Nat) (s : σ) : (d.addressTextsOf index).outcome s =
    (((d.addressesOf index).outcome s).1.map (·.map (·.net.text)),((d.addressesOf index).outcome s).2) := by
  rw [Driver.addressTextsOf]
  cases asked : d.addressesOf index s with
  | ok addresses t => rw [Step.outcome_bind asked,Step.outcome_ok asked]; rfl
  | error e t => rw [Step.outcome_error (Step.bind_error asked),Step.outcome_error asked]; rfl

-- Interrupted listings are asked for again, five times at most, with every stream of responses and every kernel.
theorem interruptions_retried :
    (∀ (α : Type) (given : Nat → Except Error (Listing α)) result calls,
      (retry (stream given)).outcome 0 = (result,calls) ↔ Verdict given 5 result calls) ∧
    ∀ (σ : Type) (d : Driver σ), d.Retried := by
  constructor
  · intro α given result calls
    obtain ⟨times,verdict,reached⟩ := retryFrom_verdict (stream given) maxAttempts 0
    rw [responses_stream] at verdict
    rw [turns_stream,Nat.zero_add] at reached
    constructor
    · intro asked
      rw [retry] at asked
      rw [asked] at verdict reached
      subst reached
      exact verdict
    · intro expected
      obtain ⟨same,often⟩ := verdict.unique expected
      exact Prod.ext same (reached.trans often)
  · intro σ d
    exact ⟨fun name s => retry_retries _ s,fun s => retry_retries _ s,fun index s => retry_retries _ s,
      fun index s => addressTextsOf_outcome d index s,fun family s => retry_retries _ s,fun s => retry_retries _ s⟩

end HostNet.Kernel
