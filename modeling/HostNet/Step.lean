namespace HostNet

-- A computation that changes a state and may fail. A step that fails leaves the state as it is at that moment, so
-- what was done before the failure stays done.
abbrev Step (σ ε α : Type) := EStateM ε σ α

namespace Step

def attempt (x : Step σ ε α) : Step σ ε' (Except ε α) := fun s =>
  match x s with
  | .ok a s => .ok (.ok a) s
  | .error e s => .ok (.error e) s

def mapError (f : ε → ε') (x : Step σ ε α) : Step σ ε' α := fun s =>
  match x s with
  | .ok a s => .ok a s
  | .error e s => .error (f e) s

def within (get : σ → τ) (set : τ → σ → σ) (x : Step τ ε α) : Step σ ε α := fun s =>
  match x (get s) with
  | .ok a t => .ok a (set t s)
  | .error e t => .error e (set t s)

def ofState (x : StateM σ α) : Step σ ε α := fun s =>
  let (a,s) := x s
  .ok a s

def ofExcept : Except ε α → Step σ ε α
  | .ok a => pure a
  | .error e => throw e

def update (f : σ → Except ε σ) : Step σ ε Unit := fun s =>
  match f s with
  | .ok t => .ok () t
  | .error e => .error e s

def outcome (x : Step σ ε α) (s : σ) : Except ε α × σ :=
  match x s with
  | .ok a s => (.ok a,s)
  | .error e s => (.error e,s)

variable {s t : σ} {x : Step σ ε α}

theorem bind_ok {f : α → Step σ ε β} (ran : x s = .ok a t) : (x >>= f) s = f a t := by
  simp [bind,EStateM.bind,ran]

theorem bind_error {f : α → Step σ ε β} (ran : x s = .error e t) : (x >>= f) s = .error e t := by
  simp [bind,EStateM.bind,ran]

theorem when_bind (c : Bool) (x : Step σ ε Unit) (f : Unit → Step σ ε β) :
    (if c then x >>= f else f ()) = ((if c then x else pure ()) >>= f) := by
  cases c <;> rfl

theorem mapError_ok {f : ε → ε'} (ran : x s = .ok a t) : mapError f x s = .ok a t := by
  simp [mapError,ran]

theorem mapError_error {f : ε → ε'} (ran : x s = .error e t) : mapError f x s = .error (f e) t := by
  simp [mapError,ran]

theorem attempt_ok (ran : x s = .ok a t) :
    (attempt x s : EStateM.Result ε' σ (Except ε α)) = .ok (.ok a) t := by
  simp [attempt,ran]

theorem attempt_error (ran : x s = .error e t) :
    (attempt x s : EStateM.Result ε' σ (Except ε α)) = .ok (.error e) t := by
  simp [attempt,ran]

theorem of_bind {f : α → Step σ ε β} (ran : (x >>= f) s = .ok b t) : ∃ a u, x s = .ok a u ∧ f a u = .ok b t := by
  cases begun : x s with
  | ok a u => exact ⟨a,u,rfl,(bind_ok begun).symm.trans ran⟩
  | error e u => rw [bind_error begun] at ran; cases ran

theorem of_mapError {f : ε → ε'} (ran : mapError f x s = .ok a t) : x s = .ok a t := by
  cases begun : x s with
  | ok b u => rw [mapError_ok begun] at ran; cases ran; rfl
  | error e u => rw [mapError_error begun] at ran; cases ran

theorem outcome_ok (ran : x s = .ok a t) : x.outcome s = (.ok a,t) := by
  simp [outcome,ran]

theorem outcome_error (ran : x s = .error e t) : x.outcome s = (.error e,t) := by
  simp [outcome,ran]

theorem outcome_bind {f : α → Step σ ε β} (ran : x s = .ok a t) : (x >>= f).outcome s = (f a).outcome t := by
  simp [outcome,bind_ok ran]

theorem outcome_then_pure (x : Step σ ε α) (b : β) (s : σ) :
    ((x >>= fun _ => pure b).outcome s).2 = (x.outcome s).2 := by
  cases ran : x s with
  | ok a t => rw [outcome_bind ran,outcome_ok ran]; rfl
  | error e t => rw [outcome_error (bind_error ran),outcome_error ran]

theorem of_told (told : (x.outcome s).1.toOption = some a) : x s = .ok a (x.outcome s).2 := by
  cases ran : x s with
  | ok b t => rw [outcome_ok ran] at told ⊢; cases told; rfl
  | error e t => rw [outcome_error ran] at told; cases told

end Step
end HostNet
