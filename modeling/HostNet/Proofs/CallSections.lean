import HostNet.Proofs.AllocationOwners
import Mathlib.Logic.Function.Basic

namespace HostNet.Ipam

namespace Bitmap

-- A search that begins at a free offset ends there.
theorem scan_here {max offset : Nat} {tag : String} {m : Bitmap} {held : Finset Nat}
    (valid : Represents max tag m held) (inside : offset < max) (clear : offset ∉ held) :
    Strategy.scan offset m.bits m.max m.count = some offset := by
  have begun : ¬(m.max = 0 ∨ m.max ≤ m.count) := by
    have proper : held ⊂ Finset.range max := ⟨valid.below,fun all => clear (all (Finset.mem_range.mpr inside))⟩
    have fewer : held.card < max := by simpa using Finset.card_lt_card proper
    rw [valid.range,valid.counted]
    omega
  unfold Strategy.scan
  rw [if_neg begun,valid.range]
  obtain ⟨left,rfl⟩ := Nat.exists_eq_succ_of_ne_zero (Nat.ne_of_gt (Nat.zero_lt_of_lt inside))
  have unset : m.bits.get offset = false := valid.clear.mpr clear
  simp [Strategy.search,Nat.mod_eq_of_lt inside,unset]

end Bitmap

namespace Range
variable {s : Subnet} {r after : Range} {held : Finset Nat} {address : Address}

theorem allocate_possible (valid : Holds s r held) (usable : s.Usable address) (clear : address ∉ r.taken) :
    ∃ after, allocate address r = .ok () after := by
  cases ran : allocate address r with
  | ok _ after => exact ⟨after,rfl⟩
  | error cause after =>
    have served : (serve (.allocate address) r).1 = .refused cause := by simp [serve,told,Step.outcome,ran]
    obtain ⟨next,dictated,_⟩ := allocate_dictated valid address
    rw [served] at dictated
    generalize s.addresses next = then_ at dictated
    cases dictated with
    | alreadyAllocated _ taken => exact absurd (valid.mem_taken.mpr taken) clear
    | notInRange outside => exact absurd usable outside

-- Where nothing is taken, the search for any address finds each one from some place.
theorem allocateNext_possible (valid : Holds s r ∅) (usable : s.Usable address) :
    ∃ start after, allocateNext start r = .ok address after := by
  obtain ⟨offset,inside,rfl⟩ := Subnet.usable_iff.mp usable
  have found := Bitmap.scan_here valid.marked inside (Finset.notMem_empty offset)
  have stored : ¬r.bitmap.bits.capacity ≤ offset := Nat.not_le.mpr (Nat.lt_of_lt_of_le inside valid.marked.stored)
  have placed := next_addressAt valid.laid inside
  refine ⟨offset,?_⟩
  simp [allocateNext,Bitmap.allocateNext,found,stored,placed]

end Range
end HostNet.Ipam

namespace HostNet.Ipam.Concurrent

-- The calls of an allocator that may be under way at one time.
inductive Call where
  | allocate (address : Address) (owner pool : String)
  | allocateNext (owner pool : String)
  | release (address : Address) (pool : String)

-- The owner that a call gives to its address. A release gives none.
def Call.owner? : Call → Option String
  | .allocate _ owner _ => some owner
  | .allocateNext owner _ => some owner
  | .release _ _ => none

-- The first section of a call, under the lock of the range. It tells the address.
def Call.onRange : Call → Nat → Step Allocator Error Address
  | .allocate address _ _,_ => do
    Allocator.onRange (Range.allocate address)
    return address
  | .allocateNext _ _,start => Allocator.onRange (Range.allocateNext start)
  | .release address _,_ => do
    modify fun a => { a with range := a.range.release address }
    return address

-- The second section, under the lock of the owners.
def Call.onOwners (call : Call) (address : Address) (a : Allocator) : Allocator :=
  match call.owner? with
  | some owner => { a with owners := a.owners.put address owner }
  | none => { a with owners := a.owners.drop address }

def Call.request (start : Nat) : Call → Allocator.Request
  | .allocate address owner pool => .allocate address owner pool
  | .allocateNext owner pool => .allocateNext start owner pool
  | .release address pool => .release address pool

-- What is recorded after a first section, for the address that it told.
theorem told_recorded (first : Step Allocator Error Address) (owner pool : String) (a : Allocator) :
    (Allocator.told ((first >>= fun address => do
        Allocator.record address owner
        return (← get).allocation address owner pool).outcome a)).2 =
      match first a with
      | .ok address between => { between with owners := between.owners.put address owner }
      | .error _ between => between := by
  cases ran : first a with
  | ok address between =>
    rw [Step.outcome_bind ran]
    rfl
  | error cause between =>
    rw [Step.outcome_error (Step.bind_error ran)]
    rfl

-- With nothing between them, the sections are the call.
theorem sections_ask (call : Call) (start : Nat) (a : Allocator) : (Allocator.ask (call.request start) a).2 =
    match call.onRange start a with
    | .ok address between => call.onOwners address between
    | .error _ between => between := by
  cases call with
  | allocate address owner pool =>
    have whole : Allocator.allocate address owner pool = (Call.allocate address owner pool).onRange start >>=
        fun address => do
          Allocator.record address owner
          return (← get).allocation address owner pool := by
      simp only [Allocator.allocate,Call.onRange,bind_assoc,pure_bind]
    rw [Call.request,Allocator.ask,whole]
    exact told_recorded _ owner pool a
  | allocateNext owner pool => exact told_recorded (Allocator.onRange (Range.allocateNext start)) owner pool a
  | release address pool => rfl

-- The addresses that the first section of a call can tell.
inductive Call.Reaches : Call → Address → Prop where
  | allocate : Reaches (.allocate address owner pool) address
  | allocateNext : Reaches (.allocateNext owner pool) address
  | release : Reaches (.release address pool) address

-- How far a call is: before its sections, between them with the address that the first told, or after them.
inductive Progress where
  | begun
  | between (address : Address)
  | returned
deriving DecidableEq

-- An allocator with the calls that are under way. What the sections said of each address is kept beside it: the owner
-- of the call whose first section had it last, and the owner of the call whose second section had it last.
structure Scene where
  allocator : Allocator
  progress : Nat → Progress
  takenBy : Address → Option String
  ownedBy : Address → Option String

-- The next section of call `i`, whose search for any address begins at `start`. A call whose first section fails
-- returns.
def turn (calls : List Call) (scene : Scene) (i start : Nat) : Scene :=
  match calls[i]?,scene.progress i with
  | some call,.begun =>
    match call.onRange start scene.allocator with
    | .ok address after =>
      { scene with
        allocator := after
        progress := Function.update scene.progress i (.between address)
        takenBy := Function.update scene.takenBy address call.owner? }
    | .error _ after => { scene with allocator := after,progress := Function.update scene.progress i .returned }
  | some call,.between address =>
    { scene with
      allocator := call.onOwners address scene.allocator
      progress := Function.update scene.progress i .returned
      ownedBy := Function.update scene.ownedBy address call.owner? }
  | _,_ => scene

-- An interleaving names the call of each turn, and where its search begins.
def run (calls : List Call) (turns : List (Nat × Nat)) (scene : Scene) : Scene :=
  turns.foldl (fun scene next => turn calls scene next.1 next.2) scene

def opened (s : Subnet) : Scene := ⟨.ofSubnet s,fun _ => .begun,fun _ => none,fun _ => none⟩

def Settled (calls : List Call) (scene : Scene) : Prop := ∀ i < calls.length, scene.progress i = .returned

-- Each taken address has the owner of the call that took it, and no other address has one.
def Faithful (scene : Scene) : Prop := ∀ address,
  (address ∈ scene.allocator.range.taken ↔ ∃ owner, scene.allocator.owners.lookup address = some owner) ∧
    ∀ owner, scene.allocator.owners.lookup address = some owner → scene.takenBy address = some owner

section
variable {s : Subnet} {a : Allocator} {calls : List Call} {scene : Scene} {held : Finset Nat}

-- A first section fails and changes nothing, or it tells an address and decides whether that one is taken. Only a
-- usable address that is not taken is told by a call that takes it.
theorem onRange_cases (valid : Range.Holds s a.range held) (call : Call) (start : Nat) :
    (∃ cause, call.onRange start a = .error cause a) ∨
    ∃ address range, call.onRange start a = .ok address { a with range := range } ∧ call.Reaches address ∧
      (call.owner?.isSome → s.Usable address ∧ address ∉ a.range.taken) ∧ (∃ held, Range.Holds s range held) ∧
      ∀ other, other ∈ range.taken ↔
        if other = address then (call.owner?.isSome : Prop) else other ∈ a.range.taken := by
  have taking (way : Range.Way) (same : call.onRange start = Allocator.onRange way.take)
      (reaches : ∀ address, way.Gives address → call.Reaches address) (owns : call.owner?.isSome) :
      (∃ cause, call.onRange start a = .error cause a) ∨
      ∃ address range, call.onRange start a = .ok address { a with range := range } ∧ call.Reaches address ∧
        (call.owner?.isSome → s.Usable address ∧ address ∉ a.range.taken) ∧ (∃ held, Range.Holds s range held) ∧
        ∀ other, other ∈ range.taken ↔
          if other = address then (call.owner?.isSome : Prop) else other ∈ a.range.taken := by
    rw [same]
    rcases Allocator.onRange_take valid way with refused | ⟨address,range,ran,gives,took⟩
    · exact .inl refused
    · refine .inr ⟨address,range,ran,reaches address gives,fun _ => ⟨took.usable,took.fresh⟩,took.holds,fun other => ?_⟩
      rw [took.taken]
      by_cases same : other = address <;> simp [same,owns]
  cases call with
  | allocate address owner pool =>
    refine taking (.given address) (Allocator.onRange_given address).symm (fun given gives => ?_) rfl
    cases gives
    exact .allocate
  | allocateNext owner pool => exact taking (.next start) rfl (fun _ _ => .allocateNext) rfl
  | release address pool =>
    obtain ⟨holds,taken⟩ := Range.release_taken valid address
    refine .inr ⟨address,a.range.release address,rfl,.release,fun owned => (by cases owned),holds,?_⟩
    intro other
    rw [taken]
    by_cases same : other = address <;> simp [same,Call.owner?]

theorem lookup_onOwners (call : Call) (address other : Address) (a : Allocator) :
    (call.onOwners address a).owners.lookup other =
      if other = address then call.owner? else a.owners.lookup other := by
  unfold Call.onOwners
  cases call.owner? with
  | some owner => exact Allocator.lookup_put a.owners address other owner
  | none => exact Allocator.lookup_drop a.owners address other

theorem onOwners_range (call : Call) (address : Address) (a : Allocator) :
    (call.onOwners address a).range = a.range := by
  unfold Call.onOwners
  cases call.owner? <;> rfl

-- The invariant of every interleaving: the last sections of an address say whether it is taken and who has it.
structure Accounted (s : Subnet) (scene : Scene) : Prop where
  ranged : ∃ held, Range.Holds s scene.allocator.range held
  taken : ∀ address, address ∈ scene.allocator.range.taken ↔ (scene.takenBy address).isSome
  recorded : ∀ address, scene.allocator.owners.lookup address = scene.ownedBy address

-- What a turn of a call can do.
inductive Turned (s : Subnet) (calls : List Call) (scene : Scene) (i : Nat) : Scene → Prop where
  | idle : Turned s calls scene i scene
  | refused (named : calls[i]? = some call) (begun : scene.progress i = .begun) :
      Turned s calls scene i { scene with progress := Function.update scene.progress i .returned }
  | ranged (named : calls[i]? = some call) (begun : scene.progress i = .begun) (reaches : call.Reaches address)
      (fresh : call.owner?.isSome → s.Usable address ∧ address ∉ scene.allocator.range.taken)
      (holds : ∃ held, Range.Holds s range held)
      (taken : ∀ other, other ∈ range.taken ↔
        if other = address then (call.owner?.isSome : Prop) else other ∈ scene.allocator.range.taken) :
      Turned s calls scene i
        { allocator := { scene.allocator with range := range }
          progress := Function.update scene.progress i (.between address)
          takenBy := Function.update scene.takenBy address call.owner?
          ownedBy := scene.ownedBy }
  | noted (named : calls[i]? = some call) (reached : scene.progress i = .between address) :
      Turned s calls scene i
        { allocator := call.onOwners address scene.allocator
          progress := Function.update scene.progress i .returned
          takenBy := scene.takenBy
          ownedBy := Function.update scene.ownedBy address call.owner? }

theorem turn_cases (accounted : Accounted s scene) (calls : List Call) (i start : Nat) :
    Turned s calls scene i (turn calls scene i start) := by
  obtain ⟨held,valid⟩ := accounted.ranged
  unfold turn
  cases named : calls[i]? with
  | none => exact .idle
  | some call =>
    cases reached : scene.progress i with
    | begun =>
      simp only
      rcases onRange_cases valid call start with ⟨cause,ran⟩ | ⟨address,range,ran,reaches,fresh,holds,taken⟩
      · rw [ran]
        exact .refused named reached
      · rw [ran]
        exact .ranged named reached reaches fresh holds taken
    | between address => exact .noted named reached
    | returned => exact .idle

theorem opened_accounted (s : Subnet) : Accounted s (opened s) where
  ranged := ⟨∅,Range.ofSubnet_holds s⟩
  taken address := by
    have empty : address ∈ (opened s).allocator.range.taken ↔ address ∈ s.addresses ∅ :=
      (Range.ofSubnet_holds s).mem_taken
    rw [empty]
    simp [opened,Subnet.mem_addresses]
  recorded _ := rfl

theorem Accounted.turned {after : Scene} (accounted : Accounted s scene) (turned : Turned s calls scene i after) :
    Accounted s after := by
  cases turned with
  | idle => exact accounted
  | refused named begun => exact ⟨accounted.ranged,accounted.taken,accounted.recorded⟩
  | ranged named begun reaches fresh holds taken =>
    refine ⟨holds,fun other => ?_,accounted.recorded⟩
    simp only [taken,Function.update_apply]
    split
    · rfl
    · exact accounted.taken other
  | noted named reached =>
    refine ⟨?_,fun other => ?_,fun other => ?_⟩
    · rw [onOwners_range]
      exact accounted.ranged
    · rw [onOwners_range]
      exact accounted.taken other
    · simp only [lookup_onOwners,Function.update_apply,accounted.recorded]

theorem Accounted.ran (accounted : Accounted s scene) (calls : List Call) (turns : List (Nat × Nat)) :
    Accounted s (run calls turns scene) := by
  induction turns generalizing scene with
  | nil => exact accounted
  | cons next rest ih => exact ih (accounted.turned (turn_cases accounted calls next.1 next.2))

-- Owners are right exactly if the two sections that had an address last agree on it.
theorem Accounted.faithful_iff (accounted : Accounted s scene) :
    Faithful scene ↔ ∀ address, scene.takenBy address = scene.ownedBy address := by
  unfold Faithful
  refine forall_congr' fun address => ?_
  rw [accounted.taken,accounted.recorded]
  cases scene.ownedBy address with
  | some owner => simp +contextual
  | none => simp

end
end HostNet.Ipam.Concurrent
