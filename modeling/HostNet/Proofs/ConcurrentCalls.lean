import HostNet.Proofs.CallSections
import HostNet.Proofs.RestoredOwners

namespace HostNet.Ipam.Concurrent

-- No release names a usable address that another of the calls can take.
def Apart (s : Subnet) (calls : List Call) : Prop := ∀ address, s.Usable address →
  ∀ freeing ∈ calls, ∀ taking ∈ calls, freeing.Reaches address → taking.Reaches address →
    freeing.owner? = none → taking.owner? = none

section
variable {s : Subnet} {calls : List Call} {scene after : Scene} {i j taker freer : Nat} {address : Address}

-- A call that is between its sections was the last whose first section had its address.
def Latest (s : Subnet) (calls : List Call) (scene : Scene) (i : Nat) (address : Address) : Prop :=
  ∃ call, calls[i]? = some call ∧ call.Reaches address ∧ (call.owner?.isSome → s.Usable address) ∧
    scene.takenBy address = call.owner?

-- The invariant where calls are apart. Sections disagree on an address only as long as a call is between them.
structure Concordant (s : Subnet) (calls : List Call) (scene : Scene) : Prop where
  latest : ∀ i address, scene.progress i = .between address → Latest s calls scene i address
  agreed : ∀ address, (∀ i, scene.progress i ≠ .between address) → scene.takenBy address = scene.ownedBy address

-- A call that meets another one between its sections, on the same address, is a release as the other is.
theorem Latest.met {call : Call} (latest : Latest s calls scene j address) (apart : Apart s calls)
    (accounted : Accounted s scene) (member : call ∈ calls) (reaches : call.Reaches address)
    (fresh : call.owner?.isSome → s.Usable address ∧ address ∉ scene.allocator.range.taken) :
    Latest s calls { scene with takenBy := Function.update scene.takenBy address call.owner? } j address := by
  obtain ⟨other,named,reached,usable,same⟩ := latest
  have among : other ∈ calls := List.mem_of_getElem? named
  refine ⟨other,named,reached,usable,?_⟩
  simp only [Function.update_self]
  cases given : call.owner? with
  | none =>
    cases held : other.owner? with
    | none => rfl
    | some owner =>
      have released := apart address (usable (by simp [held])) call member other among reaches reached given
      rw [released] at held
      cases held
  | some owner =>
    obtain ⟨usable,clear⟩ := fresh (by simp [given])
    have released : other.owner? = none := by
      rw [accounted.taken,same] at clear
      simpa using clear
    rw [apart address usable other among call member reached reaches released] at given
    cases given

-- A turn of one call that leaves it elsewhere brings no other call to an address, and takes none from it.
theorem between_before {progress : Nat → Progress} (elsewhere : next ≠ .between address)
    (reached : Function.update progress i next j = .between address) : progress j = .between address := by
  rw [Function.update_apply] at reached
  split at reached
  · exact absurd reached elsewhere
  · exact reached

theorem clear_before {progress : Nat → Progress} (elsewhere : progress i ≠ .between address)
    (clear : ∀ j, Function.update progress i next j ≠ .between address) (j : Nat) :
    progress j ≠ .between address := by
  by_cases same : j = i
  · rwa [same]
  · simpa [same] using clear j

theorem Concordant.turned (concordant : Concordant s calls scene) (apart : Apart s calls)
    (accounted : Accounted s scene) (turned : Turned s calls scene i after) : Concordant s calls after := by
  cases turned with
  | idle => exact concordant
  | refused named begun =>
    constructor
    · intro j address reached
      exact concordant.latest j address (between_before (by simp) reached)
    · intro address clear
      exact concordant.agreed address (clear_before (by simp [begun]) clear)
  | @ranged call given range named begun reaches fresh holds taken =>
    constructor
    · intro j address reached
      by_cases same : address = given
      · subst same
        by_cases own : j = i
        · subst own
          exact ⟨call,named,reaches,fun owned => (fresh owned).1,by simp⟩
        · have before : scene.progress j = .between address := by simpa [own] using reached
          exact (concordant.latest j address before).met apart accounted (List.mem_of_getElem? named) reaches fresh
      · have before := between_before (fun eq => same (by cases eq; rfl)) reached
        obtain ⟨other,named,reached,usable,held⟩ := concordant.latest j address before
        exact ⟨other,named,reached,usable,by simpa [same] using held⟩
    · intro address clear
      have other : address ≠ given := by
        rintro rfl
        exact clear i (by simp)
      simp only [Function.update_of_ne other]
      exact concordant.agreed address (clear_before (by simp [begun]) clear)
  | @noted call given named reached =>
    constructor
    · intro j address between
      exact concordant.latest j address (between_before (by simp) between)
    · intro address clear
      by_cases same : address = given
      · subst same
        obtain ⟨other,again,_,_,held⟩ := concordant.latest i address reached
        obtain rfl : call = other := by simpa [named] using again
        simpa using held
      · simp only [Function.update_of_ne same]
        exact concordant.agreed address (clear_before (by simpa [reached] using Ne.symm same) clear)

theorem opened_concordant (s : Subnet) (calls : List Call) : Concordant s calls (opened s) where
  latest _ _ reached := by cases reached
  agreed _ _ := rfl

theorem Concordant.ran (concordant : Concordant s calls scene) (apart : Apart s calls) (accounted : Accounted s scene)
    (turns : List (Nat × Nat)) : Concordant s calls (run calls turns scene) := by
  induction turns generalizing scene with
  | nil => exact concordant
  | cons next rest ih =>
    have turned := turn_cases accounted calls next.1 next.2
    exact ih (concordant.turned apart accounted turned) (accounted.turned turned)

theorem turn_told {call : Call} {start : Nat} {told : Allocator} (named : calls[i]? = some call)
    (begun : scene.progress i = .begun) (ran : call.onRange start scene.allocator = .ok address told) :
    (turn calls scene i start).progress = Function.update scene.progress i (.between address) := by
  simp [turn,named,begun,ran]

-- On a new allocator a call that takes an address can take any usable one that it reaches.
theorem taken_first {taking : Call} (named : calls[taker]? = some taking) (reaches : taking.Reaches address)
    (usable : s.Usable address) (takes : taking.owner? ≠ none) :
    ∃ start, (turn calls (opened s) taker start).progress =
      Function.update (fun _ => .begun) taker (.between address) := by
  have valid := Range.ofSubnet_holds s
  cases reaches with
  | allocate =>
    have clear : address ∉ (Range.ofSubnet s).taken := by
      rw [valid.mem_taken]
      simp [Subnet.mem_addresses]
    obtain ⟨range,ran⟩ := Range.allocate_possible valid usable clear
    have placed : Allocator.onRange (Range.allocate address) (.ofSubnet s) =
        .ok () { Allocator.ofSubnet s with range := range } := by
      simp [Allocator.onRange,Allocator.ofSubnet,Step.within,ran]
    exact ⟨0,turn_told named rfl (Step.bind_ok placed)⟩
  | allocateNext =>
    obtain ⟨start,range,ran⟩ := Range.allocateNext_possible valid usable
    have placed : Allocator.onRange (Range.allocateNext start) (.ofSubnet s) =
        .ok address { Allocator.ofSubnet s with range := range } := by
      simp [Allocator.onRange,Allocator.ofSubnet,Step.within,ran]
    exact ⟨start,turn_told named rfl placed⟩
  | release => exact absurd rfl takes

-- Two turns bring a call to its end.
theorem twice_progress (calls : List Call) (scene : Scene) (i j : Nat) :
    (turn calls (turn calls scene i 0) i 0).progress j =
      if j = i ∧ i < calls.length then .returned else scene.progress j := by
  by_cases inside : i < calls.length
  · cases reached : scene.progress i with
    | begun =>
      cases ran : calls[i].onRange 0 scene.allocator <;>
        by_cases same : j = i <;> simp [turn,reached,ran,same,inside]
    | between address => by_cases same : j = i <;> simp [turn,reached,same,inside]
    | returned => by_cases same : j = i <;> simp [turn,reached,same,inside]
  · simp [turn,inside]

-- All turns of some calls, one call after the other.
def finishing (others : List Nat) : List (Nat × Nat) := others.flatMap fun i => [(i,0),(i,0)]

theorem finishing_progress (calls : List Call) (scene : Scene) (others : List Nat) (j : Nat) :
    (run calls (finishing others) scene).progress j =
      if j ∈ others ∧ j < calls.length then .returned else scene.progress j := by
  induction others generalizing scene with
  | nil => simp [finishing,run]
  | cons i rest ih =>
    have next : run calls (finishing (i :: rest)) scene =
        run calls (finishing rest) (turn calls (turn calls scene i 0) i 0) := rfl
    rw [next,ih,twice_progress]
    by_cases same : j = i
    · subst same
      by_cases inside : j < calls.length <;> simp [inside]
    · simp [same]

-- A release between the sections of a call that takes its address: it has the address last in the range, and the other
-- call has it last among the owners.
theorem crossed_sections {taking : Call} (given : calls[taker]? = some taking)
    (freed : calls[freer]? = some (.release address pool)) (other : freer ≠ taker)
    (reached : scene.progress taker = .between address) (begun : scene.progress freer = .begun) :
    let after := run calls [(freer,0),(freer,0),(taker,0)] scene
    after.takenBy address = none ∧ after.ownedBy address = taking.owner? ∧
      ∀ j, after.progress j = if j = taker ∨ j = freer then .returned else scene.progress j := by
  have ranged : turn calls scene freer 0 =
      { allocator := { scene.allocator with range := scene.allocator.range.release address }
        progress := Function.update scene.progress freer (.between address)
        takenBy := Function.update scene.takenBy address none
        ownedBy := scene.ownedBy } := by
    simp only [turn,freed,begun]
    rfl
  simp only [run,List.foldl_cons,List.foldl_nil,ranged]
  simp only [turn,freed,given,Function.update_self,Function.update_of_ne (Ne.symm other),reached]
  refine ⟨trivial,trivial,fun j => ?_⟩
  by_cases own : j = taker
  · simp [own]
  · by_cases same : j = freer <;> simp [own,same,other]

def besides (calls : List Call) (taker freer : Nat) : List Nat :=
  (List.range calls.length).filter fun j => j != taker && j != freer

-- A call that takes an address begins, the calls besides come to their end, and then the release crosses it.
def crossingTurns (calls : List Call) (taker start freer : Nat) : List (Nat × Nat) :=
  (taker,start) :: (finishing (besides calls taker freer) ++ [(freer,0),(freer,0),(taker,0)])

theorem crossing_settles {taking : Call} (given : calls[taker]? = some taking)
    (freed : calls[freer]? = some (.release address pool)) (reaches : taking.Reaches address)
    (usable : s.Usable address) (takes : taking.owner? ≠ none) :
    ∃ turns, Settled calls (run calls turns (opened s)) ∧
      (run calls turns (opened s)).takenBy address ≠ (run calls turns (opened s)).ownedBy address := by
  have other : freer ≠ taker := by
    rintro rfl
    rw [given] at freed
    cases freed
    exact takes rfl
  obtain ⟨start,first⟩ := taken_first given reaches usable takes
  refine ⟨crossingTurns calls taker start freer,?_⟩
  have whole : run calls (crossingTurns calls taker start freer) (opened s) =
      run calls [(freer,0),(freer,0),(taker,0)]
        (run calls (finishing (besides calls taker freer)) (turn calls (opened s) taker start)) := by
    simp only [run,crossingTurns,List.foldl_cons,List.foldl_append]
  have progress := finishing_progress calls (turn calls (opened s) taker start) (besides calls taker freer)
  rw [first] at progress
  rw [whole]
  generalize run calls (finishing _) _ = left at progress
  have reached : left.progress taker = .between address := by simp [progress,besides]
  have begun : left.progress freer = .begun := by simp [progress,besides,other]
  obtain ⟨took,owned,after⟩ := crossed_sections given freed other reached begun
  constructor
  · intro j inside
    rw [after,progress]
    by_cases own : j = taker
    · simp [own]
    · by_cases same : j = freer <;> simp [own,same,inside,besides]
  · rw [took,owned]
    exact Ne.symm takes

-- After an interleaving the owners are right exactly if the sections that had each address last agree on it. They are
-- right after every interleaving exactly if no release is for an address that another of the calls can take.
theorem owners_kept_exactly (s : Subnet) (calls : List Call) :
    (∀ turns, Settled calls (run calls turns (opened s)) → (Faithful (run calls turns (opened s)) ↔
      ∀ address, (run calls turns (opened s)).takenBy address = (run calls turns (opened s)).ownedBy address)) ∧
    ((∀ turns, Settled calls (run calls turns (opened s)) → Faithful (run calls turns (opened s))) ↔
      Apart s calls) := by
  have accounted := (opened_accounted s).ran calls
  refine ⟨fun turns _ => (accounted turns).faithful_iff,?_,?_⟩
  · intro faithful address usable freeing member taking among reaches reached frees
    by_contra takes
    obtain ⟨freer,freed⟩ := List.getElem?_of_mem member
    obtain ⟨taker,given⟩ := List.getElem?_of_mem among
    cases reaches with
    | allocate => cases frees
    | allocateNext => cases frees
    | release =>
      obtain ⟨turns,settled,apart⟩ := crossing_settles given freed reached usable takes
      exact apart ((accounted turns).faithful_iff.mp (faithful turns settled) address)
  · intro apart turns settled
    refine (accounted turns).faithful_iff.mpr fun address => ?_
    have concordant := (opened_concordant s calls).ran apart (opened_accounted s) turns
    refine concordant.agreed address fun i between => ?_
    obtain ⟨call,named,_⟩ := concordant.latest i address between
    rw [settled i (List.getElem?_eq_some_iff.mp named).1] at between
    cases between

end

section
open Allocator (hosts first)

-- A release and an allocation of one address.
def crossing : List Call := [.release first hostScope,.allocate first "pod-a" hostScope]

-- The allocation comes between the sections of the release.
def crossed : Scene := run crossing [(0,0),(1,0),(1,0),(0,0)] (opened hosts)

-- The address stays taken, and its owner is forgotten.
theorem owner_lost : Settled crossing crossed ∧ first ∈ crossed.allocator.range.taken ∧
    crossed.takenBy first = some "pod-a" ∧ crossed.allocator.owners.lookup first = none ∧ ¬Faithful crossed := by
  have settled : Settled crossing crossed := by
    unfold Settled
    decide +kernel
  have taken : first ∈ crossed.allocator.range.taken := by decide +kernel
  have forgotten : crossed.allocator.owners.lookup first = none := by decide +kernel
  refine ⟨settled,taken,by decide +kernel,forgotten,fun faithful => ?_⟩
  obtain ⟨owner,known⟩ := (faithful first).1.mp taken
  rw [forgotten] at known
  cases known

end
end HostNet.Ipam.Concurrent
