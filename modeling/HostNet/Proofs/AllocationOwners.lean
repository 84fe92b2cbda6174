import HostNet.Ipam.Allocator
import HostNet.Proofs.Entries
import HostNet.Proofs.SnapshotApplication

namespace HostNet.Ipam

namespace Range

-- Which address an answer says to be taken from now on.
inductive Tells : Request → Answer → Address → Prop where
  | done : Tells (.allocate address) .done address
  | address : Tells (.allocateNext start) (.address address) address

-- One address is taken besides the others, which was usable and not taken, and nothing else changes.
structure Took (s : Subnet) (r : Range) (address : Address) (after : Range) : Prop where
  usable : s.Usable address
  fresh : address ∉ r.taken
  holds : ∃ held, Holds s after held
  taken : ∀ a, a ∈ after.taken ↔ a = address ∨ a ∈ r.taken

-- The two ways of taking an address: a given one, or the next that is free.
inductive Way where
  | given (address : Address)
  | next (start : Nat)

def Way.take : Way → Step Range Error Address
  | .given address => do
    allocate address
    return address
  | .next start => allocateNext start

-- The addresses that a way can give.
inductive Way.Gives : Way → Address → Prop where
  | given : Gives (.given address) address
  | next : Gives (.next start) address

variable {s : Subnet} {r after : Range} {held : Finset Nat} {address : Address}

theorem Holds.taken_nodup (valid : Holds s r held) : r.taken.Nodup := by
  cases forEach_dictated valid with
  | visited _ ascending => exact ascending.imp fun less same => Nat.ne_of_lt less (congrArg Address.value same)

theorem Holds.used_taken (valid : Holds s r held) : r.used = r.taken.length := by
  have members : r.taken.toFinset = s.addresses held := by
    ext a
    rw [List.mem_toFinset,valid.mem_taken]
  have counted : r.used = (s.addresses held).card := by
    generalize used_ : r.used = used, free_ : r.free = free, max_ : r.max = max
    have dictated := counts_dictated valid
    rw [used_,free_,max_] at dictated
    cases dictated
    rfl
  rw [counted,← members,List.toFinset_card_of_nodup valid.taken_nodup]

theorem Dictates.release_done (dictated : Dictates s before (.release address) .done then_) :
    then_ = before.erase address := by
  cases dictated
  rfl

theorem Took.of_served (valid : Holds s r held) {request : Request} {answer : Answer}
    (served : serve request r = (answer,after)) (tells : Tells request answer address) : Took s r address after := by
  obtain ⟨next,dictated,reached⟩ := serve_dictated valid request
  rw [served] at dictated reached
  have grown : s.Usable address ∧ address ∉ s.addresses held ∧ s.addresses next = insert address (s.addresses held) := by
    generalize s.addresses next = then_ at dictated
    cases tells with
    | done =>
      cases dictated with
      | allocated usable clear => exact ⟨usable,clear,rfl⟩
    | address =>
      cases dictated with
      | next usable clear => exact ⟨usable,clear,rfl⟩
  obtain ⟨usable,clear,grown⟩ := grown
  refine ⟨usable,by rwa [valid.mem_taken],⟨next,reached⟩,fun a => ?_⟩
  rw [reached.mem_taken,valid.mem_taken,grown,Finset.mem_insert]

theorem unchanged (valid : Holds s r held) {request : Request} (served : serve request r = (.refused cause,after)) :
    after = r := by
  have same := refused_unchanged valid request (congrArg Prod.fst served)
  rwa [served] at same

theorem Way.take_cases (valid : Holds s r held) (way : Way) : (∃ cause, way.take r = .error cause r) ∨
    ∃ address after, way.take r = .ok address after ∧ way.Gives address ∧ Took s r address after := by
  cases way with
  | given address =>
    cases ran : allocate address r with
    | ok _ after =>
      have served : serve (.allocate address) r = (.done,after) := by simp [serve,told,Step.outcome,ran]
      exact .inr ⟨address,after,(Step.bind_ok ran).trans rfl,.given,.of_served valid served .done⟩
    | error cause after =>
      have served : serve (.allocate address) r = (.refused cause,after) := by simp [serve,told,Step.outcome,ran]
      cases unchanged valid served
      exact .inl ⟨cause,Step.bind_error ran⟩
  | next start =>
    cases ran : allocateNext start r with
    | ok address after =>
      have served : serve (.allocateNext start) r = (.address address,after) := by simp [serve,told,Step.outcome,ran]
      exact .inr ⟨address,after,ran,.next,.of_served valid served .address⟩
    | error cause after =>
      have served : serve (.allocateNext start) r = (.refused cause,after) := by simp [serve,told,Step.outcome,ran]
      cases unchanged valid served
      exact .inl ⟨cause,ran⟩

theorem release_taken (valid : Holds s r held) (address : Address) :
    (∃ held, Holds s (r.release address) held) ∧ ∀ a, a ∈ (r.release address).taken ↔ a ≠ address ∧ a ∈ r.taken := by
  obtain ⟨next,dictated,reached⟩ := release_dictated valid address
  have reached : Holds s (r.release address) next := reached
  refine ⟨⟨next,reached⟩,fun a => ?_⟩
  rw [reached.mem_taken,valid.mem_taken,dictated.release_done,Finset.mem_erase]

end Range

namespace Allocator

-- A state that the range of an allocator takes back: a snapshot, or the one that is kept for a network.
inductive Source where
  | snapshot (s : Snapshot)
  | stored (layout : Layout) (files : Files) (network : String)

def Source.restore : Source → Step Range HostNet.Error Bool
  | .snapshot s => do
    s.apply
    return true
  | .stored layout files network => Snapshot.load layout files network

-- What an allocator is asked for. The search for any address begins where it is told to.
inductive Request where
  | allocate (address : Address) (owner pool : String)
  | allocateNext (start : Nat) (owner pool : String)
  | release (address : Address) (pool : String)
  | dump

inductive Event where
  | request (r : Request)
  | restore (source : Source)

inductive Answer where
  | allocated (result : Allocation)
  | refused (cause : Error)
  | released
  | dumped (owned : List (Address × String)) (status : String)
  | restored (told : Except HostNet.Error Bool)
deriving DecidableEq

def told : Except Error Allocation × Allocator → Answer × Allocator
  | (.ok result,a) => (.allocated result,a)
  | (.error cause,a) => (.refused cause,a)

def ask : Request → Allocator → Answer × Allocator
  | .allocate address owner pool,a => told ((allocate address owner pool).outcome a)
  | .allocateNext start owner pool,a => told ((allocateNext start owner pool).outcome a)
  | .release address _,a => (.released,a.release address)
  | .dump,a => (.dumped a.owned a.status,a)

def serve : Event → Allocator → Answer × Allocator
  | .request request,a => ask request a
  | .restore source,a =>
    let (told,after) := (onRange source.restore).outcome a
    (.restored told,after)

-- The events with their answers, and the allocator after them.
def run : List Event → Allocator → List (Event × Answer) × Allocator
  | [],a => ([],a)
  | event :: rest,a =>
    let (answer,between) := serve event a
    let (trace,after) := run rest between
    ((event,answer) :: trace,after)

-- What an event means for the owner of an address, if it means anything: there is one from now on, or none.
def change (address : Address) : Event × Answer → Option (Option String)
  | (.request (.allocate a owner _),.allocated _) => if a = address then some (some owner) else none
  | (.request (.allocateNext _ owner _),.allocated result) =>
    if result.address = address then some (some owner) else none
  | (.request (.release a _),_) => if a = address then some none else none
  | _ => none

-- The owner that a trace leaves to an address that had one before, or none.
def heldFrom (before : Option String) (trace : List (Event × Answer)) (address : Address) : Option String :=
  trace.foldl (fun held event => (change address event).getD held) before

-- The owner given by the call that last allocated an address, if it was not released since.
def heldBy (trace : List (Event × Answer)) (address : Address) : Option String := heldFrom none trace address

-- An allocator with the address and its owner added.
def assigned (a : Allocator) (range : Range) (address : Address) (owner : String) : Allocator :=
  { a with range := range,owners := a.owners.put address owner }

-- What both calls that allocate do: an address is taken in the range, and then its owner recorded.
def assigning (way : Range.Way) (owner pool : String) : Step Allocator Error Allocation := do
  let address ← onRange way.take
  record address owner
  return (← get).allocation address owner pool

-- How a request allocates, if it does, with the owner and the pool.
def Request.way? : Request → Option (Range.Way × String × String)
  | .allocate address owner pool => some (.given address,owner,pool)
  | .allocateNext start owner pool => some (.next start,owner,pool)
  | .release _ _ | .dump => none

-- All that a request can come to.
inductive Asked (s : Subnet) (a : Allocator) : Request → Answer → Allocator → Prop where
  | assigned {range : Range} (wants : request.way? = some (way,owner,pool)) (gives : way.Gives address)
      (took : Range.Took s a.range address range) : Asked s a request
        (.allocated ((a.assigned range address owner).allocation address owner pool)) (a.assigned range address owner)
  | refused (wants : request.way? = some (way,owner,pool)) (cause : Error) : Asked s a request (.refused cause) a
  | released : Asked s a (.release address pool) .released (a.release address)
  | dumped : Asked s a .dump (.dumped a.owned a.status) a

section
variable {s : Subnet} {a after : Allocator} {address : Address} {owner pool : String} {start : Nat}
  {trace : List (Event × Answer)} {held : Finset Nat}

theorem lookup_put (owners : Owners) (address a : Address) (owner : String) :
    (owners.put address owner).lookup a = if a = address then some owner else owners.lookup a := by
  rw [Owners.put,List.lookup_cons]
  by_cases same : a = address
  · simp [same]
  · rw [beq_eq_false_iff_ne.mpr same,if_neg same]
    simp only
    rw [Entries.lookup_dropped,if_neg same]

theorem lookup_drop (owners : Owners) (address a : Address) :
    (owners.drop address).lookup a = if a = address then none else owners.lookup a :=
  Entries.lookup_dropped owners address a

theorem onRange_given (address : Address) : onRange (Range.Way.given address).take = do
    onRange (Range.allocate address)
    return address := by
  funext a
  cases ran : Range.allocate address a.range with
  | ok _ range =>
    have taken : (Range.Way.given address).take a.range = .ok address range := (Step.bind_ok ran).trans rfl
    have placed : onRange (Range.allocate address) a = .ok () { a with range := range } := by
      simp only [onRange,Step.within,ran]
    rw [Step.bind_ok placed]
    simp only [onRange,Step.within,taken]
    rfl
  | error cause range =>
    have taken : (Range.Way.given address).take a.range = .error cause range := Step.bind_error ran
    have placed : onRange (Range.allocate address) a = .error cause { a with range := range } := by
      simp only [onRange,Step.within,ran]
    rw [Step.bind_error placed]
    simp only [onRange,Step.within,taken]

theorem assigning_given (address : Address) (owner pool : String) :
    assigning (.given address) owner pool = allocate address owner pool := by
  simp only [assigning,onRange_given,allocate,bind_assoc,pure_bind]

theorem onRange_take (valid : Range.Holds s a.range held) (way : Range.Way) :
    (∃ cause, onRange way.take a = .error cause a) ∨ ∃ address range,
      onRange way.take a = .ok address { a with range := range } ∧ way.Gives address ∧
        Range.Took s a.range address range := by
  rcases way.take_cases valid with ⟨cause,ran⟩ | ⟨address,range,ran,gives,took⟩
  · refine .inl ⟨cause,?_⟩
    simp only [onRange,Step.within,ran]
  · refine .inr ⟨address,range,?_,gives,took⟩
    simp only [onRange,Step.within,ran]

theorem told_assigning (valid : Range.Holds s a.range held) (way : Range.Way) {request : Request}
    (wants : request.way? = some (way,owner,pool)) : Asked s a request
      (told ((assigning way owner pool).outcome a)).1 (told ((assigning way owner pool).outcome a)).2 := by
  unfold assigning
  rcases onRange_take valid way with ⟨cause,ran⟩ | ⟨address,range,ran,gives,took⟩
  · rw [Step.outcome_error (Step.bind_error ran)]
    exact .refused wants cause
  · rw [Step.outcome_bind ran]
    exact .assigned wants gives took

theorem ask_cases (valid : Range.Holds s a.range held) (request : Request) :
    Asked s a request (ask request a).1 (ask request a).2 := by
  cases request with
  | allocate address owner pool =>
    rw [ask,← assigning_given]
    exact told_assigning valid _ rfl
  | allocateNext start owner pool => exact told_assigning valid (.next start) rfl
  | release address pool => exact .released
  | dump => exact .dumped

theorem change_assigned {request : Request} {way : Range.Way} {result : Allocation}
    (wants : request.way? = some (way,owner,pool)) (gives : way.Gives address) (told : result.address = address)
    (other : Address) : change other (.request request,.allocated result) =
      if other = address then some (some owner) else none := by
  cases request with
  | allocate given =>
    cases wants
    cases gives
    simp only [change,eq_comm]
  | allocateNext start =>
    cases wants
    simp only [change,told,eq_comm]
  | release | dump => cases wants

theorem change_refused {request : Request} (wants : request.way? = some found) (cause : Error) (other : Address) :
    change other (.request request,.refused cause) = none := by
  cases request with
  | allocate | allocateNext => rfl
  | release | dump => cases wants

-- A restore brings the range to a saved state or leaves it, and has nothing to do with the owners.
theorem restore_cases {q : Range} {held : Finset Nat} (valid : Range.Holds s q held) (source : Source) :
    (∃ bytes, source.restore q = .ok true (q.taking bytes)) ∨ source.restore q = .ok false q ∨
      ∃ cause, source.restore q = .error cause q := by
  have applied : ∀ snapshot : Snapshot, ∀ step : Step Range HostNet.Error Bool,
      step = (snapshot.apply >>= fun _ => pure true) →
        (∃ bytes, step q = .ok true (q.taking bytes)) ∨ step q = .ok false q ∨ ∃ cause, step q = .error cause q := by
    rintro snapshot _ rfl
    rcases Snapshot.apply_cases valid snapshot with ⟨bytes,_,_,ran⟩ | ⟨_,_,_,ran⟩ | ⟨fault,_,ran⟩
    · exact .inl ⟨bytes,Step.bind_ok ran⟩
    · exact .inr (.inr ⟨_,Step.bind_error ran⟩)
    · exact .inr (.inr ⟨_,Step.bind_error ran⟩)
  cases source with
  | snapshot snapshot => exact applied snapshot _ rfl
  | stored layout files network =>
    rcases Snapshot.load_cases layout files network q with absent | refused | ⟨snapshot,loaded⟩
    · exact .inr (.inl absent)
    · exact .inr (.inr refused)
    · exact applied snapshot _ loaded

-- The invariant of every run: a range that its requests could have come to, and the owners of its trace.
structure Tracks (s : Subnet) (a : Allocator) (owners : Address → Option String) : Prop where
  ranged : ∃ held, Range.Holds s a.range held
  recorded : ∀ address, a.owners.lookup address = owners address

variable {owners : Address → Option String}

theorem Tracks.asked (tracks : Tracks s a owners) (request : Request) : Tracks s (ask request a).2
    fun address => (change address (.request request,(ask request a).1)).getD (owners address) := by
  obtain ⟨held,valid⟩ := tracks.ranged
  have asked := ask_cases valid request
  generalize (ask request a).1 = answer, (ask request a).2 = after at asked ⊢
  cases asked with
  | assigned wants gives took =>
    refine ⟨took.holds,fun address => ?_⟩
    rw [change_assigned wants gives rfl,assigned,lookup_put,tracks.recorded]
    split <;> rfl
  | refused wants cause =>
    refine ⟨⟨held,valid⟩,fun address => ?_⟩
    rw [change_refused wants,tracks.recorded]
    rfl
  | @released given =>
    refine ⟨(Range.release_taken valid given).1,fun address => ?_⟩
    rw [release,lookup_drop,tracks.recorded]
    by_cases same : given = address
    · simp [change,same]
    · simp [change,same,Ne.symm same]
  | dumped => exact ⟨⟨held,valid⟩,tracks.recorded⟩

theorem Tracks.served (tracks : Tracks s a owners) (event : Event) : Tracks s (serve event a).2
    fun address => (change address (event,(serve event a).1)).getD (owners address) := by
  cases event with
  | request request => exact tracks.asked request
  | restore source =>
    obtain ⟨held,valid⟩ := tracks.ranged
    rcases restore_cases valid source with ⟨bytes,ran⟩ | ran | ⟨cause,ran⟩
    · have served : (serve (.restore source) a).2 = { a with range := a.range.taking bytes } := by
        simp [serve,onRange,Step.within,Step.outcome,ran]
      rw [served]
      exact ⟨⟨_,valid.taking bytes⟩,tracks.recorded⟩
    · have served : (serve (.restore source) a).2 = a := by simp [serve,onRange,Step.within,Step.outcome,ran]
      rw [served]
      exact ⟨⟨held,valid⟩,tracks.recorded⟩
    · have served : (serve (.restore source) a).2 = a := by simp [serve,onRange,Step.within,Step.outcome,ran]
      rw [served]
      exact ⟨⟨held,valid⟩,tracks.recorded⟩

theorem Tracks.ran (tracks : Tracks s a owners) (events : List Event) :
    Tracks s (run events a).2 fun address => heldFrom (owners address) (run events a).1 address := by
  induction events generalizing a owners with
  | nil => exact tracks
  | cons event rest ih => exact ih (tracks.served event)

theorem ofSubnet_tracks (s : Subnet) : Tracks s (ofSubnet s) fun _ => none :=
  ⟨⟨∅,Range.ofSubnet_holds s⟩,fun _ => rfl⟩

-- The owners and the range of an allocator that was loaded at most at its beginning: what has an owner is taken, and
-- what is taken without one was loaded.
structure Lockstep (loaded : List Address) (a : Allocator) : Prop where
  taken : ∀ address owner, a.owners.lookup address = some owner → address ∈ a.range.taken
  left : ∀ address ∈ a.range.taken, a.owners.lookup address = none → address ∈ loaded

variable {loaded : List Address}

theorem Lockstep.assigned {range : Range} (lockstep : Lockstep loaded a) (given : Address) (owner : String)
    (grown : ∀ address, address ∈ range.taken ↔ address = given ∨ address ∈ a.range.taken) :
    Lockstep loaded (a.assigned range given owner) := by
  constructor
  · intro address other known
    refine (grown address).mpr ?_
    rw [Allocator.assigned,lookup_put] at known
    split at known
    · rename_i same
      exact .inl same
    · exact .inr (lockstep.taken address other known)
  · intro address member unowned
    rw [Allocator.assigned,lookup_put] at unowned
    split at unowned
    · cases unowned
    · rename_i apart
      exact lockstep.left address (((grown address).mp member).resolve_left apart) unowned

theorem Lockstep.asked (lockstep : Lockstep loaded a) (tracks : Tracks s a owners) (request : Request) :
    Lockstep loaded (ask request a).2 := by
  obtain ⟨held,valid⟩ := tracks.ranged
  have asked := ask_cases valid request
  generalize (ask request a).1 = answer, (ask request a).2 = after at asked ⊢
  cases asked with
  | assigned _ _ took => exact lockstep.assigned _ _ took.taken
  | refused => exact lockstep
  | @released given =>
    have fewer := (Range.release_taken valid given).2
    constructor
    · intro address owner known
      rw [release,lookup_drop] at known
      split at known
      · cases known
      · rename_i apart
        exact (fewer address).mpr ⟨apart,lockstep.taken address owner known⟩
    · intro address member unowned
      obtain ⟨apart,member⟩ := (fewer address).mp member
      rw [release,lookup_drop,if_neg apart] at unowned
      exact lockstep.left address member unowned
  | dumped => exact lockstep

theorem Lockstep.ran (lockstep : Lockstep loaded a) (tracks : Tracks s a owners) (requests : List Request) :
    Lockstep loaded (run (requests.map .request) a).2 := by
  induction requests generalizing a owners with
  | nil => exact lockstep
  | cons request rest ih => exact ih (lockstep.asked tracks request) (tracks.asked request)

theorem ask_refused (tracks : Tracks s a owners) (request : Request) (refused : (ask request a).1 = .refused cause) :
    (ask request a).2 = a := by
  obtain ⟨held,valid⟩ := tracks.ranged
  have asked := ask_cases valid request
  rw [refused] at asked
  generalize (ask request a).2 = after at asked ⊢
  cases asked
  rfl

theorem Tracks.owned (tracks : Tracks s a owners) :
    a.owned = a.range.taken.map fun address => (address,(owners address).getD "") := by
  simp only [Allocator.owned,tracks.recorded]

theorem Tracks.status (tracks : Tracks s a owners) :
    a.status = s!"{a.range.used}/{a.capacity} allocated from " ++ a.subnet.text := by
  obtain ⟨held,valid⟩ := tracks.ranged
  rw [Allocator.status,valid.used_taken,Allocator.owned,List.length_map]

theorem texts_nodup {r : Range} {held : Finset Nat} (valid : Range.Holds s r held) :
    (r.taken.map Address.text).Nodup :=
  valid.taken_nodup.map fun _ _ same => Address.text_injective same

-- A new allocator, loaded once or not at all.
def prepared (s : Subnet) (start : Option Source) : Allocator := (run (start.toList.map .restore) (ofSubnet s)).2

theorem prepared_tracks (s : Subnet) (start : Option Source) : Tracks s (prepared s start) fun _ => none := by
  have tracks := (ofSubnet_tracks s).ran (start.toList.map .restore)
  cases start with
  | none => exact tracks
  | some source => exact tracks

theorem prepared_lockstep (s : Subnet) (start : Option Source) :
    Lockstep (prepared s start).range.taken (prepared s start) where
  taken address owner known := by
    rw [(prepared_tracks s start).recorded] at known
    cases known
  left _ member _ := member

-- What the owners, a dump and the errors of an allocator have to do with the calls before.
structure Matches (loaded : List Address) (trace : List (Event × Answer)) (a : Allocator) : Prop where
  recorded : ∀ address, a.owners.lookup address = heldBy trace address
  taken : ∀ address owner, heldBy trace address = some owner → address ∈ a.range.taken
  left : ∀ address ∈ a.range.taken, heldBy trace address = none → address ∈ loaded
  dumped : ask .dump a = (.dumped (a.range.taken.map fun address => (address,(heldBy trace address).getD ""))
    (s!"{a.range.used}/{a.capacity} allocated from " ++ a.subnet.text),a)
  once : (a.range.taken.map Address.text).Nodup
  refused : ∀ request cause, (ask request a).1 = .refused cause → (ask request a).2 = a

-- Owners are those of the calls, after every run of calls on an allocator that is new or loaded once.
theorem owners_match_calls (s : Subnet) (start : Option Source) (requests : List Request) :
    Matches (prepared s start).range.taken (run (requests.map .request) (prepared s start)).1
      (run (requests.map .request) (prepared s start)).2 := by
  have tracks := (prepared_tracks s start).ran (requests.map .request)
  have lockstep := (prepared_lockstep s start).ran (prepared_tracks s start) requests
  obtain ⟨held,valid⟩ := tracks.ranged
  refine ⟨tracks.recorded,fun address owner known => ?_,fun address member unowned => ?_,?_,texts_nodup valid,
    fun request cause => ask_refused tracks request⟩
  · exact lockstep.taken address owner ((tracks.recorded address).trans known)
  · exact lockstep.left address member ((tracks.recorded address).trans unowned)
  · rw [ask,tracks.owned,tracks.status]
    rfl

-- Without an allocation a trace leaves the owner that an address had, unless it is released.
theorem heldFrom_unallocated {address : Address} (before : Option String)
    (unallocated : ∀ e ∈ trace, ∀ owner, change address e ≠ some (some owner)) :
    (∃ e ∈ trace, change address e = some none) ∧ heldFrom before trace address = none ∨
      (∀ e ∈ trace, change address e ≠ some none) ∧ heldFrom before trace address = before := by
  induction trace generalizing before with
  | nil => exact .inr ⟨by simp,rfl⟩
  | cons e rest ih =>
    obtain ⟨first,others⟩ := List.forall_mem_cons.mp unallocated
    have next : heldFrom before (e :: rest) address = heldFrom ((change address e).getD before) rest address := rfl
    rw [next]
    cases means : change address e with
    | none =>
      rcases ih before others with ⟨⟨f,member,released⟩,none_⟩ | ⟨kept,same⟩
      · exact .inl ⟨⟨f,List.mem_cons_of_mem e member,released⟩,none_⟩
      · exact .inr ⟨List.forall_mem_cons.mpr ⟨by simp [means],kept⟩,same⟩
    | some owner =>
      cases owner with
      | some owner => exact absurd means (first owner)
      | none =>
        refine .inl ⟨⟨e,List.mem_cons_self,means⟩,?_⟩
        rcases ih none others with ⟨_,none_⟩ | ⟨_,none_⟩
        · exact none_
        · exact none_

end
end Allocator
end HostNet.Ipam
