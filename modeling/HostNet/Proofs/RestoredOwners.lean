import HostNet.Proofs.AllocationOwners

namespace HostNet.Ipam.Allocator

-- An allocator after some events and a restore.
def restoring (s : Subnet) (earlier : List Event) (source : Source) : Answer × Allocator :=
  serve (.restore source) (run earlier (ofSubnet s)).2

-- An address that a restore brought, that is taken after some more events, and that none of them allocated.
structure Brought (s : Subnet) (earlier : List Event) (source : Source) (later : List Event) (address : Address) :
    Prop where
  restored : (restoring s earlier source).1 = .restored (.ok true)
  came : address ∈ (restoring s earlier source).2.range.taken
  still : address ∈ (run later (restoring s earlier source).2).2.range.taken
  unallocated : ∀ e ∈ (run later (restoring s earlier source).2).1, ∀ owner, change address e ≠ some (some owner)

section
variable {s : Subnet} {earlier later : List Event} {source : Source} {address : Address} {a : Allocator}

theorem run_events (events : List Event) (a : Allocator) : (run events a).1.map Prod.fst = events := by
  induction events generalizing a with
  | nil => rfl
  | cons event rest ih => exact congrArg (event :: ·) (ih (serve event a).2)

theorem change_released (event : Event) (answer : Answer) :
    change address (event,answer) = some none ↔ ∃ pool, event = .request (.release address pool) := by
  cases event with
  | restore source => simp [change]
  | request request =>
    cases request with
    | allocate given owner pool => cases answer <;> simp [change]
    | allocateNext start owner pool => cases answer <;> simp [change]
    | release given pool => simp [change]
    | dump => simp [change]

theorem released_iff : (∃ e ∈ (run later a).1, change address e = some none) ↔
    ∃ pool, .request (.release address pool) ∈ later := by
  conv_rhs => rw [← run_events later a]
  constructor
  · rintro ⟨⟨event,answer⟩,member,released⟩
    obtain ⟨pool,same⟩ := (change_released event answer).mp released
    exact ⟨pool,List.mem_map.mpr ⟨_,member,same⟩⟩
  · rintro ⟨pool,member⟩
    obtain ⟨⟨event,answer⟩,among,same⟩ := List.mem_map.mp member
    exact ⟨_,among,(change_released event answer).mpr ⟨pool,same⟩⟩

theorem restoring_tracks (s : Subnet) (earlier : List Event) (source : Source) :
    Tracks s (restoring s earlier source).2 (heldBy (run earlier (ofSubnet s)).1) :=
  ((ofSubnet_tracks s).ran earlier).served (.restore source)

theorem Tracks.mem_owned {owners : Address → Option String} (tracks : Tracks s a owners) (owner : String) :
    (address,owner) ∈ a.owned ↔ address ∈ a.range.taken ∧ owner = (owners address).getD "" := by
  rw [tracks.owned,List.mem_map]
  constructor
  · rintro ⟨other,member,same⟩
    cases same
    exact ⟨member,rfl⟩
  · rintro ⟨member,rfl⟩
    exact ⟨address,member,rfl⟩

-- An address that a restore brought is told without an owner exactly if it was released since, or nobody had it before:
-- the restore itself forgets no owner. Any other owner that is told had the address before.
theorem brought_unowned_exactly (brought : Brought s earlier source later address) :
    (∃! owner, (address,owner) ∈ (run later (restoring s earlier source).2).2.owned) ∧
    ((address,"") ∈ (run later (restoring s earlier source).2).2.owned ↔
      (∃ pool, .request (.release address pool) ∈ later) ∨
        (heldBy (run earlier (ofSubnet s)).1 address).getD "" = "") ∧
    ∀ owner, (address,owner) ∈ (run later (restoring s earlier source).2).2.owned → owner ≠ "" →
      heldBy (run earlier (ofSubnet s)).1 address = some owner := by
  have tracks := (restoring_tracks s earlier source).ran later
  have told : ∀ owner, (address,owner) ∈ (run later (restoring s earlier source).2).2.owned ↔
      owner = (heldFrom (heldBy (run earlier (ofSubnet s)).1 address)
        (run later (restoring s earlier source).2).1 address).getD "" := by
    intro owner
    rw [tracks.mem_owned]
    exact ⟨And.right,fun same => ⟨brought.still,same⟩⟩
  refine ⟨⟨_,(told _).mpr rfl,fun owner member => (told owner).mp member⟩,?_⟩
  simp only [told,← released_iff (a := (restoring s earlier source).2)]
  rcases heldFrom_unallocated (heldBy (run earlier (ofSubnet s)).1 address) brought.unallocated with
    ⟨released,none_⟩ | ⟨kept,same⟩
  · rw [none_]
    exact ⟨iff_of_true rfl (.inl released),fun owner empty filled => absurd empty filled⟩
  · rw [same]
    have unreleased : ¬∃ e ∈ (run later (restoring s earlier source).2).1, change address e = some none :=
      fun ⟨e,member,released⟩ => kept e member released
    constructor
    · rw [or_iff_right unreleased]
      exact eq_comm
    · intro owner known filled
      cases held : heldBy (run earlier (ofSubnet s)).1 address with
      | none =>
        rw [held] at known
        exact absurd known filled
      | some other =>
        rw [held] at known
        rw [known]
        rfl

end

section
def hosts : Subnet := .ofAddress (.ofNat .v4 0x0a1e0000) 28

def first : Address := .ofNat .v4 0x0a1e0001

-- The first address, and no other.
def saved : Source := .snapshot ⟨hosts,"AQ=="⟩

def given : List Event := [.request (.allocate first "pod-a" hostScope)]

def givenBack : List Event := given ++ [.request (.release first hostScope)]

theorem released_brought : Brought hosts givenBack saved [] first ∧
    (first,"") ∈ (restoring hosts givenBack saved).2.owned := by
  have brought : Brought hosts givenBack saved [] first :=
    ⟨by decide +kernel,by decide +kernel,by decide +kernel,fun _ member => by cases member⟩
  refine ⟨brought,(brought_unowned_exactly brought).2.1.mpr (.inr ?_)⟩
  decide +kernel

-- An owner from before a restore is told after it.
theorem owner_survives : Brought hosts given saved [] first ∧
    (first,"") ∉ (restoring hosts given saved).2.owned ∧
    (first,"pod-a") ∈ (restoring hosts given saved).2.owned :=
  ⟨⟨by decide +kernel,by decide +kernel,by decide +kernel,fun _ member => by cases member⟩,by decide +kernel,
    by decide +kernel⟩

end
end HostNet.Ipam.Allocator
