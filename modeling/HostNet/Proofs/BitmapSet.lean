import HostNet.Ipam.Bitmap
import HostNet.Proofs.BitStorage
import Mathlib.Data.Finset.Sort

namespace HostNet.Ipam.Bitmap

-- A strategy that keeps its promise whatever the storage holds. Each request may bring
-- its own, so a strategy that draws lots is a different one every time.
structure Search where
  find : Strategy
  sound : ∀ bits max count offset, find bits max count = some offset → offset < max ∧ bits.get offset = false

-- A callback may make requests of its own, callbacks included.
inductive Request where
  | allocate (offset : Nat)
  | allocateNext (search : Search)
  | release (offset : Nat)
  | has (offset : Nat)
  | forEach (callback : Nat → List Request)
  | count
  | free
  | snapshot
  | restore (tag : String) (bytes : List UInt8)

-- `broken` stands for an overflow of the counter or an access beyond the storage.
inductive Answer where
  | allocated (ok : Bool)
  | next (offset : Option Nat)
  | released
  | has (taken : Bool)
  | visited (visits : List (Nat × List Answer))
  | number (n : Nat)
  | saved (tag : String) (bytes : List UInt8)
  | restored
  | refused (cause : Error)
  | broken

mutual
def serve : Request → Bitmap → Answer × Bitmap
  | .allocate offset,m =>
    match m.allocate? offset with
    | some after => (.allocated true,after)
    | none => (.allocated false,m)
  | .allocateNext search,m =>
    match m.allocateNext search.find with
    | .none => (.next none,m)
    | .taken offset after => (.next (some offset),after)
    | .outside _ => (.broken,m)
  | .release offset,m =>
    if offset < m.max && m.has offset && m.count == 0 then (.broken,m) else (.released,m.release offset)
  | .has offset,m => (.has (m.has offset),m)
  | .forEach callback,m =>
    let (visits,after) := m.forEach fun offset => serveAll (callback offset)
    (.visited visits,after)
  | .count,m => (.number m.count,m)
  | .free,m => (if m.isOverdrawn then .broken else .number m.free,m)
  | .snapshot,m => (.saved m.tag m.snapshot,m)
  | .restore tag bytes,m =>
    match m.restore tag bytes with
    | .ok after => (.restored,after)
    | .error cause => (.refused cause,m)
termination_by structural request => request
def serveAll : List Request → Bitmap → List Answer × Bitmap
  | [],m => ([],m)
  | request :: rest,m =>
    let (answer,between) := serve request m
    let (answers,after) := serveAll rest between
    (answer :: answers,after)
termination_by structural requests => requests
end

open Bits (bigEndian)

-- What a set of offsets below `max` says to each request, and the set afterwards. Nothing
-- here mentions words, bits or the counter.
mutual
inductive Dictates (max : Nat) (tag : String) : Finset Nat → Request → Answer → Finset Nat → Prop where
  | allocated (inside : offset < max) (clear : offset ∉ held) :
      Dictates max tag held (.allocate offset) (.allocated true) (insert offset held)
  | notAllocated (unfit : max ≤ offset ∨ offset ∈ held) :
      Dictates max tag held (.allocate offset) (.allocated false) held
  | next (inside : offset < max) (clear : offset ∉ held) :
      Dictates max tag held (.allocateNext search) (.next (some offset)) (insert offset held)
  | noNext : Dictates max tag held (.allocateNext search) (.next none) held
  | released : Dictates max tag held (.release offset) .released (held.erase offset)
  | has : Dictates max tag held (.has offset) (.has (decide (offset ∈ held))) held
  | visited (each : DictatesEach max tag callback held (held.sort (· ≤ ·)) visits after) :
      Dictates max tag held (.forEach callback) (.visited visits) after
  | count : Dictates max tag held .count (.number held.card) held
  | free (bounded : held.card ≤ max) : Dictates max tag held .free (.number (max-held.card)) held
  | saved (value : ∀ offset, (bigEndian bytes).testBit offset = true ↔ offset ∈ held)
      (minimal : bytes.head? ≠ some 0) : Dictates max tag held .snapshot (.saved tag bytes) held
  | restored : Dictates max tag held (.restore tag bytes) .restored
      ((Finset.range max).filter fun offset => (bigEndian bytes).testBit offset = true)
  | refused (other : given ≠ tag) :
      Dictates max tag held (.restore given bytes) (.refused (.rangeMismatch tag given)) held
inductive DictatesAll (max : Nat) (tag : String) :
    Finset Nat → List Request → List Answer → Finset Nat → Prop where
  | nil : DictatesAll max tag held [] [] held
  | cons (first : Dictates max tag held request answer between) (below : between ⊆ Finset.range max)
      (others : DictatesAll max tag between requests answers after) :
      DictatesAll max tag held (request :: requests) (answer :: answers) after
inductive DictatesEach (max : Nat) (tag : String) : (Nat → List Request) →
    Finset Nat → List Nat → List (Nat × List Answer) → Finset Nat → Prop where
  | nil : DictatesEach max tag callback held [] [] held
  | cons (called : DictatesAll max tag held (callback offset) answers between)
      (others : DictatesEach max tag callback between rest visits after) :
      DictatesEach max tag callback held (offset :: rest) ((offset,answers) :: visits) after
end

-- The invariant that every request keeps: the counter counts and no bit lies beyond the range.
structure Represents (max : Nat) (tag : String) (m : Bitmap) (held : Finset Nat) : Prop where
  range : m.max = max
  label : m.tag = tag
  stored : max ≤ m.bits.capacity
  member : ∀ offset, m.bits.get offset = true ↔ offset ∈ held
  below : held ⊆ Finset.range max
  counted : m.count = held.card

variable {max : Nat} {tag : String} {m : Bitmap} {held : Finset Nat}

theorem empty_represents (max : Nat) (tag : String) : Represents max tag (empty max tag) ∅ where
  range := rfl
  label := rfl
  stored := Bits.capacity_ofCapacity max
  member offset := by simp [empty,Bits.get_capacity]
  below := Finset.empty_subset _
  counted := rfl

theorem Represents.clear (valid : Represents max tag m held) :
    m.bits.get offset = false ↔ offset ∉ held := by
  rw [← valid.member offset,Bool.not_eq_true]

theorem Represents.card_le (valid : Represents max tag m held) : held.card ≤ max := by
  simpa using Finset.card_le_card valid.below

theorem Represents.inserted (valid : Represents max tag m held) (inside : offset < max)
    (clear : offset ∉ held) :
    Represents max tag {m with bits := m.bits.set offset,count := m.count+1} (insert offset held) where
  range := valid.range
  label := valid.label
  stored := by simpa using valid.stored
  member other := by
    have stored := Nat.lt_of_lt_of_le inside valid.stored
    simp [Bits.get_set,valid.member,stored,or_comm]
  below := by
    rw [Finset.insert_subset_iff,Finset.mem_range]
    exact ⟨inside,valid.below⟩
  counted := by simp [valid.counted,Finset.card_insert_of_notMem clear]

theorem Represents.erased (valid : Represents max tag m held) (taken : offset ∈ held) :
    Represents max tag {m with bits := m.bits.clear offset,count := m.count-1} (held.erase offset) where
  range := valid.range
  label := valid.label
  stored := by simpa using valid.stored
  member other := by simp [Bits.get_clear,valid.member,and_comm]
  below := (Finset.erase_subset _ _).trans valid.below
  counted := by simp [valid.counted,Finset.card_erase_of_mem taken]

-- Nothing happens to an offset that is not taken, wherever it lies.
theorem Represents.released (valid : Represents max tag m held) (offset : Nat) :
    Represents max tag (m.release offset) (held.erase offset) := by
  unfold release
  by_cases taken : offset ∈ held
  · have inside := Finset.mem_range.mp (valid.below taken)
    rw [if_neg (by rw [valid.range]; omega),if_pos ((valid.member offset).mpr taken)]
    exact valid.erased taken
  · rw [Finset.erase_eq_of_notMem taken,valid.clear.mpr taken]
    simpa using valid

theorem Represents.taken_eq (valid : Represents max tag m held) : m.taken = held.sort (· ≤ ·) := by
  have distinct : m.taken.Nodup := (Bits.ones_ascending m.bits).imp Nat.ne_of_lt
  have same : m.taken.toFinset = held := by
    ext offset
    rw [List.mem_toFinset,taken,Bits.mem_ones,valid.member]
  rw [← same,eq_comm,List.toFinset_sort (· ≤ ·) distinct]
  exact (Bits.ones_ascending m.bits).imp Nat.le_of_lt

theorem Represents.restored (valid : Represents max tag m held) (bytes : List UInt8) :
    Represents max tag {m with bits := Bits.ofBytes m.max bytes,count := (Bits.ofBytes m.max bytes).ones.length}
      ((Finset.range max).filter fun offset => (bigEndian bytes).testBit offset = true) where
  range := valid.range
  label := valid.label
  stored := by
    rw [valid.range,Bits.capacity_ofBytes]
    exact Bits.capacity_ofCapacity max
  member offset := by rw [valid.range,Bits.get_ofBytes,Finset.mem_filter,Finset.mem_range]
  below := Finset.filter_subset _ _
  counted := by
    have distinct : (Bits.ofBytes m.max bytes).ones.Nodup := (Bits.ones_ascending _).imp Nat.ne_of_lt
    change (Bits.ofBytes m.max bytes).ones.length = _
    rw [← List.toFinset_card_of_nodup distinct]
    apply congrArg Finset.card
    ext offset
    rw [List.mem_toFinset,Bits.mem_ones,Bits.get_ofBytes,valid.range,Finset.mem_filter,Finset.mem_range]

theorem allocate_dictated (valid : Represents max tag m held) (offset : Nat) :
    ∃ after, Dictates max tag held (.allocate offset) (serve (.allocate offset) m).1 after ∧
      Represents max tag (serve (.allocate offset) m).2 after := by
  unfold serve allocate?
  by_cases outside : m.max ≤ offset
  · rw [if_pos outside]
    exact ⟨held,.notAllocated (.inl (valid.range ▸ outside)),valid⟩
  · rw [if_neg outside]
    by_cases taken : m.bits.get offset = true
    · rw [if_pos taken]
      exact ⟨held,.notAllocated (.inr ((valid.member offset).mp taken)),valid⟩
    · rw [if_neg taken]
      have clear := valid.clear.mp (Bool.not_eq_true _ ▸ taken)
      have inside : offset < max := valid.range ▸ Nat.lt_of_not_le outside
      exact ⟨_,.allocated inside clear,valid.inserted inside clear⟩

theorem allocateNext_dictated (valid : Represents max tag m held) (search : Search) :
    ∃ after, Dictates max tag held (.allocateNext search) (serve (.allocateNext search) m).1 after ∧
      Represents max tag (serve (.allocateNext search) m).2 after := by
  unfold serve allocateNext
  cases found : search.find m.bits m.max m.count with
  | none => exact ⟨held,.noNext,valid⟩
  | some offset =>
    obtain ⟨inside,clear⟩ := search.sound _ _ _ _ found
    rw [valid.range] at inside
    have clear := valid.clear.mp clear
    simp only [Nat.not_le.mpr (Nat.lt_of_lt_of_le inside valid.stored),if_false]
    exact ⟨_,.next inside clear,valid.inserted inside clear⟩

theorem release_dictated (valid : Represents max tag m held) (offset : Nat) :
    ∃ after, Dictates max tag held (.release offset) (serve (.release offset) m).1 after ∧
      Represents max tag (serve (.release offset) m).2 after := by
  have counted : ¬ (offset < m.max && m.has offset && m.count == 0) = true := by
    intro broken
    simp only [Bool.and_eq_true,beq_iff_eq,has,valid.member,valid.counted,Finset.card_eq_zero] at broken
    rw [broken.2] at broken
    exact absurd broken.1.2 (Finset.notMem_empty offset)
  unfold serve
  rw [if_neg counted]
  exact ⟨held.erase offset,.released,valid.released offset⟩

theorem free_dictated (valid : Represents max tag m held) :
    Dictates max tag held .free (serve .free m).1 held := by
  have bounded := valid.card_le
  unfold serve isOverdrawn free
  rw [valid.range,valid.counted,if_neg (by simpa using bounded)]
  exact .free bounded

theorem restore_dictated (valid : Represents max tag m held) (given : String) (bytes : List UInt8) :
    ∃ after, Dictates max tag held (.restore given bytes) (serve (.restore given bytes) m).1 after ∧
      Represents max tag (serve (.restore given bytes) m).2 after := by
  unfold serve restore
  rw [valid.label]
  by_cases same : tag = given
  · subst given
    simp only [if_true]
    have kept := valid.restored bytes
    rw [valid.label] at kept
    exact ⟨_,.restored,kept⟩
  · simp only [if_neg same]
    exact ⟨held,.refused (Ne.symm same),valid⟩

-- The callback's requests are dictated by the set as they find it; the offsets to visit are
-- those of the set before the first of them.
theorem visits_dictated (callback : Nat → List Request)
    (called : ∀ (offset : Nat) (m : Bitmap) (held : Finset Nat), Represents max tag m held →
      ∃ after, DictatesAll max tag held (callback offset) (serveAll (callback offset) m).1 after ∧
        Represents max tag (serveAll (callback offset) m).2 after)
    (offsets : List Nat) (valid : Represents max tag m held) :
    ∃ after, DictatesEach max tag callback held offsets
        (visitEach (fun offset => serveAll (callback offset)) offsets m).1 after ∧
      Represents max tag (visitEach (fun offset => serveAll (callback offset)) offsets m).2 after := by
  induction offsets generalizing m held with
  | nil => exact ⟨held,.nil,valid⟩
  | cons offset rest ih =>
    obtain ⟨between,first,kept⟩ := called offset m held valid
    obtain ⟨after,others,last⟩ := ih kept
    exact ⟨after,.cons first others,last⟩

mutual
theorem serve_dictated (request : Request) (m : Bitmap) (held : Finset Nat)
    (valid : Represents max tag m held) : ∃ after,
      Dictates max tag held request (serve request m).1 after ∧ Represents max tag (serve request m).2 after := by
  cases request with
  | allocate offset => exact allocate_dictated valid offset
  | allocateNext search => exact allocateNext_dictated valid search
  | release offset => exact release_dictated valid offset
  | has offset =>
    refine ⟨held,?_,valid⟩
    have answer : m.has offset = decide (offset ∈ held) := by
      rw [Bool.eq_iff_iff,has,valid.member,decide_eq_true_eq]
    unfold serve
    rw [answer]
    exact .has
  | forEach callback =>
    have each := visits_dictated callback (fun offset => serveAll_dictated (callback offset)) m.taken valid
    obtain ⟨after,visited,kept⟩ := each
    refine ⟨after,?_,kept⟩
    rw [valid.taken_eq] at visited
    unfold serve forEach
    rw [valid.taken_eq]
    exact .visited visited
  | count =>
    refine ⟨held,?_,valid⟩
    unfold serve
    rw [valid.counted]
    exact .count
  | free => exact ⟨held,free_dictated valid,valid⟩
  | snapshot =>
    refine ⟨held,?_,valid⟩
    unfold serve
    rw [valid.label]
    exact .saved (fun offset => by rw [snapshot,Bits.testBit_toBytes,valid.member]) (Bits.toBytes_head m.bits)
  | restore given bytes => exact restore_dictated valid given bytes
termination_by structural request
theorem serveAll_dictated (requests : List Request) (m : Bitmap) (held : Finset Nat)
    (valid : Represents max tag m held) : ∃ after,
      DictatesAll max tag held requests (serveAll requests m).1 after ∧
        Represents max tag (serveAll requests m).2 after := by
  cases requests with
  | nil => exact ⟨held,.nil,valid⟩
  | cons request rest =>
    obtain ⟨between,first,kept⟩ := serve_dictated request m held valid
    obtain ⟨after,others,last⟩ := serveAll_dictated rest (serve request m).2 between kept
    exact ⟨after,.cons first kept.below others,last⟩
termination_by structural requests
end

theorem requests_follow_set (max : Nat) (tag : String) (requests : List Request) : ∃ held,
    DictatesAll max tag ∅ requests (serveAll requests (empty max tag)).1 held ∧
      Represents max tag (serveAll requests (empty max tag)).2 held :=
  serveAll_dictated requests _ ∅ (empty_represents max tag)

end HostNet.Ipam.Bitmap
