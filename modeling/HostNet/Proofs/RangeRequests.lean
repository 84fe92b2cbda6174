import HostNet.Proofs.FreeOffsets
import HostNet.Proofs.UsableAddresses

namespace HostNet.Ipam.Range
open Bits (bigEndian)

-- What a range is asked for. The search for any address begins where it is told to.
inductive Request where
  | allocate (address : Address)
  | allocateNext (start : Nat)
  | release (address : Address)
  | has (address : Address)
  | forEach
  | counts
  | restore (net : Subnet) (bytes : List UInt8)

inductive Answer where
  | done
  | address (a : Address)
  | has (taken : Bool)
  | visited (addresses : List Address)
  | counts (used free max : Nat)
  | refused (cause : Error)

def told (answer : α → Answer) : Except Error α × Range → Answer × Range
  | (.ok a,r) => (answer a,r)
  | (.error cause,r) => (.refused cause,r)

def serve : Request → Range → Answer × Range
  | .allocate a,r => told (fun _ => .done) ((allocate a).outcome r)
  | .allocateNext start,r => told .address ((allocateNext start).outcome r)
  | .release a,r => (.done,r.release a)
  | .has a,r => (.has (r.has a),r)
  | .forEach,r => (.visited r.taken,r)
  | .counts,r => (.counts r.used r.free r.max,r)
  | .restore net bytes,r => told (fun _ => .done) ((restore net bytes).outcome r)

def serveAll : List Request → Range → List Answer × Range
  | [],r => ([],r)
  | request :: rest,r =>
    let (answer,between) := serve request r
    let (answers,after) := serveAll rest between
    (answer :: answers,after)

-- Where a new range comes to by some requests.
def reached (s : Subnet) (requests : List Request) : Range := (serveAll requests (ofSubnet s)).2

-- What a set of usable addresses says to each request, and the set afterwards. Nothing here mentions offsets, but for
-- the bytes of a saved state, whose binary digits stand for the addresses from the first usable one on.
inductive Dictates (s : Subnet) : Finset Address → Request → Answer → Finset Address → Prop where
  | allocated (usable : s.Usable a) (clear : a ∉ held) : Dictates s held (.allocate a) .done (insert a held)
  | alreadyAllocated (usable : s.Usable a) (taken : a ∈ held) :
      Dictates s held (.allocate a) (.refused .allocated) held
  | notInRange (outside : ¬s.Usable a) : Dictates s held (.allocate a) (.refused (.notInRange s.trunc)) held
  | next (usable : s.Usable a) (clear : a ∉ held) :
      Dictates s held (.allocateNext start) (.address a) (insert a held)
  | full (all : ∀ a, s.Usable a → a ∈ held) : Dictates s held (.allocateNext start) (.refused .full) held
  | released : Dictates s held (.release a) .done (held.erase a)
  | has : Dictates s held (.has a) (.has (decide (a ∈ held))) held
  | visited (exactly : ∀ a, a ∈ addresses ↔ a ∈ held) (ascending : addresses.Pairwise (·.value < ·.value)) :
      Dictates s held .forEach (.visited addresses) held
  | counts (whole : held.card + left = s.slots) : Dictates s held .counts (.counts held.card left s.slots) held
  | restored (exactly : ∀ a, a ∈ after ↔
        s.Usable a ∧ (bigEndian bytes).testBit (a.value - (s.start + 1)) = true) :
      Dictates s held (.restore s.trunc bytes) .done after
  | mismatched (other : net ≠ s.trunc) :
      Dictates s held (.restore net bytes) (.refused .mismatchedNetwork) held

inductive DictatesAll (s : Subnet) : Finset Address → List Request → List Answer → Finset Address → Prop where
  | nil : DictatesAll s held [] [] held
  | cons (first : Dictates s held request answer between) (usable : ∀ a ∈ between, s.Usable a)
      (others : DictatesAll s between requests answers after) :
      DictatesAll s held (request :: requests) (answer :: answers) after

-- The invariant: the range of the subnet, with the offsets that are taken.
structure Holds (s : Subnet) (r : Range) (held : Finset Nat) : Prop where
  laid : r.subnet = s.trunc
  marked : r.bitmap.Represents s.slots s.trunc.text held

variable {s : Subnet} {r : Range} {held : Finset Nat} {offset : Nat}

theorem serve_allocate (a : Address) (r : Range) : serve (.allocate a) r =
    match r.offset? a with
    | none => (.refused (.notInRange r.subnet),r)
    | some offset =>
      match r.bitmap.allocate? offset with
      | none => (.refused .allocated,r)
      | some m => (.done,{ r with bitmap := m }) := by
  cases place : r.offset? a with
  | none => simp [serve,allocate,Step.update,Step.outcome,told,place]
  | some offset => cases taken : r.bitmap.allocate? offset <;>
      simp [serve,allocate,Step.update,Step.outcome,told,place,taken]

theorem serve_allocateNext (start : Nat) (r : Range) : serve (.allocateNext start) r =
    match r.bitmap.allocateNext (.scan start) with
    | .taken offset m =>
      match Address.ofNat? r.subnet.family (r.base + offset) with
      | some a => (.address a,{ r with bitmap := m })
      | none => (.refused .full,{ r with bitmap := m })
    | _ => (.refused .full,r) := by
  cases searched : r.bitmap.allocateNext (.scan start) with
  | none => simp [serve,allocateNext,Step.outcome,told,searched]
  | outside offset => simp [serve,allocateNext,Step.outcome,told,searched]
  | taken offset m => cases place : Address.ofNat? r.subnet.family (r.base + offset) <;>
      simp [serve,allocateNext,Step.outcome,told,searched,place]

theorem serve_restore (net : Subnet) (bytes : List UInt8) (r : Range) : serve (.restore net bytes) r =
    if net = r.subnet then
      match r.bitmap.restore net.text bytes with
      | .ok m => (.done,{ r with bitmap := m })
      | .error cause => (.refused cause,r)
    else (.refused .mismatchedNetwork,r) := by
  rcases eq_or_ne net r.subnet with rfl | other
  · cases read : r.bitmap.restore r.subnet.text bytes <;>
      simp [serve,restore,Step.update,Step.outcome,told,Except.map,read]
  · simp [serve,restore,Step.update,Step.outcome,told,other]

theorem ofSubnet_holds (s : Subnet) : Holds s (ofSubnet s) ∅ where
  laid := rfl
  marked := by
    have slots : usable s.trunc = s.slots := usable_slots s.trunc
    rw [ofSubnet,slots]
    exact Bitmap.empty_represents _ _

namespace Holds

theorem sized (valid : Holds s r held) : r.max = s.slots := valid.marked.range

theorem below (valid : Holds s r held) : held ⊆ Finset.range s.slots := valid.marked.below

theorem offset_some (valid : Holds s r held) :
    r.offset? a = some offset ↔ offset < s.slots ∧ s.addressAt offset = a :=
  Range.offset_some valid.laid valid.sized

theorem offset_at (valid : Holds s r held) (inside : offset < s.slots) :
    r.offset? (s.addressAt offset) = some offset := valid.offset_some.mpr ⟨inside,rfl⟩

theorem offset_none (valid : Holds s r held) : r.offset? a = none ↔ ¬s.Usable a :=
  Range.offset_none valid.laid valid.sized

theorem taken_inside (valid : Holds s r held) (offset : Nat) (member : offset ∈ r.bitmap.taken) :
    offset < s.slots :=
  Finset.mem_range.mp (valid.below ((valid.marked.member offset).mp ((Bits.mem_ones _ _).mp member)))

-- An address outside is neither among the usable ones nor taken.
theorem outside (valid : Holds s r held) (unusable : ¬s.Usable a) : a ∉ s.addresses held :=
  fun member => unusable (Subnet.addresses_usable valid.below member)

theorem released (valid : Holds s r held) (inside : offset < s.slots) :
    Holds s (r.release (s.addressAt offset)) (held.erase offset) := by
  unfold release
  rw [valid.offset_at inside]
  exact ⟨valid.laid,valid.marked.released offset⟩

theorem inserted (valid : Holds s r held) (inside : offset < s.slots) (clear : offset ∉ held) :
    Holds s { r with bitmap := { r.bitmap with bits := r.bitmap.bits.set offset,count := r.bitmap.count + 1 } }
      (insert offset held) :=
  ⟨valid.laid,valid.marked.inserted inside clear⟩

end Holds

theorem has_decides (valid : Holds s r held) (a : Address) : r.has a = decide (a ∈ s.addresses held) := by
  rw [Bool.eq_iff_iff,decide_eq_true_eq]
  unfold has
  by_cases usable : s.Usable a
  · obtain ⟨offset,inside,rfl⟩ := Subnet.usable_iff.mp usable
    simp only [valid.offset_at inside]
    exact (valid.marked.member offset).trans (Subnet.addressAt_mem valid.below inside).symm
  · simp [valid.offset_none.mpr usable,valid.outside usable]

theorem allocate_dictated (valid : Holds s r held) (a : Address) : ∃ after,
    Dictates s (s.addresses held) (.allocate a) (serve (.allocate a) r).1 (s.addresses after) ∧
      Holds s (serve (.allocate a) r).2 after := by
  by_cases usable : s.Usable a
  · obtain ⟨offset,inside,rfl⟩ := Subnet.usable_iff.mp usable
    have place := valid.offset_at inside
    have within : ¬r.bitmap.max ≤ offset := by rw [valid.marked.range]; omega
    by_cases taken : offset ∈ held
    · have bit := (valid.marked.member offset).mpr taken
      have ran : serve (.allocate (s.addressAt offset)) r = (.refused .allocated,r) := by
        simp [serve_allocate,place,Bitmap.allocate?,within,bit]
      rw [ran]
      exact ⟨held,.alreadyAllocated usable ((Subnet.addressAt_mem valid.below inside).mpr taken),valid⟩
    · have bit := valid.marked.clear.mpr taken
      have ran : serve (.allocate (s.addressAt offset)) r = (.done,
          { r with bitmap := { r.bitmap with bits := r.bitmap.bits.set offset,count := r.bitmap.count + 1 } }) := by
        simp [serve_allocate,place,Bitmap.allocate?,within,bit]
      rw [ran]
      refine ⟨insert offset held,?_,valid.inserted inside taken⟩
      rw [Subnet.addresses_insert]
      exact .allocated usable (mt (Subnet.addressAt_mem valid.below inside).mp taken)
  · have place := valid.offset_none.mpr usable
    have ran : serve (.allocate a) r = (.refused (.notInRange s.trunc),r) := by
      simp [serve_allocate,place,valid.laid]
    rw [ran]
    exact ⟨held,.notInRange usable,valid⟩

-- Asking for any address: all are taken and nothing changes, or one that was free is taken and told.
theorem allocateNext_cases (valid : Holds s r held) (start : Nat) :
    (held = Finset.range s.slots ∧ serve (.allocateNext start) r = (.refused .full,r)) ∨
    ∃ offset < s.slots, offset ∉ held ∧ serve (.allocateNext start) r = (.address (s.addressAt offset),
      { r with bitmap := { r.bitmap with bits := r.bitmap.bits.set offset,count := r.bitmap.count + 1 } }) := by
  rcases Bitmap.allocateNext_cases valid.marked start with ⟨full,ran⟩ | ⟨offset,inside,clear,ran⟩
  · exact .inl ⟨full,by simp [serve_allocateNext,ran]⟩
  · have found := next_addressAt valid.laid inside
    exact .inr ⟨offset,inside,clear,by simp [serve_allocateNext,ran,found]⟩

theorem allocateNext_dictated (valid : Holds s r held) (start : Nat) : ∃ after,
    Dictates s (s.addresses held) (.allocateNext start) (serve (.allocateNext start) r).1 (s.addresses after) ∧
      Holds s (serve (.allocateNext start) r).2 after := by
  rcases allocateNext_cases valid start with ⟨full,ran⟩ | ⟨offset,inside,clear,ran⟩
  · rw [ran]
    exact ⟨held,.full ((Subnet.addresses_all valid.below).mpr full),valid⟩
  · rw [ran]
    refine ⟨insert offset held,?_,valid.inserted inside clear⟩
    rw [Subnet.addresses_insert]
    exact .next (Subnet.addressAt_usable inside) (mt (Subnet.addressAt_mem valid.below inside).mp clear)

theorem release_dictated (valid : Holds s r held) (a : Address) : ∃ after,
    Dictates s (s.addresses held) (.release a) (serve (.release a) r).1 (s.addresses after) ∧
      Holds s (serve (.release a) r).2 after := by
  by_cases usable : s.Usable a
  · obtain ⟨offset,inside,rfl⟩ := Subnet.usable_iff.mp usable
    refine ⟨held.erase offset,?_,valid.released inside⟩
    rw [Subnet.addresses_erase valid.below inside]
    exact .released
  · have unchanged : r.release a = r := by simp [release,valid.offset_none.mpr usable]
    refine ⟨held,?_,by simpa [serve,unchanged] using valid⟩
    have freed : Dictates s (s.addresses held) (.release a) .done ((s.addresses held).erase a) := .released
    rwa [Finset.erase_eq_of_notMem (valid.outside usable)] at freed

-- The offsets ascend, and so do their addresses.
theorem forEach_dictated (valid : Holds s r held) :
    Dictates s (s.addresses held) .forEach (.visited r.taken) (s.addresses held) := by
  have inside := valid.taken_inside
  have listed : r.taken = r.bitmap.taken.map s.addressAt := by
    unfold taken
    rw [← List.filterMap_eq_map]
    refine List.filterMap_congr fun offset member => ?_
    rw [valid.laid,indexed_addressAt (inside offset member),Function.comp_apply]
  rw [listed]
  refine .visited (fun a => ?_) (List.pairwise_map.mpr ?_)
  · simp [Subnet.mem_addresses,Bitmap.taken,Bits.mem_ones,valid.marked.member]
  · refine (Bits.ones_ascending r.bitmap.bits).imp_of_mem fun {one two} first second less => ?_
    rw [Subnet.addressAt_value (inside one first),Subnet.addressAt_value (inside two second)]
    omega

theorem counts_dictated (valid : Holds s r held) :
    Dictates s (s.addresses held) .counts (.counts r.used r.free r.max) (s.addresses held) := by
  have bounded := valid.marked.card_le
  have free_ : r.free = s.slots - held.card := by
    rw [free,Bitmap.free,valid.marked.range,valid.marked.counted]
  have used_ : r.used = (s.addresses held).card := by
    rw [used,free_,valid.sized,Subnet.addresses_card valid.below]
    omega
  rw [used_,valid.sized]
  refine .counts ?_
  rw [Subnet.addresses_card valid.below,free_]
  omega

theorem restore_dictated (valid : Holds s r held) (net : Subnet) (bytes : List UInt8) : ∃ after,
    Dictates s (s.addresses held) (.restore net bytes) (serve (.restore net bytes) r).1 (s.addresses after) ∧
      Holds s (serve (.restore net bytes) r).2 after := by
  by_cases same : net = s.trunc
  · subst same
    have ran : serve (.restore s.trunc bytes) r = (.done,{ r with bitmap := { r.bitmap with
        bits := .ofBytes r.bitmap.max bytes,count := (Bits.ofBytes r.bitmap.max bytes).ones.length } }) := by
      simp [serve_restore,valid.laid,Bitmap.restore,valid.marked.label]
    rw [ran]
    refine ⟨_,.restored fun a => ?_,valid.laid,valid.marked.restored bytes⟩
    rw [Subnet.mem_addresses]
    constructor
    · rintro ⟨offset,member,rfl⟩
      obtain ⟨inside,bit⟩ := Finset.mem_filter.mp member
      have inside := Finset.mem_range.mp inside
      refine ⟨Subnet.addressAt_usable inside,?_⟩
      rwa [Subnet.addressAt_value inside,Nat.add_sub_cancel_left]
    · rintro ⟨usable,bit⟩
      obtain ⟨offset,inside,rfl⟩ := Subnet.usable_iff.mp usable
      rw [Subnet.addressAt_value inside,Nat.add_sub_cancel_left] at bit
      exact ⟨offset,Finset.mem_filter.mpr ⟨Finset.mem_range.mpr inside,bit⟩,rfl⟩
  · have ran : serve (.restore net bytes) r = (.refused .mismatchedNetwork,r) := by
      simp [serve_restore,valid.laid,same]
    rw [ran]
    exact ⟨held,.mismatched same,valid⟩

theorem serve_dictated (valid : Holds s r held) (request : Request) : ∃ after,
    Dictates s (s.addresses held) request (serve request r).1 (s.addresses after) ∧
      Holds s (serve request r).2 after := by
  cases request with
  | allocate a => exact allocate_dictated valid a
  | allocateNext start => exact allocateNext_dictated valid start
  | release a => exact release_dictated valid a
  | has a =>
    refine ⟨held,?_,valid⟩
    simp only [serve,has_decides valid]
    exact .has
  | forEach => exact ⟨held,forEach_dictated valid,valid⟩
  | counts => exact ⟨held,counts_dictated valid,valid⟩
  | restore net bytes => exact restore_dictated valid net bytes

theorem serveAll_dictated (valid : Holds s r held) (requests : List Request) : ∃ after,
    DictatesAll s (s.addresses held) requests (serveAll requests r).1 (s.addresses after) ∧
      Holds s (serveAll requests r).2 after := by
  induction requests generalizing r held with
  | nil => exact ⟨held,.nil,valid⟩
  | cons request rest ih =>
    obtain ⟨between,first,kept⟩ := serve_dictated valid request
    obtain ⟨after,others,last⟩ := ih kept
    exact ⟨after,.cons first (fun a member => Subnet.addresses_usable kept.below member) others,last⟩

theorem reached_holds (s : Subnet) (requests : List Request) : ∃ held, Holds s (reached s requests) held := by
  obtain ⟨held,_,valid⟩ := serveAll_dictated (ofSubnet_holds s) requests
  exact ⟨held,valid⟩

theorem update_refused {f : Range → Except Error Range}
    (refused : (told (fun _ => .done) ((Step.update f).outcome r)).1 = .refused cause) :
    (told (fun _ => .done) ((Step.update f).outcome r)).2 = r := by
  cases changed : f r with
  | ok t => simp [Step.update,Step.outcome,told,changed] at refused
  | error e => simp [Step.update,Step.outcome,told,changed]

-- A request that is refused leaves the range as it is.
theorem refused_unchanged (valid : Holds s r held) (request : Request)
    (refused : (serve request r).1 = .refused cause) : (serve request r).2 = r := by
  cases request with
  | allocate a => exact update_refused refused
  | allocateNext start =>
    rcases allocateNext_cases valid start with ⟨_,ran⟩ | ⟨offset,_,_,ran⟩
    · rw [ran]
    · rw [ran] at refused
      cases refused
  | release a => cases refused
  | has a => rfl
  | forEach => rfl
  | counts => rfl
  | restore net bytes => exact update_refused refused

end HostNet.Ipam.Range
