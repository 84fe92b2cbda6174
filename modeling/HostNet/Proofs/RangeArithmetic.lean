import HostNet.Proofs.RangeRequests

namespace HostNet.Ipam

-- Numbers of a limited width: none where a result has no room or would be negative.
namespace Words

def add (width x y : Nat) : Option Nat := if x + y < 2 ^ width then some (x + y) else none

def sub (x y : Nat) : Option Nat := if y ≤ x then some (x - y) else none

-- One, moved to the left by less than the width.
def shift (width places : Nat) : Option Nat := if places < width then some (1 <<< places) else none

theorem add_fits {width x y : Nat} (fits : x + y < 2 ^ width) : add width x y = some (x + y) := if_pos fits

theorem sub_fits {x y : Nat} (fits : y ≤ x) : sub x y = some (x - y) := if_pos fits

theorem shift_fits {width places : Nat} (fits : places < width) : shift width places = some (1 <<< places) :=
  if_pos fits

end Words

namespace Range

def sizeInWords (s : Subnet) : Option Nat :=
  if s.hostBits ≤ 1 then some 0
  else match s.family with
    | .v6 => if 16 ≤ s.hostBits then some 65536 else Words.shift 64 s.hostBits
    | .v4 => Words.shift 64 s.hostBits

-- The first place of a range and how many it has.
def layoutInWords (s : Subnet) : Option (Nat × Nat) := do
  let size ← sizeInWords s
  if 2 < size then return (← Words.add 128 s.start 1,← Words.sub size 2)
  else return (s.start,size)

def searchInWords (bits : Bits) (max start step : Nat) : Nat → Option (Option Nat)
  | 0 => some none
  | left + 1 => do
    let place ← Words.add 64 start step
    if bits.get (place % max) then searchInWords bits max start (step + 1) left
    else return some (place % max)

def takeInWords (m : Bitmap) (offset : Nat) : Option Bitmap := do
  return { m with bits := m.bits.set offset,count := ← Words.add 64 m.count 1 }

def dropInWords (m : Bitmap) (offset : Nat) : Option Bitmap := do
  return { m with bits := m.bits.clear offset,count := ← Words.sub m.count 1 }

def visitInWords (r : Range) : List Nat → Option (List Address)
  | [] => some []
  | offset :: rest => do
    let value ← Words.add 128 r.subnet.start (← Words.add 128 offset 1)
    let others ← visitInWords r rest
    return ((Address.ofNat? r.subnet.family value).filter r.subnet.contains).toList ++ others

-- The requests with all sums and differences of offsets, counts and addresses formed in words. A search begins below
-- the number of offsets. The offset of an address needs none: an address before the first place is told apart first.
def serveInWords : Request → Range → Option (Answer × Range)
  | .allocate a,r =>
    match r.offset? a with
    | none => some (.refused (.notInRange r.subnet),r)
    | some offset =>
      if r.bitmap.max ≤ offset ∨ r.bitmap.bits.get offset = true then some (.refused .allocated,r)
      else do return (.done,{ r with bitmap := ← takeInWords r.bitmap offset })
  | .allocateNext start,r =>
    if r.bitmap.max = 0 ∨ r.bitmap.max ≤ r.bitmap.count then some (.refused .full,r)
    else do
      match ← searchInWords r.bitmap.bits r.bitmap.max (start % r.bitmap.max) 0 r.bitmap.max with
      | none => return (.refused .full,r)
      | some offset =>
        let after := { r with bitmap := ← takeInWords r.bitmap offset }
        match Address.ofNat? r.subnet.family (← Words.add 128 r.base offset) with
        | some a => return (.address a,after)
        | none => return (.refused .full,after)
  | .release a,r =>
    match r.offset? a with
    | none => some (.done,r)
    | some offset =>
      if r.bitmap.max ≤ offset ∨ r.bitmap.bits.get offset = false then some (.done,r)
      else do return (.done,{ r with bitmap := ← dropInWords r.bitmap offset })
  | .forEach,r => do return (.visited (← visitInWords r r.bitmap.taken),r)
  | .counts,r => do
    let left ← Words.sub r.max r.bitmap.count
    return (.counts (← Words.sub r.max left) left r.max,r)
  | .has a,r => some (serve (.has a) r)
  | .restore net bytes,r => some (serve (.restore net bytes) r)

variable {s : Subnet} {r : Range} {held : Finset Nat} {offset : Nat}

theorem hostBits_le (s : Subnet) : s.hostBits ≤ s.family.width := Nat.sub_le _ _

theorem sizeInWords_exact (s : Subnet) : sizeInWords s = some s.rangeSize := by
  have most := hostBits_le s
  unfold sizeInWords Subnet.rangeSize
  split
  · rfl
  · cases family : s.family with
    | v4 =>
      have narrow : s.hostBits < 64 := by rw [family] at most; exact Nat.lt_of_le_of_lt most (by decide)
      exact Words.shift_fits narrow
    | v6 =>
      by_cases wide : 16 ≤ s.hostBits
      · simp [wide]
      · simp [wide,Words.shift_fits (show s.hostBits < 64 by omega),Subnet.size]

theorem size_le (family : Family) : family.size ≤ 2 ^ 128 := by cases family <;> decide

theorem layoutInWords_exact (s : Subnet) :
    layoutInWords s.trunc = some ((ofSubnet s).base,(ofSubnet s).max) := by
  have within := Nat.le_trans s.trunc.start_fits (size_le _)
  unfold layoutInWords
  rw [sizeInWords_exact]
  rcases s.trunc.rangeSize_cases with ⟨size,none_⟩ | ⟨size,some_,room⟩
  · simp [base,ofSubnet,max,Bitmap.empty,usable,size]
  · have large : 2 < s.trunc.rangeSize := by omega
    simp [base,ofSubnet,max,Bitmap.empty,usable,large,Words.add_fits (show s.trunc.start + 1 < 2 ^ 128 by omega),
      Words.sub_fits (Nat.le_of_lt large)]

theorem slots_small (s : Subnet) : s.slots < 2 ^ 32 := by
  have most := hostBits_le s
  unfold Subnet.slots
  split
  · decide
  · split
    · rename_i narrow
      have bits : s.hostBits ≤ 32 := by
        rcases narrow with family | few
        · rw [family] at most; exact most
        · omega
      have := Nat.pow_le_pow_right (show 0 < 2 by decide) bits
      omega
    · decide

theorem searchInWords_exact (bits : Bits) {max start : Nat} (small : max < 2 ^ 32) (begun : start < max)
    (step left : Nat) (near : step + left ≤ max) :
    searchInWords bits max start step left = some (Strategy.search bits max (start + step) left) := by
  induction left generalizing step with
  | zero => rfl
  | succ left ih =>
    rw [searchInWords,Strategy.search,Words.add_fits (show start + step < 2 ^ 64 by omega)]
    by_cases taken : bits.get ((start + step) % max) = true
    · simpa [taken,Nat.add_assoc] using ih (step + 1) (by omega)
    · simp [taken]

theorem takeInWords_exact (valid : Holds s r held) (offset : Nat) : takeInWords r.bitmap offset =
    some { r.bitmap with bits := r.bitmap.bits.set offset,count := r.bitmap.count + 1 } := by
  have bounded := valid.marked.card_le
  have small := slots_small s
  have counted := valid.marked.counted
  simp [takeInWords,Words.add_fits (show r.bitmap.count + 1 < 2 ^ 64 by omega)]

-- A taken offset is counted, so there is a number to take one from.
theorem dropInWords_exact (valid : Holds s r held) (taken : offset ∈ held) : dropInWords r.bitmap offset =
    some { r.bitmap with bits := r.bitmap.bits.clear offset,count := r.bitmap.count - 1 } := by
  have several : 1 ≤ r.bitmap.count := by
    rw [valid.marked.counted]
    exact Finset.card_pos.mpr ⟨offset,taken⟩
  simp [dropInWords,Words.sub_fits several]

theorem visitInWords_exact (valid : Holds s r held) (offsets : List Nat)
    (inside : ∀ offset ∈ offsets, offset < s.slots) :
    visitInWords r offsets = some (offsets.filterMap fun offset => r.subnet.indexed? (offset + 1)) := by
  induction offsets with
  | nil => rfl
  | cons offset rest ih =>
    obtain ⟨first,others⟩ := List.forall_mem_cons.mp inside
    have within := Nat.le_trans s.start_fits (size_le _)
    have near := Subnet.slots_fit first
    have place : r.subnet.start = s.start := by rw [valid.laid,s.trunc_start]
    have known : r.subnet.indexed? (offset + 1) = some (s.addressAt offset) := by
      rw [valid.laid,indexed_addressAt first]
    rw [visitInWords,place,Words.add_fits (show offset + 1 < 2 ^ 128 by omega)]
    simp only [Option.bind_eq_bind,Option.bind_some]
    rw [Words.add_fits (show s.start + (offset + 1) < 2 ^ 128 by omega),ih others,← place]
    rw [List.filterMap_cons,known]
    unfold Subnet.indexed? at known
    simp [known]

theorem allocateInWords_exact (valid : Holds s r held) (a : Address) :
    serveInWords (.allocate a) r = some (serve (.allocate a) r) := by
  unfold serveInWords
  cases place : r.offset? a with
  | none => simp [serve_allocate,place]
  | some offset =>
    by_cases beyond : r.bitmap.max ≤ offset
    · simp [serve_allocate,place,Bitmap.allocate?,beyond]
    · by_cases taken : r.bitmap.bits.get offset = true
      · simp [serve_allocate,place,Bitmap.allocate?,taken]
      · simp [serve_allocate,place,Bitmap.allocate?,beyond,taken,takeInWords_exact valid offset]

theorem nextInWords_exact (valid : Holds s r held) (start : Nat) :
    serveInWords (.allocateNext start) r = some (serve (.allocateNext start) r) := by
  by_cases idle : r.bitmap.max = 0 ∨ r.bitmap.max ≤ r.bitmap.count
  · simp [serveInWords,serve_allocateNext,Bitmap.allocateNext,Strategy.scan,idle]
  · have range := valid.marked.range
    have several : 0 < r.bitmap.max := by omega
    have small : r.bitmap.max < 2 ^ 32 := range ▸ slots_small s
    have begun := Nat.mod_lt start several
    have searched := searchInWords_exact r.bitmap.bits small begun 0 r.bitmap.max (by omega)
    rw [Nat.add_zero,Strategy.search_mod _ _ _ start _ (Nat.mod_mod _ _)] at searched
    cases found : Strategy.search r.bitmap.bits r.bitmap.max start r.bitmap.max with
    | none => simp [serveInWords,serve_allocateNext,Bitmap.allocateNext,Strategy.scan,idle,searched,found]
    | some offset =>
      have inside : offset < s.slots := range ▸ (Strategy.search_some found several).1
      have stored : ¬r.bitmap.bits.capacity ≤ offset :=
        Nat.not_le.mpr (Nat.lt_of_lt_of_le inside valid.marked.stored)
      have place : r.base + offset < 2 ^ 128 := by
        have near := Subnet.slots_fit inside
        have within := Nat.le_trans s.start_fits (size_le _)
        have base := base_start valid.laid (Nat.zero_lt_of_lt inside)
        omega
      have known := next_addressAt valid.laid inside
      simp [serveInWords,serve_allocateNext,Bitmap.allocateNext,Strategy.scan,idle,searched,found,
        stored,known,takeInWords_exact valid offset,Words.add_fits place]

theorem releaseInWords_exact (valid : Holds s r held) (a : Address) :
    serveInWords (.release a) r = some (serve (.release a) r) := by
  cases place : r.offset? a with
  | none => simp [serveInWords,serve,release,place]
  | some offset =>
    by_cases beyond : r.bitmap.max ≤ offset
    · simp [serveInWords,serve,release,place,Bitmap.release,beyond]
    · by_cases taken : r.bitmap.bits.get offset = true
      · have dropped := dropInWords_exact valid ((valid.marked.member offset).mp taken)
        simp [serveInWords,serve,release,place,Bitmap.release,beyond,taken,dropped]
      · simp [serveInWords,serve,release,place,Bitmap.release,taken]

-- No sum or difference overflows or goes below zero in any state that a range comes to.
theorem serveInWords_exact (valid : Holds s r held) (request : Request) :
    serveInWords request r = some (serve request r) := by
  cases request with
  | allocate a => exact allocateInWords_exact valid a
  | allocateNext start => exact nextInWords_exact valid start
  | release a => exact releaseInWords_exact valid a
  | has a => rfl
  | forEach =>
    have inside : ∀ offset ∈ r.bitmap.taken, offset < s.slots := valid.taken_inside
    simp [serveInWords,serve,taken,visitInWords_exact valid _ inside]
  | counts =>
    have bounded : r.bitmap.count ≤ r.max := by
      rw [valid.sized,valid.marked.counted]
      exact valid.marked.card_le
    have left : r.free = r.max - r.bitmap.count := rfl
    simp [serveInWords,serve,used,left,Words.sub_fits bounded,Words.sub_fits (Nat.sub_le r.max r.bitmap.count)]
  | restore net bytes => rfl

-- A range of a subnet hands out the usable addresses and no others, as the set of those that are taken says; what it
-- refuses changes nothing, and all that it works out has room in the words that it uses.
theorem usable_addresses_handed_out (s : Subnet) (requests : List Request) :
    layoutInWords s.trunc = some ((ofSubnet s).base,(ofSubnet s).max) ∧
    ∃ held, DictatesAll s ∅ requests (serveAll requests (ofSubnet s)).1 held ∧
      ∀ request, (∃ after, Dictates s held request (serve request (reached s requests)).1 after) ∧
        (∀ cause, (serve request (reached s requests)).1 = .refused cause →
          (serve request (reached s requests)).2 = reached s requests) ∧
        serveInWords request (reached s requests) = some (serve request (reached s requests)) := by
  obtain ⟨held,followed,valid⟩ := serveAll_dictated (ofSubnet_holds s) requests
  refine ⟨layoutInWords_exact s,s.addresses held,followed,fun request => ⟨?_,?_,?_⟩⟩
  · obtain ⟨after,dictated,_⟩ := serve_dictated valid request
    exact ⟨s.addresses after,dictated⟩
  · exact fun cause refused => refused_unchanged valid request refused
  · exact serveInWords_exact valid request

end Range
end HostNet.Ipam
