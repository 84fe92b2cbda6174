import HostNet.Ipam.Range
import HostNet.Proofs.SubnetGateways
import Mathlib.Data.Finset.Card
import Mathlib.Data.Finset.Image

namespace HostNet.Subnet

-- How many addresses of a subnet are handed out: all but the first and the last, if
-- there are others, and of a large one of the wide family those in its first part.
def slots (s : Subnet) : Nat :=
  if s.hostBits ≤ 1 then 0
  else if s.family = .v4 ∨ s.hostBits ≤ 16 then 2 ^ s.hostBits - 2
  else 65534

-- These addresses follow the network address.
def Usable (s : Subnet) (a : Address) : Prop :=
  a.family = s.family ∧ s.start < a.value ∧ a.value ≤ s.start + s.slots

def addressAt (s : Subnet) (offset : Nat) : Address := .ofNat s.family (s.start + 1 + offset)

def addresses (s : Subnet) (held : Finset Nat) : Finset Address := held.image s.addressAt

variable {s : Subnet} {a : Address} {offset : Nat} {held : Finset Nat}

theorem rangeSize_cases (s : Subnet) : (s.rangeSize = 0 ∧ s.slots = 0) ∨
    (s.rangeSize = s.slots + 2 ∧ 0 < s.slots ∧ s.slots + 2 ≤ s.size) := by
  by_cases few : s.hostBits ≤ 1
  · exact .inl ⟨if_pos few,if_pos few⟩
  · have four : 2 ^ 2 ≤ s.size := by rw [size_pow]; exact Nat.pow_le_pow_right (by decide) (by omega)
    have whole := s.size_pow
    unfold rangeSize slots
    rw [if_neg few,if_neg few,← whole]
    right
    cases s.family with
    | v4 => simp; omega
    | v6 =>
      by_cases wide : s.hostBits ≤ 16
      · have most : s.size ≤ 2 ^ 16 := by rw [size_pow]; exact Nat.pow_le_pow_right (by decide) wide
        by_cases sixteen : 16 ≤ s.hostBits
        · have exactly : s.size = 2 ^ 16 := by rw [size_pow,Nat.le_antisymm wide sixteen]
          simp [wide,sixteen,exactly]
        · simp [wide,sixteen]; omega
      · have least : 2 ^ 16 ≤ s.size := by rw [size_pow]; exact Nat.pow_le_pow_right (by decide) (by omega)
        have sixteen : 16 ≤ s.hostBits := by omega
        simp [wide,sixteen]; omega

theorem slots_fit (inside : offset < s.slots) : s.start + 1 + offset < s.start + s.size := by
  rcases s.rangeSize_cases with ⟨_,none_⟩ | ⟨_,_,room⟩ <;> omega

theorem ofNat_addressAt (inside : offset < s.slots) :
    Address.ofNat? s.family (s.start + 1 + offset) = some (s.addressAt offset) :=
  Address.ofNat?_eq_some_iff.mpr
    ⟨rfl,Nat.mod_eq_of_lt (Nat.lt_of_lt_of_le (slots_fit inside) s.start_fits)⟩

theorem addressAt_iff (inside : offset < s.slots) :
    s.addressAt offset = a ↔ a.family = s.family ∧ a.value = s.start + 1 + offset := by
  rw [← Address.ofNat?_eq_some_iff,ofNat_addressAt inside,Option.some.injEq]

theorem addressAt_value (inside : offset < s.slots) : (s.addressAt offset).value = s.start + 1 + offset :=
  ((addressAt_iff inside).mp rfl).2

theorem addressAt_usable (inside : offset < s.slots) : s.Usable (s.addressAt offset) := by
  have value := addressAt_value inside
  exact ⟨rfl,by omega,by omega⟩

theorem addressAt_injective {other : Nat} (inside : offset < s.slots) (also : other < s.slots)
    (same : s.addressAt offset = s.addressAt other) : offset = other := by
  have values := congrArg Address.value same
  rw [addressAt_value inside,addressAt_value also] at values
  omega

-- Each usable address has its offset, so the two count the same things.
theorem usable_iff : s.Usable a ↔ ∃ offset < s.slots, s.addressAt offset = a := by
  constructor
  · rintro ⟨family,low,high⟩
    have inside : a.value - (s.start + 1) < s.slots := by omega
    exact ⟨_,inside,(addressAt_iff inside).mpr ⟨family,by omega⟩⟩
  · rintro ⟨offset,inside,rfl⟩
    exact addressAt_usable inside

theorem mem_addresses : a ∈ s.addresses held ↔ ∃ offset ∈ held, s.addressAt offset = a := Finset.mem_image

theorem addressAt_mem (below : held ⊆ Finset.range s.slots) (inside : offset < s.slots) :
    s.addressAt offset ∈ s.addresses held ↔ offset ∈ held := by
  rw [mem_addresses]
  constructor
  · rintro ⟨other,member,same⟩
    exact addressAt_injective (Finset.mem_range.mp (below member)) inside same ▸ member
  · exact fun member => ⟨offset,member,rfl⟩

theorem addresses_usable (below : held ⊆ Finset.range s.slots) (member : a ∈ s.addresses held) : s.Usable a := by
  obtain ⟨offset,among,rfl⟩ := mem_addresses.mp member
  exact addressAt_usable (Finset.mem_range.mp (below among))

theorem addresses_insert : s.addresses (insert offset held) = insert (s.addressAt offset) (s.addresses held) :=
  Finset.image_insert _ _ _

theorem addresses_erase (below : held ⊆ Finset.range s.slots) (inside : offset < s.slots) :
    s.addresses (held.erase offset) = (s.addresses held).erase (s.addressAt offset) := by
  ext a
  rw [Finset.mem_erase,mem_addresses,mem_addresses]
  constructor
  · rintro ⟨other,member,rfl⟩
    obtain ⟨different,among⟩ := Finset.mem_erase.mp member
    refine ⟨fun same => different ?_,other,among,rfl⟩
    exact addressAt_injective (Finset.mem_range.mp (below among)) inside same
  · rintro ⟨different,other,among,rfl⟩
    exact ⟨other,Finset.mem_erase.mpr ⟨fun same => different (same ▸ rfl),among⟩,rfl⟩

theorem addresses_card (below : held ⊆ Finset.range s.slots) : (s.addresses held).card = held.card := by
  refine Finset.card_image_of_injOn fun one first two second same => ?_
  exact addressAt_injective (Finset.mem_range.mp (below first)) (Finset.mem_range.mp (below second)) same

-- All addresses are taken exactly if all offsets are.
theorem addresses_all (below : held ⊆ Finset.range s.slots) :
    (∀ a, s.Usable a → a ∈ s.addresses held) ↔ held = Finset.range s.slots := by
  constructor
  · intro all
    refine Finset.Subset.antisymm below fun offset member => ?_
    have inside := Finset.mem_range.mp member
    exact (addressAt_mem below inside).mp (all _ (addressAt_usable inside))
  · rintro rfl a usable
    obtain ⟨offset,inside,rfl⟩ := usable_iff.mp usable
    exact mem_addresses.mpr ⟨offset,Finset.mem_range.mpr inside,rfl⟩

end HostNet.Subnet

namespace HostNet.Ipam.Range

variable {r : Range} {s : Subnet} {a : Address} {offset : Nat}

theorem usable_slots (s : Subnet) : usable s = s.slots := by
  unfold usable
  rcases s.rangeSize_cases with ⟨size,none_⟩ | ⟨size,some_,_⟩
  · rw [size,none_]; rfl
  · rw [if_pos (by omega)]
    omega

-- The place of offset zero: the first usable address, if there is one.
theorem base_start (laid : r.subnet = s.trunc) (several : 0 < s.slots) : r.base = s.start + 1 := by
  have sized : s.trunc.rangeSize = s.rangeSize := rfl
  rcases s.rangeSize_cases with ⟨_,none_⟩ | ⟨size,_,_⟩
  · omega
  · unfold base
    rw [laid,sized,if_pos (by omega),s.trunc_start]

-- The offset of an address is where it stands among the usable ones, and other addresses have none.
theorem offset_some (laid : r.subnet = s.trunc) (sized : r.max = s.slots) :
    r.offset? a = some offset ↔ offset < s.slots ∧ s.addressAt offset = a := by
  by_cases several : 0 < s.slots
  · have base := base_start laid several
    unfold offset?
    rw [base,sized,laid]
    constructor
    · intro found
      split at found
      · rename_i here
        obtain ⟨inside,low,near⟩ := here
        cases Option.some.inj found
        have family : a.family = s.family := beq_iff_eq.mp (Bool.and_eq_true_iff.mp inside).1
        exact ⟨near,(Subnet.addressAt_iff near).mpr ⟨family,by omega⟩⟩
      · cases found
    · rintro ⟨inside,rfl⟩
      have value := Subnet.addressAt_value inside
      have near : 1 + offset < s.size := by have := Subnet.slots_fit inside; omega
      have block : (s.addressAt offset).value / s.size = s.start / s.size := by
        rw [value,Nat.add_assoc,Subnet.first_block s near]
      have contained : s.trunc.contains (s.addressAt offset) = true :=
        Bool.and_eq_true_iff.mpr ⟨beq_iff_eq.mpr rfl,beq_iff_eq.mpr block⟩
      rw [if_pos ⟨contained,by omega,by omega⟩,value,Nat.add_sub_cancel_left]
  · have nothing : s.slots = 0 := by omega
    unfold offset?
    rw [sized,nothing]
    simp

theorem offset_none (laid : r.subnet = s.trunc) (sized : r.max = s.slots) :
    r.offset? a = none ↔ ¬s.Usable a := by
  rw [Subnet.usable_iff,Option.eq_none_iff_forall_ne_some]
  constructor
  · rintro nowhere ⟨offset,inside,here⟩
    exact nowhere offset ((offset_some laid sized).mpr ⟨inside,here⟩)
  · intro unusable offset found
    exact unusable ⟨offset,(offset_some laid sized).mp found⟩

-- The way from an offset to its address that listing takes, and the one that asking for any takes.
theorem indexed_addressAt (inside : offset < s.slots) : s.trunc.indexed? (offset + 1) = some (s.addressAt offset) := by
  have near : offset + 1 < s.size := by have := Subnet.slots_fit inside; omega
  have place : s.trunc.start + (offset + 1) = s.start + 1 + offset := by rw [s.trunc_start]; omega
  refine Option.filter_eq_some_iff.mpr ⟨?_,?_⟩
  · rw [place]
    exact Subnet.ofNat_addressAt inside
  · refine Bool.and_eq_true_iff.mpr ⟨beq_iff_eq.mpr rfl,beq_iff_eq.mpr ?_⟩
    rw [Subnet.addressAt_value inside,show s.start + 1 + offset = s.start + (offset + 1) by omega]
    exact Subnet.first_block s near

theorem next_addressAt (laid : r.subnet = s.trunc) (inside : offset < s.slots) :
    Address.ofNat? r.subnet.family (r.base + offset) = some (s.addressAt offset) := by
  rw [base_start laid (Nat.zero_lt_of_lt inside),laid]
  exact Subnet.ofNat_addressAt inside

end HostNet.Ipam.Range
