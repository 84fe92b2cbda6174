import HostNet.Proofs.AllocationOwners
import HostNet.Proofs.RangeArithmetic

namespace HostNet

namespace Subnet
open Ipam

variable {s t gateway : Subnet} {a : Address} {index : Nat}

theorem contains_iff : s.contains a = true ↔ a.family = s.family ∧ s.start ≤ a.value ∧ a.value < s.start + s.size := by
  rw [contains,Bool.and_eq_true,beq_iff_eq,beq_iff_eq,Nat.div_eq_iff s.size_pos]
  have whole : s.start = s.address.value / s.size * s.size := rfl
  have positive := s.size_pos
  constructor
  · rintro ⟨family,low,high⟩
    exact ⟨family,by omega,by omega⟩
  · rintro ⟨family,low,high⟩
    exact ⟨family,by omega,by omega⟩

-- The addresses of a subnet are those at the places below its size.
theorem indexed_some : s.indexed? index = some a ↔
    index < 2 ^ s.hostBits ∧ a.family = s.family ∧ a.value = s.network.value + index := by
  have network : s.network.value = s.start := rfl
  rw [indexed?,Option.filter_eq_some_iff,Address.ofNat?_eq_some_iff,contains_iff,← size_pow,network]
  constructor
  · rintro ⟨⟨family,value⟩,_,_,near⟩
    exact ⟨by omega,family,value⟩
  · rintro ⟨near,family,value⟩
    exact ⟨⟨family,value⟩,family,by omega,by omega⟩

theorem indexed_ok : s.indexed index = .ok a ↔
    index < 2 ^ s.hostBits ∧ a.family = s.family ∧ a.value = s.network.value + index := by
  rw [← indexed_some,indexed]
  cases s.indexed? index <;> simp

theorem indexed_far (far : 2 ^ s.hostBits ≤ index) : s.indexed index = .error (.indexOutOfSubnet index s) := by
  have nothing : s.indexed? index = none := by
    rw [Option.eq_none_iff_forall_ne_some]
    intro a found
    exact absurd (indexed_some.mp found).1 (by omega)
  rw [indexed,nothing]

-- The address at a place, with the sum formed in 128 bits and then brought to the width of the family.
def indexedInWords (s : Subnet) (index : Nat) : Except Ipam.Error Address :=
  match Words.add 128 s.start index with
  | none => .error (.indexOutOfSubnet index s)
  | some value =>
    match Address.ofNat? s.family value with
    | none => .error (.indexOutOfSubnet index s)
    | some a => if s.contains a then .ok a else .error (.indexOutOfSubnet index s)

-- A sum that has no room in the words lies beyond the subnet too.
theorem indexedInWords_exact (s : Subnet) (index : Nat) : s.indexedInWords index = s.indexed index := by
  have within := Nat.le_trans s.start_fits (Ipam.Range.size_le _)
  unfold indexedInWords
  by_cases room : s.start + index < 2 ^ 128
  · rw [Words.add_fits room,indexed,indexed?]
    simp only
    cases Address.ofNat? s.family (s.start + index) with
    | none => rfl
    | some a => by_cases inside : s.contains a = true <;> simp [Option.filter,inside]
  · have far : 2 ^ s.hostBits ≤ index := by rw [← size_pow]; omega
    rw [Words.add,if_neg room,indexed_far far]

-- How many addresses there are besides the first and the last, where two to the power of 128 has no room.
def countInWords (s : Subnet) : Option Nat := do
  match ← Words.sub s.family.width s.length with
  | 0 => some 0
  | 128 => Words.sub (2 ^ 128 - 1) 1
  | bits => Words.sub (← Words.shift 128 bits) 2

theorem hostCount_power (s : Subnet) : s.hostCount = if s.hostBits = 0 then 0 else 2 ^ s.hostBits - 2 := by
  rw [hostCount,size_pow]

theorem countInWords_exact (s : Subnet) : s.countInWords = some s.hostCount := by
  have bits : Words.sub s.family.width s.length = some s.hostBits := Words.sub_fits s.length_le
  have most : s.hostBits ≤ 128 := Nat.le_trans (Ipam.Range.hostBits_le s) (by cases s.family <;> decide)
  rw [hostCount_power]
  unfold countInWords
  rw [bits]
  simp only [Option.bind_eq_bind,Option.bind_some]
  split
  · rename_i none_
    rw [if_pos none_]
  · rename_i all
    rw [all]
    decide +kernel
  · rename_i some_ part
    have two : 2 ^ 1 ≤ 2 ^ s.hostBits := Nat.pow_le_pow_right (by decide) (Nat.pos_of_ne_zero some_)
    have fits : s.hostBits < 128 := Nat.lt_of_le_of_ne most part
    rw [Words.shift_fits fits,if_neg some_]
    simp only [Option.bind_some,Nat.one_shiftLeft]
    exact Words.sub_fits two

theorem gateway_indexed (found : s.gateway = .ok gateway) :
    s.trunc.indexed? 1 = some gateway.address ∧ gateway.length = s.length := by
  cases told : s.trunc.indexed? 1 with
  | none =>
    rw [Subnet.gateway,indexed,told] at found
    cases found
  | some a =>
    rw [Subnet.gateway,indexed,told] at found
    cases found
    have family : a.family = s.family := (indexed_some.mp told).2.1
    exact ⟨rfl,Nat.min_eq_left (family ▸ s.length_le)⟩

theorem gateway_first (found : s.gateway = .ok gateway) :
    gateway.address.family = s.family ∧ gateway.address.value = s.network.value + 1 := by
  obtain ⟨_,family,value⟩ := indexed_some.mp (gateway_indexed found).1
  exact ⟨family,value.trans (congrArg (· + 1) s.trunc_start)⟩

theorem gateway_ok : s.gateway = .ok gateway ↔ 1 ≤ s.hostBits ∧ gateway.address.family = s.family ∧
    gateway.address.value = s.network.value + 1 ∧ gateway.length = s.length := by
  constructor
  · intro found
    obtain ⟨family,value⟩ := gateway_first found
    exact ⟨s.gateway_known.mp ⟨gateway,found⟩,family,value,(gateway_indexed found).2⟩
  · rintro ⟨several,family,value,length⟩
    obtain ⟨other,found⟩ := s.gateway_known.mpr several
    obtain ⟨family_,value_⟩ := gateway_first found
    have length_ := (gateway_indexed found).2
    have same : other = gateway := by
      obtain ⟨⟨f,v,_⟩,l,_⟩ := other
      obtain ⟨⟨_,_,_⟩,_,_⟩ := gateway
      cases family_.trans family.symm
      cases value_.trans value.symm
      cases length_.trans length.symm
      rfl
    rw [found,same]

theorem gateway_lone (lone : s.hostBits = 0) : s.gateway = .error (.indexOutOfSubnet 1 s.trunc) := by
  have far : 2 ^ s.trunc.hostBits ≤ 1 := by
    change 2 ^ s.hostBits ≤ 1
    rw [lone,Nat.pow_zero]
  rw [gateway,indexed_far far]
  rfl

-- Only the network and the length of a subnet count for its gateway.
theorem gateway_trunc (same : t.trunc = s.trunc) : t.gateway = s.gateway := by
  have length : t.length = s.length := show t.trunc.length = s.trunc.length by rw [same]
  rw [gateway,gateway,same,length]

end Subnet

namespace Ipam.Allocator

variable {s : Subnet} {a : Allocator} {owners : Address → Option String} {result : Allocation}

-- No event changes the subnet, and what is allocated is told with its gateway.
theorem served_subnet (tracks : Tracks s a owners) (event : Event) : (serve event a).2.subnet = a.subnet ∧
    ∀ result, (serve event a).1 = .allocated result → result.gateway = a.subnet.indexed? 1 := by
  cases event with
  | restore source =>
    refine ⟨?_,fun _ told => by cases told⟩
    simp only [serve,onRange,Step.within,Step.outcome]
    cases source.restore a.range <;> rfl
  | request request =>
    obtain ⟨held,valid⟩ := tracks.ranged
    have asked := ask_cases valid request
    change (ask request a).2.subnet = a.subnet ∧
      ∀ result, (ask request a).1 = .allocated result → result.gateway = a.subnet.indexed? 1
    generalize (ask request a).1 = answer, (ask request a).2 = after at asked ⊢
    cases asked with
    | assigned => exact ⟨rfl,fun _ told => by cases told; rfl⟩
    | refused | released | dumped => exact ⟨rfl,fun _ told => by cases told⟩

theorem run_gateways (tracks : Tracks s a owners) (events : List Event)
    (told : (event,.allocated result) ∈ (run events a).1) : result.gateway = a.subnet.indexed? 1 := by
  induction events generalizing a owners with
  | nil => cases told
  | cons first rest ih =>
    obtain ⟨subnet,gateway⟩ := served_subnet tracks first
    rcases List.mem_cons.mp told with here | later
    · exact gateway result (congrArg Prod.snd here).symm
    · exact (ih (tracks.served first) later).trans (congrArg (Subnet.indexed? · 1) subnet)

end Ipam.Allocator

namespace Subnet
open Ipam

-- The first usable address of a range is the gateway of its subnet.
theorem first_gateway {gateway : Subnet} {r : Range} {held : Finset Nat} (valid : Range.Holds s r held)
    (several : 0 < s.slots) (found : s.gateway = .ok gateway) : r.first = gateway.address := by
  obtain ⟨family,value⟩ := gateway_first found
  have first : Address.ofNat? r.subnet.family r.base = some gateway.address := by
    rw [Address.ofNat?_eq_some_iff,Range.base_start valid.laid several,valid.laid]
    exact ⟨family,value⟩
  rw [Range.first,first]
  rfl

-- The address at each place of a subnet, the number of its addresses and its gateway are what they should be for every
-- length and every place, also where they are worked out in words of 128 bits. Where a range has any usable address,
-- its first one and the gateway that is told with each allocation are this gateway.
theorem arithmetic_exact (s : Subnet) :
    (∀ index, s.indexedInWords index = s.indexed index ∧
      (∀ a, s.indexed index = .ok a ↔
        index < 2 ^ s.hostBits ∧ a.family = s.family ∧ a.value = s.network.value + index) ∧
      (2 ^ s.hostBits ≤ index → s.indexed index = .error (.indexOutOfSubnet index s))) ∧
    (s.countInWords = some s.hostCount ∧ s.hostCount = if s.hostBits = 0 then 0 else 2 ^ s.hostBits - 2) ∧
    (∀ gateway, s.gateway = .ok gateway ↔ 1 ≤ s.hostBits ∧ gateway.address.family = s.family ∧
      gateway.address.value = s.network.value + 1 ∧ gateway.length = s.length) ∧
    (s.hostBits = 0 → s.gateway = .error (.indexOutOfSubnet 1 s.trunc)) ∧
    (∀ t : Subnet, t.trunc = s.trunc → t.gateway = s.gateway) ∧
    (0 < (Range.ofSubnet s).max → ∃ gateway, s.gateway = .ok gateway ∧
      (∀ requests, (Range.reached s requests).first = gateway.address) ∧
      ∀ events event result, (event,.allocated result) ∈ (Allocator.run events (.ofSubnet s)).1 →
        result.gateway = some gateway.address) := by
  refine ⟨fun index => ⟨s.indexedInWords_exact index,fun _ => indexed_ok,indexed_far⟩,
    ⟨s.countInWords_exact,s.hostCount_power⟩,fun _ => gateway_ok,gateway_lone,fun _ => gateway_trunc,?_⟩
  intro several
  have several : 0 < s.slots := (Range.ofSubnet_holds s).sized ▸ several
  have large : 0 < s.hostBits := by
    unfold slots at several
    split at several <;> omega
  obtain ⟨gateway,found⟩ := s.gateway_known.mpr large
  refine ⟨gateway,found,fun requests => ?_,fun events event result told => ?_⟩
  · obtain ⟨held,valid⟩ := Range.reached_holds s requests
    exact first_gateway valid several found
  · rw [Allocator.run_gateways (Allocator.ofSubnet_tracks s) events told]
    exact (gateway_indexed found).1

-- The last address of all, the last one of the narrow family and the one beyond it, and the whole of the wide family.
theorem extremes_exact :
    let wide : Subnet := .ofAddress (.ofNat .v6 1) 0
    let last : Subnet := .ofAddress (.ofNat .v4 0xfffffffe) 31
    (2 ^ 128 - 1 < 2 ^ wide.hostBits ∧ wide.indexed (2 ^ 128 - 1) = .ok (.ofNat .v6 (2 ^ 128 - 1))) ∧
    last.indexed 1 = .ok (.ofNat .v4 0xffffffff) ∧
    (2 ^ last.hostBits ≤ 2 ∧ last.indexed 2 = .error (.indexOutOfSubnet 2 last)) ∧
    0 < (Range.ofSubnet wide).max ∧ ∃ gateway, wide.gateway = .ok gateway ∧
      (Range.reached wide []).first = gateway.address := by
  intro wide last
  have small : 2 ^ last.hostBits ≤ 2 := by decide +kernel
  have several : 0 < (Range.ofSubnet wide).max := by decide +kernel
  obtain ⟨gateway,found,first,_⟩ := (arithmetic_exact wide).2.2.2.2.2 several
  refine ⟨⟨by decide +kernel,?_⟩,?_,⟨small,((arithmetic_exact last).1 2).2.2 small⟩,several,gateway,found,first []⟩
  · exact (((arithmetic_exact wide).1 _).2.1 _).mpr (by decide +kernel)
  · exact (((arithmetic_exact last).1 _).2.1 _).mpr (by decide +kernel)

end Subnet
end HostNet
