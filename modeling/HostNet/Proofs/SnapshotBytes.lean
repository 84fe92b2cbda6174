import HostNet.Proofs.BitmapSet
import Mathlib.Combinatorics.Colex
import Mathlib.Data.Nat.Digits.Lemmas

namespace HostNet.Ipam

namespace Bits

-- The fewest bytes that denote a number, the highest first: none at all for zero.
def shortest (n : Nat) : List UInt8 := ((Nat.digits 256 n).map UInt8.ofNat).reverse

theorem littleEndian_digits (bytes : List UInt8) :
    littleEndian bytes = Nat.ofDigits 256 (bytes.map UInt8.toNat) := by
  induction bytes with
  | nil => rfl
  | cons b rest ih =>
    rw [List.map_cons,Nat.ofDigits_cons,← ih,Nat.add_comm]
    rfl

theorem digits_bytes (n : Nat) : ((Nat.digits 256 n).map UInt8.ofNat).map UInt8.toNat = Nat.digits 256 n := by
  rw [List.map_map]
  refine (List.map_congr_left fun d member => ?_).trans (List.map_id _)
  have small : d < 256 := Nat.digits_lt_base (by decide) member
  exact UInt8.toNat_ofNat_of_lt' small

theorem bigEndian_shortest (n : Nat) : bigEndian (shortest n) = n := by
  rw [shortest,← littleEndian_reverse,List.reverse_reverse,littleEndian_digits,digits_bytes,Nat.ofDigits_digits]

theorem shortest_head (n : Nat) : (shortest n).head? ≠ some 0 := by
  intro zero
  rw [shortest,List.head?_reverse,List.getLast?_map,Option.map_eq_some_iff] at zero
  obtain ⟨d,last,none_⟩ := zero
  have member := List.mem_of_getLast? last
  have nonzero : n ≠ 0 := by
    rintro rfl
    simp at member
  have small : d < 256 := Nat.digits_lt_base (by decide) member
  have value : d = 0 := by
    rw [← UInt8.toNat_ofNat_of_lt' small,none_,UInt8.toNat_zero]
  rw [List.getLast?_eq_some_getLast (Nat.digits_ne_nil_iff_ne_zero.mpr nonzero),value] at last
  exact Nat.getLast_digit_ne_zero 256 nonzero (Option.some.inj last)

-- The digits of a number are unique, so no other bytes without a leading zero denote it.
theorem shortest_bigEndian {bytes : List UInt8} (minimal : bytes.head? ≠ some 0) :
    shortest (bigEndian bytes) = bytes := by
  have digits : Nat.digits 256 (bigEndian bytes) = bytes.reverse.map UInt8.toNat := by
    rw [← littleEndian_reverse,littleEndian_digits]
    refine Nat.digits_ofDigits 256 (by decide) _ ?_ ?_
    · intro d member
      obtain ⟨b,_,rfl⟩ := List.mem_map.mp member
      exact b.toNat_lt
    · intro nonempty zero
      have nonempty : bytes ≠ [] := by simpa using nonempty
      rw [List.getLast_map,List.getLast_reverse] at zero
      refine minimal ?_
      rw [List.head?_eq_some_head nonempty,UInt8.toNat_inj.mp (zero.trans UInt8.toNat_zero.symm)]
  have back : ∀ b : UInt8, (UInt8.ofNat ∘ UInt8.toNat) b = b := fun b => UInt8.ofNat_toNat
  rw [shortest,digits,List.map_map,List.map_congr_left fun b _ => back b]
  simp

theorem eq_shortest_iff {bytes : List UInt8} {n : Nat} :
    bytes = shortest n ↔ bigEndian bytes = n ∧ bytes.head? ≠ some 0 := by
  constructor
  · rintro rfl
    exact ⟨bigEndian_shortest n,shortest_head n⟩
  · rintro ⟨rfl,minimal⟩
    exact (shortest_bigEndian minimal).symm

theorem testBit_sum (held : Finset Nat) (p : Nat) :
    (∑ offset ∈ held, 2 ^ offset).testBit p = true ↔ p ∈ held := by
  rw [← Nat.mem_bitIndices,← List.mem_toFinset,Finset.toFinset_bitIndices_sum_two_pow]

end Bits

namespace Bitmap
open Bits (bigEndian shortest)

-- The offsets whose bit is set.
def offsets (m : Bitmap) : Finset Nat := m.taken.toFinset

variable (m : Bitmap)

theorem mem_offsets (offset : Nat) : offset ∈ m.offsets ↔ m.has offset = true := by
  rw [offsets,List.mem_toFinset,taken,Bits.mem_ones,has]

theorem snapshot_shortest : m.snapshot = shortest (bigEndian m.snapshot) :=
  Bits.eq_shortest_iff.mpr ⟨rfl,m.bits.toBytes_head⟩

theorem snapshot_value : bigEndian m.snapshot = ∑ offset ∈ m.offsets, 2 ^ offset := by
  refine Nat.eq_of_testBit_eq fun p => ?_
  rw [Bool.eq_iff_iff,Bits.testBit_sum,mem_offsets,snapshot,Bits.testBit_toBytes,has]

-- What a state is taken back as: the range and the tag stay, and nothing else of the state before.
def taking (bytes : List UInt8) : Bitmap :=
  { m with bits := .ofBytes m.max bytes,count := (Bits.ofBytes m.max bytes).ones.length }

theorem restore_own (bytes : List UInt8) : m.restore m.tag bytes = .ok (m.taking bytes) := if_pos rfl

theorem taking_offsets (bytes : List UInt8) :
    (m.taking bytes).offsets = (Finset.range m.max).filter fun offset => (bigEndian bytes).testBit offset = true := by
  ext offset
  rw [mem_offsets,Finset.mem_filter,Finset.mem_range]
  exact Bits.get_ofBytes m.max bytes offset

theorem taking_count (bytes : List UInt8) : (m.taking bytes).count = (m.taking bytes).offsets.card :=
  (List.toFinset_card_of_nodup ((Bits.ones_ascending _).imp Nat.ne_of_lt)).symm

theorem taking_value (bytes : List UInt8) :
    bigEndian (m.taking bytes).snapshot = bigEndian bytes % 2 ^ m.max := by
  refine Nat.eq_of_testBit_eq fun p => ?_
  rw [snapshot,Bits.testBit_toBytes,Nat.testBit_mod_two_pow,Bool.eq_iff_iff,Bool.and_eq_true,decide_eq_true_eq]
  exact Bits.get_ofBytes m.max bytes p

-- Bytes come back as they were just if they are the shortest ones of a number that the range has room for.
theorem taking_snapshot (bytes : List UInt8) :
    (m.taking bytes).snapshot = bytes ↔ bytes.head? ≠ some 0 ∧ bigEndian bytes < 2 ^ m.max := by
  constructor
  · intro same
    have value := m.taking_value bytes
    rw [same] at value
    refine ⟨?_,?_⟩
    · rw [← same]
      exact Bits.toBytes_head _
    · rw [value]
      exact Nat.mod_lt _ (Nat.two_pow_pos _)
  · rintro ⟨minimal,small⟩
    rw [snapshot_shortest,taking_value,Nat.mod_eq_of_lt small,Bits.shortest_bigEndian minimal]

-- The set of a state below the capacity comes back out of its saved bytes.
theorem taking_saved (other : Bitmap) (below : other.offsets ⊆ Finset.range m.max) :
    (m.taking other.snapshot).offsets = other.offsets := by
  rw [taking_offsets,snapshot_value]
  ext offset
  rw [Finset.mem_filter,Bits.testBit_sum]
  exact ⟨And.right,fun held => ⟨below held,held⟩⟩

theorem snapshot_same (other : Bitmap) : m.snapshot = other.snapshot ↔ m.offsets = other.offsets := by
  constructor
  · intro same
    ext offset
    rw [← Bits.testBit_sum,← Bits.testBit_sum,← snapshot_value,← snapshot_value,same]
  · intro same
    rw [m.snapshot_shortest,other.snapshot_shortest,snapshot_value,snapshot_value,same]

-- Saved bytes are the binary number of the set, and taking them back reads any number modulo the capacity.
theorem snapshots_denote_sets :
    m.snapshot = shortest (∑ offset ∈ m.offsets, 2 ^ offset) ∧
    (∀ bytes, ∃ after, m.restore m.tag bytes = .ok after ∧ after.max = m.max ∧ after.tag = m.tag ∧
      after.offsets = ((Finset.range m.max).filter fun offset => (bigEndian bytes).testBit offset = true) ∧
      after.count = after.offsets.card ∧ after.snapshot = shortest (bigEndian bytes % 2 ^ m.max) ∧
      (after.snapshot = bytes ↔ bytes.head? ≠ some 0 ∧ bigEndian bytes < 2 ^ m.max)) ∧
    (∀ other : Bitmap, other.max = m.max → other.offsets ⊆ Finset.range other.max → ∃ after,
      m.restore m.tag other.snapshot = .ok after ∧ after.offsets = other.offsets) ∧
    ∀ other : Bitmap, m.snapshot = other.snapshot ↔ m.offsets = other.offsets := by
  refine ⟨?_,fun bytes => ?_,fun other same below => ?_,m.snapshot_same⟩
  · rw [snapshot_shortest,snapshot_value]
  · refine ⟨m.taking bytes,m.restore_own bytes,rfl,rfl,m.taking_offsets bytes,m.taking_count bytes,?_,
      m.taking_snapshot bytes⟩
    rw [snapshot_shortest,taking_value]
  · exact ⟨m.taking other.snapshot,m.restore_own _,m.taking_saved other (same ▸ below)⟩

-- Two of twelve offsets in different bytes.
def sparse : Bitmap := ⟨12,"t",⟨#[0x201]⟩,2⟩

theorem sparse_taken_back : sparse.max = (empty 12 "t").max ∧ sparse.offsets ⊆ Finset.range sparse.max ∧
    ∃ after, (empty 12 "t").restore "t" sparse.snapshot = .ok after ∧ after.offsets = sparse.offsets := by
  have below : sparse.offsets ⊆ Finset.range sparse.max := by decide
  exact ⟨rfl,below,(empty 12 "t").snapshots_denote_sets.2.2.1 sparse rfl below⟩

end Bitmap
end HostNet.Ipam
