import HostNet.Subnet.Gateway
import Mathlib.Algebra.Group.Nat.Defs

namespace HostNet.Subnet

variable (s : Subnet)

theorem size_pow : s.size = 2 ^ s.hostBits := Nat.one_shiftLeft _

theorem family_size : s.family.size = 2 ^ s.length * s.size := by
  have fits : s.length ≤ s.family.width := s.length_le
  rw [size_pow,Family.size,Nat.one_shiftLeft,← Nat.pow_add,hostBits,Nat.add_sub_cancel' fits]

theorem size_pos : 0 < s.size := by rw [size_pow]; exact Nat.two_pow_pos _

theorem trunc_start : s.trunc.start = s.start := by
  change s.start / s.size * s.size = s.start
  rw [start,Nat.mul_div_cancel _ s.size_pos]

-- A subnet ends within the addresses of its family.
theorem start_fits : s.start + s.size ≤ s.family.size := by
  have below : s.address.value / s.size < 2 ^ s.length := by
    rw [Nat.div_lt_iff_lt_mul s.size_pos,← family_size]
    exact s.address.value_lt
  calc s.start + s.size = (s.address.value / s.size + 1) * s.size := (Nat.succ_mul _ _).symm
    _ ≤ 2 ^ s.length * s.size := Nat.mul_le_mul_right _ below
    _ = s.family.size := s.family_size.symm

theorem first_block (within : offset < s.size) : (s.start + offset) / s.size = s.start / s.size := by
  rw [start,Nat.add_comm,Nat.add_mul_div_right _ _ s.size_pos,Nat.div_eq_of_lt within,Nat.zero_add,
    Nat.mul_div_cancel _ s.size_pos]

-- A subnet has a gateway just if it has more than one address.
theorem gateway_known : (∃ gateway, s.gateway = .ok gateway) ↔ 0 < s.hostBits := by
  have told : (∃ gateway, s.gateway = .ok gateway) ↔ ∃ a, s.trunc.indexed? 1 = some a := by
    unfold gateway indexed
    cases s.trunc.indexed? 1 <;> simp [bind,Except.bind,pure,Except.pure]
  rw [told]
  constructor
  · rintro ⟨a,found⟩
    refine Nat.pos_of_ne_zero fun lone => ?_
    have single : s.size = 1 := by rw [size_pow,lone,Nat.pow_zero]
    obtain ⟨at_,inside⟩ := Option.filter_eq_some_iff.mp found
    obtain ⟨_,value⟩ := Address.ofNat?_eq_some_iff.mp at_
    have block : a.value / s.size = s.start / s.size := beq_iff_eq.mp (Bool.and_eq_true_iff.mp inside).2
    rw [value,trunc_start,single] at block
    omega
  · intro several
    have two : 1 < s.size := by rw [size_pow]; exact Nat.one_lt_two_pow (Nat.pos_iff_ne_zero.mp several)
    have small : s.start + 1 < s.family.size := by have := s.start_fits; omega
    refine ⟨⟨s.family,s.start + 1,small⟩,Option.filter_eq_some_iff.mpr ⟨Address.ofNat?_eq_some_iff.mpr ⟨rfl,?_⟩,?_⟩⟩
    · rw [trunc_start]
    · have block := s.first_block two
      simp only [contains,Bool.and_eq_true,beq_iff_eq]
      exact ⟨rfl,block⟩

end HostNet.Subnet
