import HostNet.Text.Hex
import Mathlib.Tactic.IntervalCases

namespace HostNet.Text.Hex

def lowerDigits : List Char := ['0','1','2','3','4','5','6','7','8','9','a','b','c','d','e','f']

def upperDigits : List Char := ['0','1','2','3','4','5','6','7','8','9','A','B','C','D','E','F']

-- The character is the digit of a number in either case.
def Denotes (c : Char) (n : Nat) : Prop := lowerDigits[n]? = some c ∨ upperDigits[n]? = some c

instance (c : Char) (n : Nat) : Decidable (Denotes c n) := inferInstanceAs (Decidable (_ ∨ _))

theorem Denotes.small {c : Char} {n : Nat} (denotes : Denotes c n) : n < 16 := by
  rcases denotes with lower | upper
  · exact (List.getElem?_eq_some_iff.mp lower).1
  · exact (List.getElem?_eq_some_iff.mp upper).1

-- A character whose number lies in a row of numbers is one of that row.
theorem char_between {c : Char} {first : Nat} (count : Nat) (least : first ≤ c.toNat) (most : c.toNat < first + count) :
    ∃ k < count, c = .ofNat (first + k) := by
  refine ⟨c.toNat - first,by omega,?_⟩
  rw [Nat.add_sub_cancel' least]
  exact (Char.ofNat_toNat c).symm

theorem digit_denotes {c : Char} {n : Nat} (read : digit? c = some n) : Denotes c n := by
  unfold digit? at read
  simp only [Char.le_def,UInt32.le_iff_toNat_le] at read
  split at read
  · rename_i decimal
    obtain ⟨k,few,rfl⟩ := char_between 10 decimal.1 (Nat.lt_succ_of_le decimal.2)
    cases read
    interval_cases k <;> decide
  · split at read
    · rename_i lower
      obtain ⟨k,few,rfl⟩ := char_between 6 lower.1 (Nat.lt_succ_of_le lower.2)
      cases read
      interval_cases k <;> decide
    · split at read
      · rename_i upper
        obtain ⟨k,few,rfl⟩ := char_between 6 upper.1 (Nat.lt_succ_of_le upper.2)
        cases read
        interval_cases k <;> decide
      · cases read

theorem denotes_digit {c : Char} {n : Nat} (denotes : Denotes c n) : digit? c = some n := by
  have small := denotes.small
  rcases denotes with lower | upper
  · interval_cases n <;> cases lower <;> decide
  · interval_cases n <;> cases upper <;> decide

theorem digit_iff {c : Char} {n : Nat} : digit? c = some n ↔ Denotes c n := ⟨digit_denotes,denotes_digit⟩

theorem digit_lower {n : Nat} (small : n < 16) : digit n ∈ lowerDigits := by
  interval_cases n <;> decide

theorem ofBytes_lower (bytes : List UInt8) : ∀ c ∈ ofBytes bytes, c ∈ lowerDigits := by
  intro c member
  obtain ⟨b,-,one⟩ := List.mem_flatMap.mp member
  have byte := b.toNat_lt
  rcases List.mem_cons.mp one with rfl | two
  · exact digit_lower (by omega)
  · rw [List.mem_singleton.mp two]
    exact digit_lower (by omega)

end HostNet.Text.Hex
