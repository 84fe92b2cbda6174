import HostNet.Proofs.BitmapSet

namespace HostNet.Ipam

namespace Strategy

variable {bits : Bits} {max place left offset : Nat}

theorem search_some (found : search bits max place left = some offset) (several : 0 < max) :
    offset < max ∧ bits.get offset = false := by
  induction left generalizing place with
  | zero => cases found
  | succ left ih =>
    unfold search at found
    split at found
    · exact ih found
    · rename_i clear
      cases Option.some.inj found
      exact ⟨Nat.mod_lt _ several,by simpa using clear⟩

-- A search in vain has come by every place and found each taken.
theorem search_none (vain : search bits max place left = none) (step : Nat) (near : step < left) :
    bits.get ((place + step) % max) = true := by
  induction left generalizing place step with
  | zero => cases near
  | succ left ih =>
    unfold search at vain
    split at vain
    · rename_i taken
      cases step with
      | zero => exact taken
      | succ step =>
        rw [Nat.add_comm step 1,← Nat.add_assoc]
        exact ih vain step (Nat.lt_of_succ_lt_succ near)
    · cases vain

-- Every offset is some number of steps away, counted around.
theorem around (start : Nat) (inside : offset < max) : ∃ step < max, (start + step) % max = offset := by
  have below : start % max < max := Nat.mod_lt _ (Nat.zero_lt_of_lt inside)
  by_cases later : start % max ≤ offset
  · refine ⟨offset - start % max,by omega,?_⟩
    rw [Nat.add_mod,Nat.mod_eq_of_lt (by omega : offset - start % max < max),Nat.add_sub_cancel' later,
      Nat.mod_eq_of_lt inside]
  · refine ⟨max - start % max + offset,by omega,?_⟩
    rw [Nat.add_mod,Nat.mod_eq_of_lt (by omega : max - start % max + offset < max)]
    have whole : start % max + (max - start % max + offset) = offset + max := by omega
    rw [whole,Nat.add_mod_right,Nat.mod_eq_of_lt inside]

theorem search_mod (bits : Bits) (max start place left : Nat) (same : start % max = place % max) :
    search bits max start left = search bits max place left := by
  induction left generalizing start place with
  | zero => rfl
  | succ left ih =>
    rw [search,search,same,ih (start + 1) (place + 1) (by rw [Nat.add_mod,same,← Nat.add_mod])]

end Strategy

namespace Bitmap

variable {max : Nat} {tag : String} {m : Bitmap} {held : Finset Nat}

-- With an offset free the counter lets the search begin, and the search comes by that offset at the latest.
theorem scan_some (valid : Represents max tag m held) (start : Nat) (inside : spare < max) (clear : spare ∉ held) :
    ∃ offset, Strategy.scan start m.bits m.max m.count = some offset ∧ offset < max ∧ offset ∉ held := by
  have proper : held ⊂ Finset.range max :=
    ⟨valid.below,fun all => clear (all (Finset.mem_range.mpr inside))⟩
  have fewer : held.card < max := by simpa using Finset.card_lt_card proper
  have begun : ¬(m.max = 0 ∨ m.max ≤ m.count) := by
    rw [valid.range,valid.counted]
    omega
  unfold Strategy.scan
  rw [if_neg begun,valid.range]
  cases found : Strategy.search m.bits max start max with
  | none =>
    obtain ⟨step,near,here⟩ := Strategy.around start inside
    have taken := Strategy.search_none found step near
    rw [here,valid.member] at taken
    exact absurd taken clear
  | some offset =>
    obtain ⟨below,unset⟩ := Strategy.search_some found (Nat.zero_lt_of_lt inside)
    exact ⟨offset,rfl,below,valid.clear.mp unset⟩

theorem scan_none (valid : Represents max tag m held) (start : Nat) (full : held = Finset.range max) :
    Strategy.scan start m.bits m.max m.count = none := by
  have begun : m.max ≤ m.count := by rw [valid.range,valid.counted,full,Finset.card_range]
  exact if_pos (.inr begun)

-- What asking for any offset comes to: none exactly if all are taken, wherever the search begins.
theorem allocateNext_cases (valid : Represents max tag m held) (start : Nat) :
    (held = Finset.range max ∧ m.allocateNext (.scan start) = .none) ∨
    ∃ offset < max, offset ∉ held ∧ m.allocateNext (.scan start) =
      .taken offset { m with bits := m.bits.set offset,count := m.count + 1 } := by
  by_cases full : held = Finset.range max
  · exact .inl ⟨full,by unfold allocateNext; rw [scan_none valid start full]⟩
  · obtain ⟨spare,member,clear⟩ := Finset.exists_of_ssubset (Finset.ssubset_iff_subset_ne.mpr ⟨valid.below,full⟩)
    obtain ⟨offset,found,inside,unused⟩ := scan_some valid start (Finset.mem_range.mp member) clear
    refine .inr ⟨offset,inside,unused,?_⟩
    unfold allocateNext
    rw [found]
    exact if_neg (Nat.not_le.mpr (Nat.lt_of_lt_of_le inside valid.stored))

end Bitmap
end HostNet.Ipam
