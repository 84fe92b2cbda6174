import HostNet.Ipam.Bits
import Mathlib.Data.Nat.Bitwise

namespace HostNet.Ipam.Bits

theorem mask_value (place : Nat) : (mask place).toNat = 2^(place % 64) := by
  have low : place % 64 < 64 := Nat.mod_lt _ (by decide)
  have shift : (UInt64.ofNat (place % 64)).toNat = place % 64 := by
    rw [UInt64.toNat_ofNat']
    exact Nat.mod_eq_of_lt (by omega)
  have fits : 2^(place % 64) < 2^64 := Nat.pow_lt_pow_right (by decide) low
  rw [mask,UInt64.toNat_shiftLeft,shift,Nat.mod_eq_of_lt low,Nat.shiftLeft_eq]
  simpa using Nat.mod_eq_of_lt fits

theorem masked_value (w : UInt64) (place : Nat) :
    (w &&& mask place != 0) = w.toNat.testBit (place % 64) := by
  have value : (w &&& mask place).toNat = (w.toNat.testBit (place % 64)).toNat * 2^(place % 64) := by
    rw [UInt64.toNat_and,mask_value,Nat.and_two_pow]
  have zero : w &&& mask place = 0 ↔ w.toNat.testBit (place % 64) = false := by
    rw [← UInt64.toNat_inj,value]
    cases w.toNat.testBit (place % 64) <;> simp
  cases bit : w.toNat.testBit (place % 64) <;> simp_all

-- The number of the word that holds a place; a place beyond the storage reads as zero.
def wordAt (b : Bits) (place : Nat) : Nat := ((b.words[place / 64]?).getD 0).toNat

theorem get_word (b : Bits) (place : Nat) : b.get place = (b.wordAt place).testBit (place % 64) := by
  unfold get wordAt
  cases b.words[place / 64]? with
  | none => simp
  | some w => simpa using masked_value w place

theorem stored_place (b : Bits) (place : Nat) : place < b.capacity ↔ place / 64 < b.words.size := by
  unfold capacity
  omega

theorem same_place {p q : Nat} : q = p ↔ q / 64 = p / 64 ∧ q % 64 = p % 64 := by omega

theorem get_capacity (n place : Nat) : (ofCapacity n).get place = false := by
  rw [get_word]
  unfold wordAt ofCapacity
  rw [Array.getElem?_replicate]
  split <;> simp

@[simp] theorem capacity_set (b : Bits) (place : Nat) : (b.set place).capacity = b.capacity := by
  simp [capacity,set]

@[simp] theorem capacity_clear (b : Bits) (place : Nat) : (b.clear place).capacity = b.capacity := by
  simp [capacity,clear]

theorem capacity_ofCapacity (n : Nat) : n ≤ (ofCapacity n).capacity := by
  simp only [capacity,ofCapacity,Array.size_replicate]
  omega

theorem get_set (b : Bits) (p q : Nat) : (b.set p).get q = (b.get q || decide (q = p ∧ p < b.capacity)) := by
  rw [get_word,get_word]
  unfold wordAt set
  rw [Array.getElem?_modify]
  by_cases word : p / 64 = q / 64
  · simp only [word,if_true,stored_place,@same_place p q,true_and]
    cases held : b.words[q / 64]? with
    | none =>
      rw [Array.getElem?_eq_none_iff] at held
      simp [Nat.not_lt.mpr held]
    | some w =>
      obtain ⟨inside,_⟩ := Array.getElem?_eq_some_iff.mp held
      simp [UInt64.toNat_or,mask_value,Nat.testBit_or,Nat.testBit_two_pow,inside,eq_comm]
  · have other : q ≠ p := fun same => word (by rw [same])
    simp [word,other]

theorem get_clear (b : Bits) (p q : Nat) : (b.clear p).get q = (b.get q && decide (q ≠ p)) := by
  rw [get_word,get_word]
  unfold wordAt clear
  rw [Array.getElem?_modify]
  by_cases word : p / 64 = q / 64
  · simp only [word,if_true,@same_place p q,true_and,ne_eq]
    cases held : b.words[q / 64]? with
    | none => simp
    | some w =>
      have low : q % 64 < 64 := Nat.mod_lt _ (by decide)
      have fits : 2^(p % 64) < 2^64 := Nat.pow_lt_pow_right (by decide) (Nat.mod_lt _ (by decide))
      have complement : (~~~ mask p).toNat = 2^64 - (2^(p % 64) + 1) := by
        rw [UInt64.toNat_not,mask_value]
        have : UInt64.size = 2^64 := by decide
        omega
      simp only [Option.map_some,Option.getD_some,UInt64.toNat_and,Nat.testBit_and,complement,
        Nat.testBit_two_pow_sub_succ fits,Nat.testBit_two_pow,low,decide_true,Bool.true_and,
        decide_not,@eq_comm _ (q % 64)]
  · have other : q ≠ p := fun same => word (by rw [same])
    simp [word,other]

theorem get_placed (limit start : Nat) (keep : Nat → Bool) (places : List Nat) (b : Bits) (q : Nat)
    (stored : limit ≤ b.capacity) :
    (places.foldl (fun b i => if keep i && start+i < limit then b.set (start+i) else b) b).get q = true ↔
      b.get q = true ∨ ∃ i ∈ places, keep i = true ∧ q = start+i ∧ q < limit := by
  induction places generalizing b with
  | nil => simp
  | cons i rest ih =>
    rw [List.foldl_cons]
    simp only [List.mem_cons,exists_eq_or_imp]
    by_cases kept : (keep i && start+i < limit) = true
    · rw [if_pos kept,ih _ (by simpa using stored),get_set]
      simp only [Bool.and_eq_true,decide_eq_true_eq] at kept
      have inside := Nat.lt_of_lt_of_le kept.2 stored
      by_cases same : q = start+i
      · subst q; simp [kept,inside]
      · simp [same]
    · rw [if_neg kept,ih _ stored]
      simp only [Bool.and_eq_true,decide_eq_true_eq] at kept
      by_cases same : q = start+i
      · subst q; simp [kept]
      · simp [same]

-- Bytes as digits to the base 256, the lowest first.
def littleEndian (bytes : List UInt8) : Nat := bytes.foldr (fun b n => 256*n + b.toNat) 0

-- The same with the highest first, as snapshots are written.
def bigEndian (bytes : List UInt8) : Nat := bytes.foldl (fun n b => 256*n + b.toNat) 0

theorem littleEndian_reverse (bytes : List UInt8) : littleEndian bytes.reverse = bigEndian bytes := by
  simp [littleEndian,bigEndian,List.foldr_reverse]

theorem testBit_digit (b : UInt8) (rest : List UInt8) (p : Nat) : (littleEndian (b :: rest)).testBit p =
    if p < 8 then b.toNat.testBit p else (littleEndian rest).testBit (p-8) :=
  Nat.testBit_two_pow_mul_add (i := 8) (littleEndian rest) b.toNat_lt p

@[simp] theorem capacity_placed (limit start : Nat) (keep : Nat → Bool) (places : List Nat) (b : Bits) :
    (places.foldl (fun b i => if keep i && start+i < limit then b.set (start+i) else b) b).capacity =
      b.capacity := by
  induction places generalizing b with
  | nil => rfl
  | cons i rest ih => rw [List.foldl_cons,ih]; split <;> simp

theorem get_bytes (limit start : Nat) (bytes : List UInt8) (b : Bits) (q : Nat) (stored : limit ≤ b.capacity) :
    (setBytes limit start b bytes).get q = true ↔
      b.get q = true ∨ (start ≤ q ∧ q < limit ∧ (littleEndian bytes).testBit (q-start) = true) := by
  induction bytes generalizing start b with
  | nil => simp [setBytes,littleEndian]
  | cons byte rest ih =>
    rw [setBytes,ih _ _ (by rw [setByte,capacity_placed]; exact stored),setByte,
      get_placed _ _ (fun i => byte.toNat.testBit i) _ _ _ stored,or_assoc]
    apply or_congr_right
    rw [testBit_digit,Nat.sub_sub]
    constructor
    · rintro (⟨i,small,bit,rfl,below⟩ | ⟨later,below,bit⟩)
      · have small : i < 8 := List.mem_range.mp small
        exact ⟨Nat.le_add_right _ _,below,by simpa [small] using bit⟩
      · refine ⟨by omega,below,?_⟩
        rw [if_neg (by omega)]
        exact bit
    · rintro ⟨from_start,below,bit⟩
      by_cases small : q-start < 8
      · exact .inl ⟨q-start,List.mem_range.mpr small,by simpa [small] using bit,by omega,below⟩
      · exact .inr ⟨by omega,below,by simpa [small] using bit⟩

theorem get_ofBytes (limit : Nat) (bytes : List UInt8) (q : Nat) :
    (ofBytes limit bytes).get q = true ↔ q < limit ∧ (bigEndian bytes).testBit q = true := by
  rw [ofBytes,get_bytes _ _ _ _ _ (capacity_ofCapacity limit),get_capacity,littleEndian_reverse]
  simp

theorem capacity_setBytes (limit start : Nat) (bytes : List UInt8) (b : Bits) :
    (setBytes limit start b bytes).capacity = b.capacity := by
  induction bytes generalizing start b with
  | nil => rfl
  | cons byte rest ih => rw [setBytes,ih,setByte,capacity_placed]

theorem capacity_ofBytes (limit : Nat) (bytes : List UInt8) :
    (ofBytes limit bytes).capacity = (ofCapacity limit).capacity := capacity_setBytes _ _ _ _

theorem bytesOfWord_value (w : UInt64) (rest : List UInt8) :
    littleEndian (bytesOfWord w ++ rest) = 2^64 * littleEndian rest + w.toNat := by
  have small := w.toNat_lt
  simp only [bytesOfWord,littleEndian,List.cons_append,List.nil_append,List.foldr_cons,
    UInt64.toNat_toUInt8,UInt64.toNat_shiftRight,UInt64.reduceToNat,Nat.reduceMod,Nat.shiftRight_eq_div_pow,
    Nat.reducePow]
  omega

-- A bit of the written number is a bit of the storage, word after word.
theorem testBit_words (ws : List UInt64) (p : Nat) :
    (littleEndian (ws.flatMap bytesOfWord)).testBit p =
      ((ws[p / 64]?).getD 0).toNat.testBit (p % 64) := by
  induction ws generalizing p with
  | nil => simp [littleEndian]
  | cons w rest ih =>
    rw [List.flatMap_cons,bytesOfWord_value,Nat.testBit_two_pow_mul_add _ w.toNat_lt]
    split
    · rename_i first
      rw [Nat.div_eq_of_lt first,Nat.mod_eq_of_lt first]
      rfl
    · rename_i later
      have index : p / 64 = (p-64) / 64 + 1 := by omega
      have place : p % 64 = (p-64) % 64 := by omega
      rw [ih,index,place,List.getElem?_cons_succ]

theorem bigEndian_dropZeros (bytes : List UInt8) : bigEndian (bytes.dropWhile (· == 0)) = bigEndian bytes := by
  induction bytes with
  | nil => rfl
  | cons b rest ih =>
    rw [List.dropWhile_cons]
    split
    · rename_i zero
      rw [ih,eq_of_beq zero]
      rfl
    · rfl

theorem testBit_toBytes (b : Bits) (p : Nat) : (bigEndian b.toBytes).testBit p = b.get p := by
  rw [toBytes,bigEndian_dropZeros,← littleEndian_reverse,List.reverse_reverse,testBit_words,get_word,wordAt,
    Array.getElem?_toList]

theorem toBytes_head (b : Bits) : b.toBytes.head? ≠ some 0 := by
  intro zero
  have := List.head?_dropWhile_not (· == (0 : UInt8)) (b.words.toList.flatMap bytesOfWord).reverse
  rw [toBytes] at zero
  simp [zero] at this

theorem mem_onesOfWord (start : Nat) (w : UInt64) (p : Nat) :
    p ∈ onesOfWord start w ↔ start ≤ p ∧ p < start+64 ∧ w.toNat.testBit (p-start) = true := by
  unfold onesOfWord
  split
  · rename_i zero
    simp [zero]
  · rw [List.mem_filter,List.mem_range'_1,masked_value,and_assoc]
    refine and_congr_right fun _ => and_congr_right fun _ => ?_
    rw [Nat.mod_eq_of_lt (by omega)]

theorem mem_onesOfWords (start : Nat) (ws : List UInt64) (p : Nat) :
    p ∈ onesOfWords start ws ↔
      start ≤ p ∧ ((ws[(p-start) / 64]?).getD 0).toNat.testBit ((p-start) % 64) = true := by
  induction ws generalizing start with
  | nil => simp [onesOfWords]
  | cons w rest ih =>
    rw [onesOfWords,List.mem_append,mem_onesOfWord,ih]
    by_cases first : p < start+64
    · have index : (p-start) / 64 = 0 ∨ p < start := by omega
      rcases index with index | early
      · have place : (p-start) % 64 = p-start := by omega
        simp only [index,place,List.getElem?_cons_zero,Option.getD_some]
        constructor
        · rintro (⟨low,_,bit⟩ | ⟨low,_⟩)
          · exact ⟨low,bit⟩
          · omega
        · rintro ⟨low,bit⟩; exact .inl ⟨low,first,bit⟩
      · constructor
        · rintro (⟨low,_⟩ | ⟨low,_⟩) <;> omega
        · rintro ⟨low,_⟩; omega
    · have index : (p-start) / 64 = (p-(start+64)) / 64 + 1 := by omega
      have place : (p-start) % 64 = (p-(start+64)) % 64 := by omega
      rw [index,place,List.getElem?_cons_succ]
      constructor
      · rintro (⟨_,low,_⟩ | ⟨low,bit⟩)
        · omega
        · exact ⟨by omega,bit⟩
      · rintro ⟨low,bit⟩; exact .inr ⟨by omega,bit⟩

theorem mem_ones (b : Bits) (p : Nat) : p ∈ b.ones ↔ b.get p = true := by
  rw [ones,mem_onesOfWords,get_word,wordAt,Array.getElem?_toList]
  simp

theorem onesOfWord_ascending (start : Nat) (w : UInt64) : (onesOfWord start w).Pairwise (· < ·) := by
  unfold onesOfWord
  split
  · exact .nil
  · exact List.Pairwise.filter _ (List.pairwise_lt_range')

theorem onesOfWords_ascending (start : Nat) (ws : List UInt64) : (onesOfWords start ws).Pairwise (· < ·) := by
  induction ws generalizing start with
  | nil => exact .nil
  | cons w rest ih =>
    rw [onesOfWords,List.pairwise_append]
    refine ⟨onesOfWord_ascending _ _,ih _,?_⟩
    intro p early q late
    have before := ((mem_onesOfWord _ _ _).mp early).2.1
    have after := ((mem_onesOfWords _ _ _).mp late).1
    omega

theorem ones_ascending (b : Bits) : b.ones.Pairwise (· < ·) := onesOfWords_ascending 0 _

end HostNet.Ipam.Bits
