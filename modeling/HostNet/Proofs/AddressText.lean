import HostNet.Subnet.Text
import Mathlib.Data.List.TakeDrop
import Mathlib.Tactic.IntervalCases

namespace HostNet.Address
open Text (Hex.digit?)

-- What may follow a numeral: nothing that could be one more digit of it.
def EndsNumeral (rest : List Char) : Prop := ∀ c, rest.head? = some c → Hex.digit? c = none

theorem nil_endsNumeral : EndsNumeral [] := by
  intro c head
  cases head

theorem cons_endsNumeral {c : Char} (sign : Hex.digit? c = none) : EndsNumeral (c :: rest) := by
  intro d head
  cases head
  exact sign

theorem digit_value (d : Nat) (small : d < 16) : Hex.digit? (Nat.digitChar d) = some d := by
  interval_cases d <;> decide

variable {radix : Nat}

theorem toDigits_induction {P : Nat → List Char → Prop} (large : 1 < radix)
    (single : ∀ n, n < radix → P n [n.digitChar])
    (longer : ∀ n, radix ≤ n → P (n / radix) (Nat.toDigits radix (n / radix)) →
      P n (Nat.toDigits radix (n / radix) ++ [(n % radix).digitChar])) (n : Nat) :
    P n (Nat.toDigits radix n) := by
  induction n using Nat.strongRecOn with
  | ind n ih =>
    by_cases few : n < radix
    · rw [Nat.toDigits_of_lt_base few]
      exact single n few
    · have many := Nat.le_of_not_lt few
      rw [Nat.toDigits_of_base_le large many]
      exact longer n many (ih _ (Nat.div_lt_self (by omega) large))

theorem digits_legible (large : 1 < radix) (small : radix ≤ 16) (n : Nat) :
    ∀ c ∈ Nat.toDigits radix n, ∃ d < radix, Hex.digit? c = some d := by
  induction n using toDigits_induction large with
  | single n few =>
    intro c member
    rw [List.mem_singleton.mp member]
    exact ⟨n,few,digit_value n (by omega)⟩
  | longer n many ih =>
    intro c member
    rcases List.mem_append.mp member with front | last
    · exact ih c front
    · rw [List.mem_singleton.mp last]
      have below := Nat.mod_lt n (by omega : 0 < radix)
      exact ⟨n % radix,below,digit_value _ (by omega)⟩

theorem digits_value (large : 1 < radix) (small : radix ≤ 16) (n : Nat) :
    ofDigits radix ((Nat.toDigits radix n).filterMap Hex.digit?) = n := by
  induction n using toDigits_induction large with
  | single n few => simp [digit_value n (by omega),ofDigits]
  | longer n many ih =>
    have below := Nat.mod_lt n (by omega : 0 < radix)
    rw [List.filterMap_append,ofDigits,List.foldl_append]
    rw [ofDigits] at ih
    simp [ih,digit_value (n % radix) (by omega),Nat.div_add_mod' n radix]

theorem leading_zero (large : 1 < radix) (n : Nat) :
    (Nat.toDigits radix n).head? = some '0' → n = 0 := by
  induction n using toDigits_induction large with
  | single n few =>
    intro head
    simpa using head
  | longer n many ih =>
    intro head
    have positive := Nat.div_pos many (by omega : 0 < radix)
    cases front : Nat.toDigits radix (n / radix) with
    | nil => exact absurd front Nat.toDigits_ne_nil
    | cons c tail =>
      rw [front] at head ih
      have := ih head
      omega

theorem readNumber_digits (large : 1 < radix) (small : radix ≤ 16) (n most limit : Nat) (zeros : Bool)
    (rest : List Char) (room : 0 < most) (short : n < radix^most) (below : n < limit)
    (ends : EndsNumeral rest) :
    readNumber radix most limit zeros (Nat.toDigits radix n ++ rest) = some (n,rest) := by
  have legible : ∀ c ∈ Nat.toDigits radix n, decide ((Hex.digit? c).getD radix < radix) = true := by
    intro c member
    obtain ⟨d,less,digit⟩ := digits_legible large small n c member
    simpa [digit] using less
  have stopped : rest.takeWhile (fun c => decide ((Hex.digit? c).getD radix < radix)) = [] ∧
      rest.dropWhile (fun c => decide ((Hex.digit? c).getD radix < radix)) = rest := by
    cases rest with
    | nil => exact ⟨rfl,rfl⟩
    | cons c tail => simp [ends c rfl]
  have long : (Nat.toDigits radix n).length ≤ most := (Nat.length_toDigits_le_iff large room).mpr short
  have canonical : (Nat.toDigits radix n).head? = some '0' → (Nat.toDigits radix n).length = 1 := by
    intro head
    rw [leading_zero large n head,Nat.toDigits_zero]
    rfl
  unfold readNumber
  simp only [List.span_eq_takeWhile_dropWhile,List.takeWhile_append_of_pos legible,
    List.dropWhile_append_of_pos legible,stopped.1,stopped.2,List.append_nil,digits_value large small]
  rw [if_neg (by simp [Nat.toDigits_ne_nil,Nat.not_lt.mpr long,below])]
  rw [if_neg (by simpa using fun _ => canonical)]

theorem readNumber_sign (most limit : Nat) (zeros : Bool) (rest : List Char)
    (none_read : ∀ c, rest.head? = some c → radix ≤ (Hex.digit? c).getD radix) :
    readNumber radix most limit zeros rest = none := by
  have empty : rest.takeWhile (fun c => decide ((Hex.digit? c).getD radix < radix)) = [] := by
    cases rest with
    | nil => rfl
    | cons c tail => simp [none_read c rfl]
  unfold readNumber
  simp [List.span_eq_takeWhile_dropWhile,empty]

theorem readSign_found (sign : Char) (rest : List Char) : readSign sign (sign :: rest) = some rest := by
  simp [readSign]

theorem readSign_absent (sign : Char) (rest : List Char) (absent : rest.head? ≠ some sign) :
    readSign sign rest = none := by
  cases rest with
  | nil => rfl
  | cons c tail => simpa [readSign] using absent

theorem readNumber_suffix (most limit : Nat) (zeros : Bool) (s : List Char)
    (read : readNumber radix most limit zeros s = some (n,rest)) : ∀ c ∈ rest, c ∈ s := by
  unfold readNumber at read
  simp only [List.span_eq_takeWhile_dropWhile] at read
  split at read
  · cases read
  · split at read
    · cases read
    · cases Option.some.inj read
      intro c member
      exact (List.dropWhile_suffix _).subset member

-- Four bytes have dots between them, so a text without a dot holds none.
theorem readOctets_dotless (zeros : Bool) (s : List Char) (dotless : '.' ∉ s) : readOctets zeros s = none := by
  unfold readOctets
  cases first : readNumber 10 3 256 zeros s with
  | none => simp [first]
  | some read =>
    have absent : read.2.head? ≠ some '.' := by
      intro dot
      exact dotless (readNumber_suffix 3 256 zeros s first '.' (List.mem_of_mem_head? dot))
    simp [first,readSign_absent '.' read.2 absent]

theorem readOctets_sign (zeros : Bool) (s : List Char)
    (sign : ∀ c, s.head? = some c → 10 ≤ (Hex.digit? c).getD 10) : readOctets zeros s = none := by
  unfold readOctets
  simp [@readNumber_sign 10 3 256 zeros s sign]

theorem endsNumeral_none_read (ends : EndsNumeral rest) :
    ∀ c, rest.head? = some c → radix ≤ (Hex.digit? c).getD radix := by
  intro c head
  simp [ends c head]

theorem dotted_read (zeros : Bool) (a b c d : Nat) (rest : List Char) (small : a < 256 ∧ b < 256 ∧ c < 256 ∧ d < 256)
    (ends : EndsNumeral rest) :
    readOctets zeros (dottedText [a,b,c,d] ++ rest) = some ([a,b,c,d],rest) := by
  have byte : ∀ n rest, n < 256 → EndsNumeral rest →
      readNumber 10 3 256 zeros (Nat.toDigits 10 n ++ rest) = some (n,rest) := by
    intro n rest below ends
    exact readNumber_digits (by decide) (by decide) n 3 256 zeros rest (by decide) (by omega) below ends
  have dot : ∀ rest, EndsNumeral ('.' :: rest) := fun rest => cons_endsNumeral (by decide)
  unfold readOctets
  simp only [dottedText,List.map_cons,List.map_nil,joined,Nat.toString_eq_repr,Nat.toList_repr,List.append_assoc,
    List.cons_append,List.nil_append,byte _ _ small.1 (dot _),byte _ _ small.2.1 (dot _),byte _ _ small.2.2.1 (dot _),
    byte _ _ small.2.2.2 ends,readSign_found,Option.bind_eq_bind,Option.bind_some]
  rfl

-- The same groups with a colon before each, as they stand after the first.
def colonGroups (groups : List Nat) : List Char := groups.flatMap fun g => ':' :: Text.Hex.ofNat g

theorem groupsText_cons (g : Nat) (rest : List Nat) :
    groupsText (g :: rest) = Text.Hex.ofNat g ++ colonGroups rest := by
  induction rest generalizing g with
  | nil => simp [groupsText,joined,colonGroups]
  | cons h tail ih =>
    have next := ih h
    simp only [groupsText,List.map_cons,joined,colonGroups,List.flatMap_cons] at next ⊢
    rw [next]
    simp

theorem hexGroup_read (g : Nat) (rest : List Char) (small : g < 65536) (ends : EndsNumeral rest) :
    readNumber 16 4 65536 true (Text.Hex.ofNat g ++ rest) = some (g,rest) :=
  readNumber_digits (by decide) (by decide) g 4 65536 true rest (by decide) (by omega) small ends

-- Where a run of groups ends: no colon with a group behind it.
def EndsGroups (rest : List Char) : Prop :=
  EndsNumeral rest ∧ ∀ inner, rest = ':' :: inner → EndsNumeral inner

theorem readGroups_first_end (zeros : Bool) (left : Nat) (rest : List Char) (ends : EndsNumeral rest) :
    readGroups zeros true left rest = ([],false,rest) := by
  cases left with
  | zero => rfl
  | succ left =>
    unfold readGroups
    simp only [if_true]
    rw [readOctets_sign zeros rest (endsNumeral_none_read ends),
      readNumber_sign 4 65536 true rest (endsNumeral_none_read ends)]
    simp

theorem readGroups_end (zeros : Bool) (left : Nat) (rest : List Char) (ends : EndsGroups rest) :
    readGroups zeros false left rest = ([],false,rest) := by
  cases left with
  | zero => rfl
  | succ left =>
    unfold readGroups
    cases rest with
    | nil => simp [readSign]
    | cons c inner =>
      by_cases colon : c = ':'
      · subst c
        have inside := ends.2 inner rfl
        simp only [readSign_found,Bool.false_eq_true,if_false]
        rw [readOctets_sign zeros inner (endsNumeral_none_read inside),
          readNumber_sign 4 65536 true inner (endsNumeral_none_read inside)]
        simp
      · simp [readSign,colon]

theorem hexGroup_undotted (g : Nat) : '.' ∉ Text.Hex.ofNat g := by
  intro dot
  obtain ⟨d,_,digit⟩ := @digits_legible 16 (by decide) (by decide) g '.' dot
  have sign : Hex.digit? '.' = none := by decide
  rw [sign] at digit
  cases digit

theorem colonGroups_undotted (groups : List Nat) : '.' ∉ colonGroups groups := by
  intro dot
  obtain ⟨g,_,inside⟩ := List.mem_flatMap.mp dot
  rcases List.mem_cons.mp inside with colon | digit
  · exact absurd colon (by decide)
  · exact hexGroup_undotted g digit

theorem colonGroups_ends (groups : List Nat) (ends : EndsNumeral rest) :
    EndsNumeral (colonGroups groups ++ rest) := by
  cases groups with
  | nil => simpa [colonGroups] using ends
  | cons g tail => exact cons_endsNumeral (by decide)

-- One group and what follows it, read with room for `left` more.
theorem readGroups_step (zeros first : Bool) (left g : Nat) (s rest : List Char)
    (begins : (if first then some s else readSign ':' s) = some (Text.Hex.ofNat g ++ rest))
    (small : g < 65536) (undotted : '.' ∉ rest) (ends : EndsNumeral rest) :
    readGroups zeros first (left+1) s =
      (g :: (readGroups zeros false left rest).1,(readGroups zeros false left rest).2) := by
  have plain : readOctets zeros (Text.Hex.ofNat g ++ rest) = none := by
    apply readOctets_dotless
    intro dot
    rcases List.mem_append.mp dot with digit | later
    · exact hexGroup_undotted g digit
    · exact undotted later
  rw [readGroups,begins]
  simp only [plain,ite_self,hexGroup_read g rest small ends]

theorem readGroups_colons (zeros : Bool) (groups : List Nat) (left : Nat) (rest : List Char)
    (room : groups.length ≤ left) (small : ∀ g ∈ groups, g < 65536) (undotted : '.' ∉ rest)
    (ends : EndsNumeral rest) (last : left = groups.length ∨ EndsGroups rest) :
    readGroups zeros false left (colonGroups groups ++ rest) = (groups,false,rest) := by
  induction groups generalizing left with
  | nil =>
    rcases last with full | ends
    · subst full; rfl
    · exact readGroups_end zeros left rest ends
  | cons g tail ih =>
    obtain ⟨more,rfl⟩ : ∃ more, left = more+1 := ⟨left-1,by simp only [List.length_cons] at room; omega⟩
    have inner : '.' ∉ colonGroups tail ++ rest := by
      rw [List.mem_append,not_or]
      exact ⟨colonGroups_undotted tail,undotted⟩
    have begins : (if false then some (colonGroups (g :: tail) ++ rest)
        else readSign ':' (colonGroups (g :: tail) ++ rest)) =
        some (Text.Hex.ofNat g ++ (colonGroups tail ++ rest)) := by
      simp [colonGroups,readSign_found]
    rw [readGroups_step zeros false more g _ _ begins (small g List.mem_cons_self) inner
      (colonGroups_ends tail ends)]
    rw [ih more (by simpa using room) (fun h member => small h (List.mem_cons_of_mem g member))
      (last.imp (by intro full; simpa using full) id)]

theorem readGroups_text (zeros : Bool) (groups : List Nat) (left : Nat) (rest : List Char)
    (room : groups.length ≤ left) (small : ∀ g ∈ groups, g < 65536) (undotted : groups ≠ [] → '.' ∉ rest)
    (ends : EndsNumeral rest) (last : left = groups.length ∨ EndsGroups rest) :
    readGroups zeros true left (groupsText groups ++ rest) = (groups,false,rest) := by
  cases groups with
  | nil => exact readGroups_first_end zeros left rest ends
  | cons g tail =>
    obtain ⟨more,rfl⟩ : ∃ more, left = more+1 := ⟨left-1,by simp only [List.length_cons] at room; omega⟩
    have plain := undotted (List.cons_ne_nil g tail)
    have inner : '.' ∉ colonGroups tail ++ rest := by
      rw [List.mem_append,not_or]
      exact ⟨colonGroups_undotted tail,plain⟩
    have begins : (if true then some (groupsText (g :: tail) ++ rest)
        else readSign ':' (groupsText (g :: tail) ++ rest)) =
        some (Text.Hex.ofNat g ++ (colonGroups tail ++ rest)) := by
      rw [groupsText_cons,List.append_assoc]
      rfl
    rw [readGroups_step zeros true more g _ _ begins (small g List.mem_cons_self) inner
      (colonGroups_ends tail ends)]
    rw [readGroups_colons zeros tail more rest (by simpa using room)
      (fun h member => small h (List.mem_cons_of_mem g member)) plain ends
      (last.imp (by intro full; simpa using full) id)]

theorem zeroRun_zeros (groups : List Nat) (count : Nat) (within : count ≤ zeroRun groups) :
    List.replicate count 0 ++ groups.drop count = groups := by
  induction groups generalizing count with
  | nil =>
    have : count = 0 := by simpa [zeroRun] using within
    simp [this]
  | cons g rest ih =>
    cases count with
    | zero => simp
    | succ count =>
      have zero : g = 0 := by
        by_contra other
        simp [zeroRun,other] at within
      have shorter : count ≤ zeroRun rest := by simpa [zeroRun,zero] using within
      rw [List.replicate_succ,List.drop_succ_cons,List.cons_append,ih count shorter,zero]

theorem zeroRun_le (groups : List Nat) : zeroRun groups ≤ groups.length :=
  (List.takeWhile_prefix _).length_le

theorem longestRun_zeros (groups : List Nat) :
    (longestRun groups).2 ≤ zeroRun (groups.drop (longestRun groups).1) := by
  have folded : ∀ (places : List Nat) (best : Nat × Nat), best.2 ≤ zeroRun (groups.drop best.1) →
      (places.foldl (fun best i => if best.2 < zeroRun (groups.drop i) then (i,zeroRun (groups.drop i))
        else best) best).2 ≤ zeroRun (groups.drop (places.foldl (fun best i =>
          if best.2 < zeroRun (groups.drop i) then (i,zeroRun (groups.drop i)) else best) best).1) := by
    intro places
    induction places with
    | nil => exact fun best held => held
    | cons i rest ih =>
      intro best held
      rw [List.foldl_cons]
      apply ih
      split
      · exact Nat.le_refl _
      · exact held
  exact folded _ (0,0) (Nat.zero_le _)

theorem octets_value (a : Address) (narrow : a.family = .v4) : ofDigits 256 a.octets = a.value := by
  have small : a.value < 2^32 := by simpa [narrow,Family.size,Family.width] using a.value_lt
  simp only [ofDigits,octets,List.foldl_cons,List.foldl_nil,Nat.shiftRight_eq_div_pow,Nat.reducePow]
  omega

theorem groups_eq (a : Address) : a.groups =
    [a.value / 2^112 % 65536,a.value / 2^96 % 65536,a.value / 2^80 % 65536,a.value / 2^64 % 65536,
      a.value / 2^48 % 65536,a.value / 2^32 % 65536,a.value / 2^16 % 65536,a.value % 65536] := by
  simp [groups,List.range_succ,Nat.shiftRight_eq_div_pow]

theorem groups_value (a : Address) (wide : a.family = .v6) : ofDigits 65536 a.groups = a.value := by
  have small : a.value < 2^128 := by simpa [wide,Family.size,Family.width] using a.value_lt
  rw [groups_eq]
  simp only [ofDigits,List.foldl_cons,List.foldl_nil]
  omega

theorem groups_small (a : Address) : ∀ g ∈ a.groups, g < 65536 := by
  intro g member
  obtain ⟨i,_,rfl⟩ := List.mem_map.mp member
  exact Nat.mod_lt _ (by decide)

theorem groups_length (a : Address) : a.groups.length = 8 := by simp [groups]

-- An address that stands for one of the narrow family has the four bytes at its end.
theorem mapped_value (a : Address) (mapped : a.isMapped = true) :
    ofDigits 65536 [0,0,0,0,0,65535,(a.value >>> 24) % 256 * 256 + (a.value >>> 16) % 256,
      (a.value >>> 8) % 256 * 256 + a.value % 256] = a.value := by
  have high : a.value / 2^32 = 65535 := by
    simp only [isMapped,Bool.and_eq_true,beq_iff_eq,Nat.shiftRight_eq_div_pow] at mapped
    exact mapped.2
  simp only [ofDigits,List.foldl_cons,List.foldl_nil,Nat.shiftRight_eq_div_pow,Nat.reducePow] at high ⊢
  omega

theorem ofNat_value (a : Address) : ofNat a.family a.value = a := by
  obtain ⟨family,value,below⟩ := a
  simp [ofNat,Nat.mod_eq_of_lt below]

-- What may follow an address: an end, or a sign that no part of an address begins with.
def EndsAddress (rest : List Char) : Prop := EndsNumeral rest ∧ '.' ∉ rest ∧ rest.head? ≠ some ':'

theorem EndsAddress.groups (ends : EndsAddress rest) : EndsGroups rest := by
  refine ⟨ends.1,?_⟩
  rintro inner rfl
  exact absurd rfl ends.2.2

theorem groupsText_undotted (groups : List Nat) : '.' ∉ groupsText groups := by
  cases groups with
  | nil => simp [groupsText,joined]
  | cons g rest =>
    rw [groupsText_cons,List.mem_append,not_or]
    exact ⟨hexGroup_undotted g,colonGroups_undotted rest⟩

theorem colon_sign : Hex.digit? ':' = none := by decide

theorem readWide_plain (spelling : Spelling) (groups : List Nat) (rest : List Char) (eight : groups.length = 8)
    (small : ∀ g ∈ groups, g < 65536) (ends : EndsAddress rest) :
    readWide spelling (groupsText groups ++ rest) = some (ofNat .v6 (ofDigits 65536 groups),rest) := by
  unfold readWide
  rw [readGroups_text spelling.zeros groups 8 rest (by omega) small (fun _ => ends.2.1) ends.1 (.inl eight.symm)]
  simp [eight]

-- The double colon stands for as many zero groups as the others leave room for.
theorem readWide_run (spelling : Spelling) (front back : List Nat) (rest : List Char)
    (room : front.length + back.length < 7) (small : ∀ g ∈ front ++ back, g < 65536) (ends : EndsAddress rest) :
    readWide spelling (groupsText front ++ (':' :: ':' :: (groupsText back ++ rest))) =
      some (ofNat .v6 (ofDigits 65536 (front ++ List.replicate (8-front.length-back.length) 0 ++ back)),rest) := by
  have undotted : '.' ∉ ':' :: ':' :: (groupsText back ++ rest) := by
    simp [groupsText_undotted,ends.2.1]
  have separated : EndsGroups (':' :: ':' :: (groupsText back ++ rest)) := by
    refine ⟨cons_endsNumeral colon_sign,?_⟩
    intro inner same
    rw [← (List.cons.inj same).2]
    exact cons_endsNumeral colon_sign
  have least : back.length ≤ if spelling.emptyRun then 8-front.length else 7-front.length := by
    split <;> omega
  have before := readGroups_text spelling.zeros front 8 _ (by omega)
    (fun g member => small g (List.mem_append_left _ member)) (fun _ => undotted) separated.1 (.inr separated)
  have after := readGroups_text spelling.zeros back _ rest least
    (fun g member => small g (List.mem_append_right _ member)) (fun _ => ends.2.1) ends.1 (.inr ends.groups)
  unfold readWide
  rw [before]
  simp only [show front.length ≠ 8 by omega,if_false,Bool.false_eq_true,readSign_found,Option.bind_eq_bind,
    Option.bind_some,after]
  rfl

theorem readGroups_mapped (zeros : Bool) (left a b c d : Nat) (rest : List Char)
    (small : a < 256 ∧ b < 256 ∧ c < 256 ∧ d < 256) (ends : EndsNumeral rest) :
    readGroups zeros true (left+3) (Text.Hex.ofNat 65535 ++ (':' :: (dottedText [a,b,c,d] ++ rest))) =
      ([65535,a*256+b,c*256+d],true,rest) := by
  have digit : Text.Hex.ofNat 65535 = ['f','f','f','f'] := by decide
  have plain : readOctets zeros (Text.Hex.ofNat 65535 ++ (':' :: (dottedText [a,b,c,d] ++ rest))) = none := by
    apply readOctets_sign
    intro sign head
    rw [digit] at head
    cases head
    decide
  rw [readGroups]
  simp only [if_true,plain,ite_self,hexGroup_read 65535 _ (by decide) (cons_endsNumeral colon_sign)]
  rw [readGroups]
  simp [readSign_found,dotted_read zeros a b c d rest small ends]

theorem readWide_mapped (spelling : Spelling) (a b c d : Nat) (rest : List Char)
    (small : a < 256 ∧ b < 256 ∧ c < 256 ∧ d < 256) (ends : EndsNumeral rest) :
    readWide spelling (':' :: ':' :: (Text.Hex.ofNat 65535 ++ (':' :: (dottedText [a,b,c,d] ++ rest)))) =
      some (ofNat .v6 (ofDigits 65536 [0,0,0,0,0,65535,a*256+b,c*256+d]),rest) := by
  have before := readGroups_first_end spelling.zeros 8
    (':' :: ':' :: (Text.Hex.ofNat 65535 ++ (':' :: (dottedText [a,b,c,d] ++ rest)))) (cons_endsNumeral colon_sign)
  obtain ⟨left,room⟩ : ∃ left, (if spelling.emptyRun then 8 else 7) = left+3 := by
    cases spelling.emptyRun
    · exact ⟨4,rfl⟩
    · exact ⟨5,rfl⟩
  have after := readGroups_mapped spelling.zeros left a b c d rest small ends
  unfold readWide
  rw [before]
  simp only [List.length_nil,Nat.sub_zero,room,readSign_found,Option.bind_eq_bind,Option.bind_some,after]
  rfl

theorem mapped_chars (a : Address) (wide : a.family = .v6) (mapped : a.isMapped = true) :
    a.chars = ':' :: ':' :: (Text.Hex.ofNat 65535 ++ (':' :: dottedText a.octets)) := by
  have opening : "::ffff:".toList = ':' :: ':' :: (Text.Hex.ofNat 65535 ++ [':']) := by decide
  unfold chars
  rw [wide]
  dsimp only
  rw [if_pos mapped,opening]
  simp

theorem wide_read (spelling : Spelling) (a : Address) (wide : a.family = .v6) (rest : List Char)
    (ends : EndsAddress rest) : readWide spelling (a.chars ++ rest) = some (a,rest) := by
  have same : ofNat .v6 a.value = a := by rw [← wide,ofNat_value]
  by_cases mapped : a.isMapped = true
  · have small : ∀ n, n % 256 < 256 := fun n => Nat.mod_lt n (by decide)
    have read := readWide_mapped spelling ((a.value >>> 24) % 256) ((a.value >>> 16) % 256)
      ((a.value >>> 8) % 256) (a.value % 256) rest ⟨small _,small _,small _,small _⟩ ends.1
    rw [mapped_value a mapped,same] at read
    rw [mapped_chars a wide mapped,List.cons_append,List.cons_append,List.append_assoc,List.cons_append]
    exact read
  · have zeros := longestRun_zeros a.groups
    unfold chars
    rw [wide]
    simp only [if_neg mapped]
    by_cases run : 1 < (longestRun a.groups).2
    · simp only [if_pos run]
      generalize (longestRun a.groups).1 = start at *
      generalize (longestRun a.groups).2 = count at *
      have length := groups_length a
      have inside : count ≤ (a.groups.drop start).length := zeros.trans (zeroRun_le _)
      rw [List.length_drop,length] at inside
      have whole : a.groups.take start ++ List.replicate count 0 ++ a.groups.drop (start+count) = a.groups := by
        rw [List.append_assoc,← List.drop_drop,zeroRun_zeros _ _ zeros,List.take_append_drop]
      have front : (a.groups.take start).length = start := by rw [List.length_take,length]; omega
      have back : (a.groups.drop (start+count)).length = 8-(start+count) := by rw [List.length_drop,length]
      have small : ∀ g ∈ a.groups.take start ++ a.groups.drop (start+count), g < 65536 := by
        intro g member
        rcases List.mem_append.mp member with early | late
        · exact groups_small a g (List.mem_of_mem_take early)
        · exact groups_small a g (List.mem_of_mem_drop late)
      have read := readWide_run spelling _ _ rest (by omega) small ends
      rw [front,back,show 8-start-(8-(start+count)) = count by omega,whole,groups_value a wide,same] at read
      simpa using read
    · simp only [if_neg run]
      have read := readWide_plain spelling a.groups rest (groups_length a) (groups_small a) ends
      rwa [groups_value a wide,same] at read

theorem narrow_read (spelling : Spelling) (a : Address) (narrow : a.family = .v4) (rest : List Char)
    (ends : EndsNumeral rest) : readNarrow spelling (a.chars ++ rest) = some (a,rest) := by
  have same : ofNat .v4 a.value = a := by rw [← narrow,ofNat_value]
  have small : ∀ n, n % 256 < 256 := fun n => Nat.mod_lt n (by decide)
  have read := dotted_read spelling.zeros ((a.value >>> 24) % 256) ((a.value >>> 16) % 256)
      ((a.value >>> 8) % 256) (a.value % 256) rest ⟨small _,small _,small _,small _⟩ ends
  have value := octets_value a narrow
  unfold octets at value
  unfold readNarrow chars octets
  rw [narrow]
  simp only [read,Option.bind_eq_bind,Option.bind_some,value,same]
  rfl

-- A wide address begins with a colon or with a group before one, never with a decimal byte and a dot.
theorem wide_not_narrow (spelling : Spelling) (a : Address) (wide : a.family = .v6) (rest : List Char)
    (undotted : '.' ∉ rest) : readNarrow spelling (a.chars ++ rest) = none := by
  have colon : ∀ tail c, (':' :: tail : List Char).head? = some c → 10 ≤ (Hex.digit? c).getD 10 := by
    intro tail c head
    cases head
    decide
  have octets : readOctets spelling.zeros (a.chars ++ rest) = none := by
    by_cases mapped : a.isMapped = true
    · rw [mapped_chars a wide mapped]
      exact readOctets_sign _ _ (colon _)
    · apply readOctets_dotless
      unfold chars
      rw [wide]
      simp only [if_neg mapped]
      split
      · simp [groupsText_undotted,undotted]
      · simp [groupsText_undotted,undotted]
  unfold readNarrow
  simp [octets]

-- Reading takes back every address as it is written.
theorem parse_text (a : Address) : parse? a.text = some a := by
  unfold parse? text
  rw [String.toList_ofList]
  cases family : a.family with
  | v4 =>
    have read := narrow_read .strict a family [] nil_endsNumeral
    rw [List.append_nil] at read
    simp [read]
  | v6 =>
    have ends : EndsAddress [] := ⟨nil_endsNumeral,by simp,by simp⟩
    have other := wide_not_narrow .strict a family [] ends.2.1
    have read := wide_read .strict a family [] ends
    rw [List.append_nil] at other read
    simp [other,read]

theorem text_injective {a b : Address} (same : a.text = b.text) : a = b := by
  have read := parse_text a
  rw [same,parse_text b] at read
  exact (Option.some.inj read).symm

end HostNet.Address

namespace HostNet.Subnet
open Address

theorem readLength_text (s : Subnet) :
    readLength s.address ('/' :: (toString s.length).toList) = some s := by
  obtain ⟨address,length,within⟩ := s
  have width : address.family.width = 32 ∨ address.family.width = 128 := by cases address.family <;> simp [Family.width]
  have kept : ofAddress address length = ⟨address,length,within⟩ := by
    simp [ofAddress,Nat.min_eq_left within]
  have digits : (toString length).toList = Nat.toDigits 10 length := by
    rw [Nat.toString_eq_repr,Nat.toList_repr]
  have numeral : ∀ most, 0 < most → length < 10^most →
      readNumber 10 most (address.family.width+1) true (Nat.toDigits 10 length) = some (length,[]) := by
    intro most room short
    have read := @readNumber_digits 10 (by decide) (by decide) length most (address.family.width+1) true []
      room short (by omega) nil_endsNumeral
    rwa [List.append_nil] at read
  unfold readLength
  rw [readSign_found,digits]
  cases family : address.family with
  | v4 =>
    have read := numeral 2 (by decide) (by rw [family,Family.width] at within; omega)
    rw [family] at read
    simp [read,kept]
  | v6 =>
    have read := numeral 3 (by decide) (by rw [family,Family.width] at within; omega)
    rw [family] at read
    simp [read,kept]

theorem length_endsAddress (s : Subnet) : EndsAddress ('/' :: (toString s.length).toList) := by
  refine ⟨cons_endsNumeral (by decide),?_,by simp⟩
  rw [Nat.toString_eq_repr,Nat.toList_repr,List.mem_cons,not_or]
  refine ⟨by decide,?_⟩
  intro dot
  obtain ⟨d,_,digit⟩ := @digits_legible 10 (by decide) (by decide) s.length '.' dot
  have sign : Text.Hex.digit? '.' = none := by decide
  rw [sign] at digit
  cases digit

theorem text_chars (s : Subnet) : s.text.toList = s.address.chars ++ ('/' :: (toString s.length).toList) := by
  simp [text,Address.text]

-- Reading takes back every subnet as it is written, host bits included.
theorem parse_text (s : Subnet) : parse? s.text = some s := by
  have ends := length_endsAddress s
  unfold parse?
  rw [text_chars]
  cases family : s.address.family with
  | v4 =>
    simp only [narrow_read .lenient s.address family _ ends.1,Option.bind_some,readLength_text s,Option.some_or]
  | v6 =>
    simp only [wide_not_narrow .lenient s.address family _ ends.2.1,wide_read .lenient s.address family _ ends,
      Option.bind_none,Option.bind_some,readLength_text s,Option.none_or]

theorem text_injective {s t : Subnet} (same : s.text = t.text) : s = t := by
  have read := parse_text s
  rw [same,parse_text t] at read
  exact (Option.some.inj read).symm

-- The slash tells subnets from addresses.
theorem text_not_address (s : Subnet) (a : Address) : s.text ≠ a.text := by
  intro same
  have read := Address.parse_text a
  have ends := length_endsAddress s
  rw [← same,Address.parse?,text_chars] at read
  cases family : s.address.family with
  | v4 =>
    rw [narrow_read .strict s.address family _ ends.1,Option.some_or] at read
    cases read
  | v6 =>
    rw [wide_not_narrow .strict s.address family _ ends.2.1,wide_read .strict s.address family _ ends,
      Option.none_or] at read
    cases read

end HostNet.Subnet
