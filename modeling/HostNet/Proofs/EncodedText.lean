import HostNet.Text.Base64
import HostNet.Text.Utf8
import Mathlib.Data.List.Forall2

namespace HostNet.Text

theorem toList_bytes (bytes : ByteArray) : bytes.toList = bytes.data.toList := by
  have rest : ∀ i seen, ByteArray.toList.loop bytes i seen = seen.reverse ++ bytes.data.toList.drop i := by
    intro i seen
    induction i, seen using ByteArray.toList.loop.induct bytes with
    | case1 i seen inside ih =>
      have within : i < bytes.data.toList.length := inside
      have next : bytes.get! i = bytes.data.toList[i] := getElem!_pos bytes.data i inside
      rw [ByteArray.toList.loop,if_pos inside,ih,List.drop_eq_getElem_cons within,next]
      simp
    | case2 i seen outside =>
      have beyond : bytes.data.toList.length ≤ i := Nat.le_of_not_lt outside
      rw [ByteArray.toList.loop,if_neg outside,List.drop_eq_nil_of_le beyond,List.append_nil]
  rw [ByteArray.toList,rest]
  simp

theorem utf8_chars (s : String) : s.toUTF8.toList = s.toList.flatMap String.utf8EncodeChar := by
  rw [toList_bytes,String.toUTF8_eq_toByteArray,← String.utf8Encode_toList,List.utf8Encode,
    List.toList_data_toByteArray]

-- Bytes written for a text are read back as it.
theorem ofUtf8_utf8 (s : String) : ofUtf8? s.toUTF8.toList = some s := by
  have bytes : (⟨s.toUTF8.toList.toArray⟩ : ByteArray) = s.toUTF8 := by
    rw [toList_bytes]
  rw [ofUtf8?,bytes,String.fromUTF8?,dif_pos (show s.toUTF8.IsValidUTF8 from s.isValidUTF8)]
  rfl

end HostNet.Text

namespace HostNet.Text.Base64

-- The symbols in the order of their values.
def alphabet : List UInt8 :=
  "ABCDEFGHIJKLMNOPQRSTUVWXYZabcdefghijklmnopqrstuvwxyz0123456789+/".toList.map fun c => UInt8.ofNat c.toNat

-- Standard base64 with padding: each group of four symbols has the bits of its bytes, and those that are left over are
-- zero.
inductive Standard : List UInt8 → List UInt8 → Prop where
  | nil : Standard [] []
  | one (first : alphabet[i]? = some a) (second : alphabet[j]? = some b) (whole : 64 * i + j = 16 * x.toNat) :
      Standard [a,b,pad,pad] [x]
  | two (first : alphabet[i]? = some a) (second : alphabet[j]? = some b) (third : alphabet[k]? = some c)
      (whole : 64 * (64 * i + j) + k = 4 * (256 * x.toNat + y.toNat)) : Standard [a,b,c,pad] [x,y]
  | three (first : alphabet[i]? = some a) (second : alphabet[j]? = some b) (third : alphabet[k]? = some c)
      (fourth : alphabet[l]? = some d)
      (whole : 64 * (64 * (64 * i + j) + k) + l = 256 * (256 * x.toNat + y.toNat) + z.toNat)
      (others : Standard text bytes) : Standard (a :: b :: c :: d :: text) (x :: y :: z :: bytes)

theorem symbol_value : ∀ n < 64, alphabet[n]? = some (UInt8.ofNat (symbol n).toNat) ∧
    value? (UInt8.ofNat (symbol n).toNat) = some n := by decide +kernel

theorem value_symbol : ∀ v < 256, ∀ n ∈ value? (UInt8.ofNat v), alphabet[n]? = some (UInt8.ofNat v) := by
  decide +kernel

theorem alphabet_length : alphabet.length = 64 := by decide +kernel

theorem value_iff {b : UInt8} {n : Nat} : value? b = some n ↔ alphabet[n]? = some b := by
  constructor
  · intro known
    have back := value_symbol b.toNat b.toNat_lt n
    rw [UInt8.ofNat_toNat] at back
    exact back known
  · intro found
    obtain ⟨inside,_⟩ := List.getElem?_eq_some_iff.mp found
    obtain ⟨same,known⟩ := symbol_value n (alphabet_length ▸ inside)
    rw [found] at same
    rwa [Option.some.inj same]

theorem value_lt {b : UInt8} {n : Nat} (known : value? b = some n) : n < 64 := by
  obtain ⟨inside,_⟩ := List.getElem?_eq_some_iff.mp (value_iff.mp known)
  rwa [alphabet_length] at inside

theorem pad_value : value? pad = none := by decide

theorem symbol_unpadded {b : UInt8} {n : Nat} (known : value? b = some n) : b ≠ pad := by
  rintro rfl
  rw [pad_value] at known
  cases known

-- The last group, which begins at position `start`.
def finishGroup (start : Nat) (group : List UInt8) : Except Error (List UInt8) := do
  let tail ← readTail start 0 {} group
  if tail.values.length < 2 then throw (.length (start + tail.values.length))
  if (tail.pads + tail.values.length) % 4 != 0 then throw .padding
  finishTail start tail

-- A last group with its bytes: two, three or four symbols, and padding in the places that are left.
def LastGroup (a b c d : UInt8) (bytes : List UInt8) : Prop :=
  ∃ i j, value? a = some i ∧ value? b = some j ∧
      ((c = pad ∧ d = pad ∧ j % 16 = 0 ∧ bytes = [UInt8.ofNat (i * 4 + j / 16)]) ∨
      (∃ k, value? c = some k ∧ d = pad ∧ k % 4 = 0 ∧
        bytes = [UInt8.ofNat (((i * 64 + j) * 64 + k) / 1024),UInt8.ofNat (((i * 64 + j) * 64 + k) / 4 % 256)]) ∨
      ∃ k l, value? c = some k ∧ value? d = some l ∧ bytes = wholeGroups [i,j,k,l])

theorem finishGroup_last {a b c d : UInt8} {bytes : List UInt8} (start : Nat) :
    finishGroup start [a,b,c,d] = .ok bytes ↔ LastGroup a b c d bytes := by
  unfold LastGroup finishGroup
  cases first : value? a with
  | none => by_cases padding : a = pad <;> simp [readTail,first,padding,bind,Except.bind]
  | some i =>
    have plain := beq_eq_false_iff_ne.mpr (symbol_unpadded first)
    cases second : value? b with
    | none => by_cases padding : b = pad <;> simp [readTail,first,plain,second,padding,bind,Except.bind]
    | some j =>
      have plain' := beq_eq_false_iff_ne.mpr (symbol_unpadded second)
      by_cases third : c = pad
      · subst third
        by_cases fourth : d = pad
        · subst fourth
          by_cases unused : j % 16 = 0
          · simp [readTail,finishTail,first,second,plain,plain',pad_value,unused,bind,Except.bind]
            exact eq_comm
          · simp [readTail,finishTail,first,second,plain,plain',pad_value,unused,bind,Except.bind]
        · simp [readTail,first,second,plain,plain',pad_value,fourth,bind,Except.bind]
      · cases known : value? c with
        | none => simp [readTail,first,second,plain,plain',third,known,bind,Except.bind]
        | some k =>
          by_cases fourth : d = pad
          · subst fourth
            by_cases unused : k % 4 = 0
            · simp [readTail,finishTail,first,second,plain,plain',third,known,pad_value,unused,bind,Except.bind]
              exact eq_comm
            · simp [readTail,finishTail,first,second,plain,plain',third,known,pad_value,unused,bind,Except.bind]
          · cases last : value? d with
            | none => simp [readTail,first,second,plain,plain',third,known,fourth,last,bind,Except.bind]
            | some l =>
              simp [readTail,finishTail,first,second,plain,plain',third,known,fourth,last,bind,Except.bind]
              exact eq_comm

-- Reading the last group counts its places.
theorem readTail_length {start i : Nat} {tail t : Tail} {group : List UInt8}
    (ran : readTail start i tail group = .ok t) :
    t.pads + t.values.length = tail.pads + tail.values.length + group.length := by
  induction group generalizing i tail with
  | nil =>
    cases Except.ok.inj ran
    rfl
  | cons b rest ih =>
    unfold readTail at ran
    split at ran
    · split at ran
      · cases ran
      · rw [ih ran,List.length_cons]
        dsimp only
        omega
    · split at ran
      · cases ran
      · split at ran
        · cases ran
        · rw [ih ran,List.length_append,List.length_singleton,List.length_cons]
          dsimp only
          omega

theorem finishGroup_length {start : Nat} {group bytes : List UInt8} (ran : finishGroup start group = .ok bytes) :
    group.length % 4 = 0 := by
  unfold finishGroup at ran
  cases read : readTail start 0 {} group with
  | error e => simp [read,bind,Except.bind] at ran
  | ok tail =>
    have counted := readTail_length read
    simp only [read,bind,Except.bind] at ran
    by_cases whole : (tail.pads + tail.values.length) % 4 = 0
    · have none_ : ({} : Tail).pads + ({} : Tail).values.length = 0 := rfl
      rw [none_,Nat.zero_add] at counted
      rwa [← counted]
    · split at ran
      · cases ran
      · simp [whole,throw,throwThe,MonadExceptOf.throw] at ran

theorem values_ok {offset : Nat} {text : List UInt8} {vs : List Nat} :
    values offset text = .ok vs ↔ List.Forall₂ (fun b n => value? b = some n) text vs := by
  induction text generalizing offset vs with
  | nil =>
    rw [values,List.forall₂_nil_left_iff,Except.ok.injEq]
    exact eq_comm
  | cons b rest ih =>
    rw [values,List.forall₂_cons_left_iff]
    cases known : value? b with
    | none => simp
    | some n =>
      cases others : values (offset + 1) rest with
      | error e =>
        have none_ : ∀ us, ¬List.Forall₂ (fun b n => value? b = some n) rest us :=
          fun us all => by rw [ih.mpr all] at others; cases others
        simp [none_,bind,Except.bind]
      | ok us =>
        have all := ih.mp others
        simp only [bind,Except.bind,pure,Except.pure,Except.ok.injEq]
        constructor
        · rintro rfl
          exact ⟨n,us,rfl,all,rfl⟩
        · rintro ⟨m,ws,same,more,rfl⟩
          cases same
          rw [ih.mpr more] at others
          rw [Except.ok.inj others]

-- Where the last group begins.
def lastStart (text : List UInt8) : Nat := (text.length - 1) / 4 * 4

-- What is read where no single symbol is too many.
def readGroups (text : List UInt8) : Except Error (List UInt8) := do
  let front ← values 0 (text.take (lastStart text))
  let last ← finishGroup (lastStart text) (text.drop (lastStart text))
  return wholeGroups front ++ last

theorem decode_groups {text : List UInt8} (filled : text ≠ []) :
    decode text = readGroups text ∨ (text.length % 4 = 1 ∧ ∃ e, decode text = .error e) := by
  have filled' : text.isEmpty = false := by simpa using filled
  unfold decode
  extract_lets start body
  have same : body () = readGroups text := by
    unfold body readGroups finishGroup lastStart
    cases values 0 (text.take ((text.length - 1) / 4 * 4)) with
    | error e => rfl
    | ok front =>
      cases readTail ((text.length - 1) / 4 * 4) 0 {} (text.drop ((text.length - 1) / 4 * 4)) with
      | error e => rfl
      | ok tail =>
        by_cases few : tail.values.length < 2
        · simp [filled',few,start,bind,Except.bind,throw,throwThe,MonadExceptOf.throw]
        · by_cases odd : (tail.pads + tail.values.length) % 4 = 0
          · simp [filled',few,odd,start,bind,Except.bind]
          · simp [filled',few,odd,bind,Except.bind,throw,throwThe,MonadExceptOf.throw]
  split
  · rename_i lone
    split
    · split
      · exact .inr ⟨lone,_,rfl⟩
      · exact .inl same
    · exact .inl same
  · exact .inl same

-- What is read ends in a full group, and the groups before it are four symbols each.
theorem decode_ok {text bytes : List UInt8} (filled : text ≠ []) : decode text = .ok bytes ↔
    ∃ front a b c d last, List.Forall₂ (fun b n => value? b = some n) (text.take (lastStart text)) front ∧
      text.drop (lastStart text) = [a,b,c,d] ∧ LastGroup a b c d last ∧ wholeGroups front ++ last = bytes := by
  have parts : readGroups text = .ok bytes ↔
      ∃ front last, List.Forall₂ (fun b n => value? b = some n) (text.take (lastStart text)) front ∧
        finishGroup (lastStart text) (text.drop (lastStart text)) = .ok last ∧ wholeGroups front ++ last = bytes := by
    unfold readGroups
    simp only [← @values_ok 0]
    cases values 0 (text.take (lastStart text)) with
    | error e => simp [bind,Except.bind]
    | ok front =>
      cases finishGroup (lastStart text) (text.drop (lastStart text)) with
      | error e => simp [bind,Except.bind]
      | ok last => simp [bind,Except.bind,pure,Except.pure]
  have left : (text.drop (lastStart text)).length = text.length - lastStart text := List.length_drop
  have some_ : 0 < text.length := List.length_pos_iff.mpr filled
  constructor
  · intro read
    have read : readGroups text = .ok bytes := by
      rcases decode_groups filled with same | ⟨_,e,refused⟩
      · rwa [← same]
      · rw [refused] at read
        cases read
    obtain ⟨front,last,known,finished,whole⟩ := parts.mp read
    have full := finishGroup_length finished
    have four : (text.drop (lastStart text)).length = 4 := by
      unfold lastStart at left full ⊢
      omega
    obtain ⟨a,b,c,d,group⟩ := List.length_eq_four.mp four
    rw [group,finishGroup_last] at finished
    exact ⟨front,a,b,c,d,last,known,group,finished,whole⟩
  · rintro ⟨front,a,b,c,d,last,known,group,quad,whole⟩
    have read := parts.mpr ⟨front,last,known,by rwa [group,finishGroup_last],whole⟩
    rcases decode_groups filled with same | ⟨lone,_⟩
    · rwa [same]
    · rw [group] at left
      unfold lastStart at left
      simp only [List.length_cons,List.length_nil] at left
      omega

section
variable {i j k l : Nat} {x y z : UInt8}

theorem byte_of (small : n < 256) : UInt8.ofNat n = x ↔ n = x.toNat := by
  rw [← UInt8.toNat_inj,UInt8.toNat_ofNat_of_lt' small]

theorem one_byte (first : i < 64) (second : j < 64) :
    j % 16 = 0 ∧ UInt8.ofNat (i * 4 + j / 16) = x ↔ 64 * i + j = 16 * x.toNat := by
  rw [byte_of (by omega)]
  omega

theorem two_bytes (first : i < 64) (second : j < 64) (third : k < 64) :
    k % 4 = 0 ∧ UInt8.ofNat (((i * 64 + j) * 64 + k) / 1024) = x ∧
      UInt8.ofNat (((i * 64 + j) * 64 + k) / 4 % 256) = y ↔
    64 * (64 * i + j) + k = 4 * (256 * x.toNat + y.toNat) := by
  have limit := y.toNat_lt
  rw [byte_of (by omega),byte_of (by omega)]
  omega

theorem three_bytes (first : i < 64) (second : j < 64) (third : k < 64) (fourth : l < 64) :
    wholeGroups [i,j,k,l] = [x,y,z] ↔
      64 * (64 * (64 * i + j) + k) + l = 256 * (256 * x.toNat + y.toNat) + z.toNat := by
  have middle := y.toNat_lt
  have limit := z.toNat_lt
  simp only [wholeGroups,List.cons.injEq,and_true]
  rw [byte_of (by omega),byte_of (by omega),byte_of (by omega)]
  omega

end

theorem wholeGroups_four (i j k l : Nat) (rest : List Nat) :
    wholeGroups (i :: j :: k :: l :: rest) = wholeGroups [i,j,k,l] ++ wholeGroups rest := by
  simp [wholeGroups]

theorem wholeGroups_three (i j k l : Nat) : ∃ x y z, wholeGroups [i,j,k,l] = [x,y,z] := ⟨_,_,_,rfl⟩

theorem lastGroup_standard {a b c d : UInt8} {bytes : List UInt8} :
    LastGroup a b c d bytes ↔ Standard [a,b,c,d] bytes := by
  constructor
  · rintro ⟨i,j,first,second,⟨rfl,rfl,unused,rfl⟩ | ⟨k,third,rfl,unused,rfl⟩ | ⟨k,l,third,fourth,rfl⟩⟩
    · exact .one (value_iff.mp first) (value_iff.mp second)
        ((one_byte (value_lt first) (value_lt second)).mp ⟨unused,rfl⟩)
    · exact .two (value_iff.mp first) (value_iff.mp second) (value_iff.mp third)
        ((two_bytes (value_lt first) (value_lt second) (value_lt third)).mp ⟨unused,rfl,rfl⟩)
    · exact .three (value_iff.mp first) (value_iff.mp second) (value_iff.mp third) (value_iff.mp fourth)
        ((three_bytes (value_lt first) (value_lt second) (value_lt third) (value_lt fourth)).mp rfl) .nil
  · intro standard
    cases standard with
    | one first second whole =>
      rw [← value_iff] at first second
      obtain ⟨unused,rfl⟩ := (one_byte (value_lt first) (value_lt second)).mpr whole
      exact ⟨_,_,first,second,.inl ⟨rfl,rfl,unused,rfl⟩⟩
    | two first second third whole =>
      rw [← value_iff] at first second third
      obtain ⟨unused,rfl,rfl⟩ := (two_bytes (value_lt first) (value_lt second) (value_lt third)).mpr whole
      exact ⟨_,_,first,second,.inr (.inl ⟨_,third,rfl,unused,rfl⟩)⟩
    | three first second third fourth whole others =>
      rw [← value_iff] at first second third fourth
      cases others
      have bytes := (three_bytes (value_lt first) (value_lt second) (value_lt third) (value_lt fourth)).mpr whole
      exact ⟨_,_,first,second,.inr (.inr ⟨_,_,third,fourth,bytes.symm⟩)⟩

-- A group that is not the last one is read first, and the others as they would be without it.
theorem decode_long {a b c d : UInt8} {text bytes : List UInt8} (more : text ≠ []) :
    decode (a :: b :: c :: d :: text) = .ok bytes ↔ ∃ i j k l later, value? a = some i ∧ value? b = some j ∧
      value? c = some k ∧ value? d = some l ∧ decode text = .ok later ∧ wholeGroups [i,j,k,l] ++ later = bytes := by
  have begun : lastStart (a :: b :: c :: d :: text) = lastStart text + 4 := by
    have : 0 < text.length := List.length_pos_iff.mpr more
    simp only [lastStart,List.length_cons]
    omega
  simp only [decode_ok (List.cons_ne_nil _ _),decode_ok more,begun,List.take_succ_cons,List.drop_succ_cons]
  constructor
  · rintro ⟨front,p,q,r,s,last,known,group,quad,rfl⟩
    obtain ⟨i,_,first,known₁,rfl⟩ := List.forall₂_cons_left_iff.mp known
    obtain ⟨j,_,second,known₂,rfl⟩ := List.forall₂_cons_left_iff.mp known₁
    obtain ⟨k,_,third,known₃,rfl⟩ := List.forall₂_cons_left_iff.mp known₂
    obtain ⟨l,front,fourth,known₄,rfl⟩ := List.forall₂_cons_left_iff.mp known₃
    refine ⟨i,j,k,l,_,first,second,third,fourth,⟨front,p,q,r,s,last,known₄,group,quad,rfl⟩,?_⟩
    rw [wholeGroups_four i j k l front,List.append_assoc]
  · rintro ⟨i,j,k,l,_,first,second,third,fourth,⟨front,p,q,r,s,last,known,group,quad,rfl⟩,rfl⟩
    refine ⟨i :: j :: k :: l :: front,p,q,r,s,last,?_,group,quad,?_⟩
    · exact .cons first (.cons second (.cons third (.cons fourth known)))
    · rw [wholeGroups_four,List.append_assoc]

theorem decode_four {a b c d : UInt8} {bytes : List UInt8} :
    decode [a,b,c,d] = .ok bytes ↔ LastGroup a b c d bytes := by
  have begun : lastStart [a,b,c,d] = 0 := by simp [lastStart]
  rw [decode_ok (List.cons_ne_nil _ _),begun,List.take_zero,List.drop_zero]
  constructor
  · rintro ⟨front,p,q,r,s,last,known,group,quad,rfl⟩
    cases known
    cases group
    exact quad
  · intro quad
    exact ⟨[],a,b,c,d,bytes,.nil,rfl,quad,rfl⟩

theorem decode_short {text bytes : List UInt8} (short : text.length % 4 ≠ 0) : decode text ≠ .ok bytes := by
  intro read
  have filled : text ≠ [] := by
    rintro rfl
    exact short rfl
  obtain ⟨_,a,b,c,d,_,_,group,_⟩ := (decode_ok filled).mp read
  have left := congrArg List.length group
  rw [List.length_drop,lastStart] at left
  simp only [List.length_cons,List.length_nil] at left
  omega

theorem Standard.length {text bytes : List UInt8} (standard : Standard text bytes) : text.length % 4 = 0 := by
  induction standard with
  | nil => rfl
  | one => simp
  | two => simp
  | three _ _ _ _ _ _ ih =>
    simp only [List.length_cons]
    omega

-- The texts that are read are the standard ones. The induction takes one group after the other.
theorem decode_standard : ∀ {text bytes : List UInt8}, decode text = .ok bytes ↔ Standard text bytes
  | [],bytes => by
    have read : decode [] = .ok [] := by decide
    rw [read,Except.ok.injEq]
    constructor
    · rintro rfl
      exact .nil
    · intro standard
      cases standard
      rfl
  | [_],_ => iff_of_false (decode_short (by simp)) fun standard => absurd standard.length (by simp)
  | [_,_],_ => iff_of_false (decode_short (by simp)) fun standard => absurd standard.length (by simp)
  | [_,_,_],_ => iff_of_false (decode_short (by simp)) fun standard => absurd standard.length (by simp)
  | [a,b,c,d],bytes => decode_four.trans lastGroup_standard
  | a :: b :: c :: d :: e :: rest,bytes => by
    have others : ∀ {later}, decode (e :: rest) = .ok later ↔ Standard (e :: rest) later := decode_standard
    rw [decode_long (List.cons_ne_nil _ _)]
    simp only [others]
    constructor
    · rintro ⟨i,j,k,l,later,first,second,third,fourth,standard,rfl⟩
      obtain ⟨x,y,z,bytes⟩ := wholeGroups_three i j k l
      have whole := (three_bytes (value_lt first) (value_lt second) (value_lt third) (value_lt fourth)).mp bytes
      rw [value_iff] at first second third fourth
      rw [bytes]
      exact .three first second third fourth whole standard
    · intro standard
      cases standard with
      | three first second third fourth whole standard =>
        rw [← value_iff] at first second third fourth
        have bytes := (three_bytes (value_lt first) (value_lt second) (value_lt third) (value_lt fourth)).mpr whole
        exact ⟨_,_,_,_,_,first,second,third,fourth,standard,by rw [bytes]; rfl⟩

theorem symbol_alphabet {n : Nat} (small : n < 64) : alphabet[n]? = some (UInt8.ofNat (symbol n).toNat) :=
  (symbol_value n small).1

-- What is written is standard.
theorem encode_standard : ∀ bytes, Standard ((encode bytes).map fun c => UInt8.ofNat c.toNat) bytes
  | [] => .nil
  | [x] => by
    have := x.toNat_lt
    exact .one (symbol_alphabet (by omega)) (symbol_alphabet (by omega)) (by omega)
  | [x,y] => by
    have := x.toNat_lt
    have := y.toNat_lt
    exact .two (symbol_alphabet (by omega)) (symbol_alphabet (by omega)) (symbol_alphabet (by omega)) (by omega)
  | x :: y :: z :: rest => by
    have := x.toNat_lt
    have := y.toNat_lt
    have := z.toNat_lt
    exact .three (symbol_alphabet (by omega)) (symbol_alphabet (by omega)) (symbol_alphabet (by omega))
      (symbol_alphabet (by omega)) (by omega) (encode_standard rest)

theorem symbol_byte (n : Nat) : String.utf8EncodeChar (symbol n) = [UInt8.ofNat (symbol n).toNat] := by
  have small : ∀ n < 64, String.utf8EncodeChar (symbol n) = [UInt8.ofNat (symbol n).toNat] := by decide +kernel
  by_cases inside : n < 64
  · exact small n inside
  · have last : symbol n = '/' := by
      unfold symbol
      rw [if_neg (by omega),if_neg (by omega),if_neg (by omega),if_neg (by omega)]
    rw [last]
    exact small 63 (by decide)

theorem encode_bytes (bytes : List UInt8) :
    (String.ofList (encode bytes)).toUTF8.toList = (encode bytes).map fun c => UInt8.ofNat c.toNat := by
  have padding : String.utf8EncodeChar '=' = [UInt8.ofNat '='.toNat] := by decide
  rw [utf8_chars,String.toList_ofList]
  induction bytes using encode.induct with
  | case1 => rfl
  | case2 => simp [encode,symbol_byte,padding]
  | case3 => simp [encode,symbol_byte,padding]
  | case4 x y z rest ih => simp [encode,symbol_byte,ih]

-- Bytes that were encoded are read back.
theorem decode_encoded (bytes : List UInt8) : decode (String.ofList (encode bytes)).toUTF8.toList = .ok bytes := by
  rw [encode_bytes]
  exact decode_standard.mpr (encode_standard bytes)

end HostNet.Text.Base64
