import HostNet.Proofs.AddressText
import HostNet.Proofs.HexDigits
import HostNet.Proofs.Pieces
import HostNet.Text.Quoted
import Mathlib.Data.List.Basic
import Mathlib.Data.List.Forall2
import Mathlib.Order.Defs.Unbundled

namespace HostNet.Text

-- Of two ranges the first begins and ends before the other.
def Earlier (a b : Nat × Nat) : Prop := a.1 < b.1 ∧ a.2 < b.2

instance (a b : Nat × Nat) : Decidable (Earlier a b) := inferInstanceAs (Decidable (_ ∧ _))

instance : IsTrans (Nat × Nat) Earlier := ⟨fun _ _ _ first second => ⟨first.1.trans second.1,first.2.trans second.2⟩⟩

section Searching
variable {table : Array (Nat × Nat)} {code i j k low high : Nat} {a b r : Nat × Nat}

theorem ascending_at (ascending : table.toList.Pairwise Earlier) (first : table[i]? = some a)
    (second : table[j]? = some b) (before : i < j) : Earlier a b := by
  rw [← Array.getElem?_toList] at first second
  obtain ⟨_,rfl⟩ := List.getElem?_eq_some_iff.mp first
  obtain ⟨_,rfl⟩ := List.getElem?_eq_some_iff.mp second
  exact List.pairwise_iff_getElem.mp ascending i j _ _ before

-- The search goes on with the half that the range of the code is in.
theorem inRanges_found (ascending : table.toList.Pairwise Earlier) (held : table[k]? = some r)
    (inside : r.1 ≤ code ∧ code ≤ r.2) (least : low ≤ k) (most : k < high) (within : high ≤ table.size) :
    inRanges table code low high = true := by
  induction low, high using inRanges.induct table code with
  | case1 low high some_ middle none =>
    have stands : middle < table.size := by omega
    rw [Array.getElem?_eq_none_iff] at none
    omega
  | case2 low high some_ middle first last there below ih =>
    rw [inRanges,if_pos some_]
    simp only [middle,there,if_pos below]
    have left : k < middle := by
      by_contra right
      rcases Nat.lt_or_eq_of_le (Nat.le_of_not_lt right) with later | same
      · have := (ascending_at ascending there held later).1
        omega
      · rw [same,held] at there
        cases there
        omega
    exact ih least left (by omega)
  | case3 low high some_ middle first last there below above ih =>
    rw [inRanges,if_pos some_]
    simp only [middle,there,if_neg below,if_pos above]
    have right : middle < k := by
      by_contra left
      rcases Nat.lt_or_eq_of_le (Nat.le_of_not_lt left) with earlier | same
      · have := (ascending_at ascending held there earlier).2
        omega
      · rw [← same,held] at there
        cases there
        omega
    exact ih right most within
  | case4 low high some_ middle first last there below above =>
    rw [inRanges,if_pos some_]
    simp only [middle,there,if_neg below,if_neg above]
  | case5 low high empty => omega

end Searching

theorem unprintable_ascending : unprintableRanges.toList.Pairwise Earlier := by
  rw [← List.isChain_iff_pairwise]
  decide +kernel

-- The control characters: those before the space, and those from U+007F to U+009F.
def Control (c : Char) : Prop := c.toNat < 0x20 ∨ 0x7f ≤ c.toNat ∧ c.toNat < 0xa0

theorem control_unprintable {c : Char} (control : Control c) : isUnprintable c = true := by
  rw [isUnprintable,Bool.or_eq_true,decide_eq_true_eq]
  refine control.imp_right fun inside => ?_
  have first : unprintableRanges[0]? = some (0x7f,0xa0) := by decide +kernel
  have some_ : 0 < unprintableRanges.size := by decide +kernel
  exact inRanges_found unprintable_ascending first ⟨inside.1,Nat.le_of_lt inside.2⟩ (Nat.le_refl 0) some_
    (Nat.le_refl _)

namespace Quoted

-- The second characters of escapes that have two, with what they stand for.
def shortForms : List (Char × Char) := [('0','\x00'),('t','\t'),('r','\r'),('n','\n'),('"','"'),('\\','\\')]

-- Digits in base sixteen, the highest first, and their number.
def Numeral (digits : List Char) (n : Nat) : Prop :=
  ∃ values, List.Forall₂ (fun c v => Hex.lowerDigits[v]? = some c) digits values ∧ Address.ofDigits 16 values = n

-- How a character is written. A quote, a backslash and a control begin with a backslash in any case.
inductive Spells : List Char → Char → Prop where
  | plain (visible : ¬Control c) (open_ : c ≠ '"' ∧ c ≠ '\\') : Spells [c] c
  | short (listed : (e,c) ∈ shortForms) : Spells ['\\',e] c
  | code (number : Numeral digits c.toNat) : Spells ('\\' :: 'u' :: '\x7b' :: (digits ++ ['\x7d'])) c

-- A text between quotes, in which each character is spelled.
def Quotes (text s : List Char) : Prop :=
  ∃ forms, List.Forall₂ Spells forms s ∧ text = '"' :: (forms.flatten ++ ['"'])

theorem short_unique (one : (e,c) ∈ shortForms) (two : (e,d) ∈ shortForms) : c = d := by
  have once : ∀ p ∈ shortForms, ∀ q ∈ shortForms, p.1 = q.1 → p.2 = q.2 := by decide
  exact once _ one _ two rfl

theorem short_other (listed : (e,c) ∈ shortForms) : e ≠ 'u' := by
  have others : ∀ p ∈ shortForms, p.1 ≠ 'u' := by decide
  exact others _ listed

theorem numeral_closed (number : Numeral digits n) : '\x7d' ∉ digits := by
  obtain ⟨values,spelled,-⟩ := number
  intro among
  induction spelled with
  | nil => cases among
  | cons digit _ ih =>
    rcases List.mem_cons.mp among with rfl | later
    · exact absurd (List.mem_of_getElem? digit) (by decide)
    · exact ih later

theorem numeral_unique (one : Numeral digits m) (two : Numeral digits n) : m = n := by
  obtain ⟨values,spelled,rfl⟩ := one
  obtain ⟨others,spelled',rfl⟩ := two
  have once : Hex.lowerDigits.Nodup := by decide
  have unique : Relator.RightUnique fun (c : Char) (v : Nat) => Hex.lowerDigits[v]? = some c := by
    intro c v v' first second
    obtain ⟨inside,rfl⟩ := List.getElem?_eq_some_iff.mp first
    exact (List.getElem?_inj inside once).mp (first.trans second.symm)
  rw [List.right_unique_forall₂' unique spelled spelled']

theorem ofNat_numeral (n : Nat) : Numeral (Hex.ofNat n) n := by
  have digit : ∀ d < 16, Hex.lowerDigits[d]? = some (Nat.digitChar d) := by decide
  unfold Hex.ofNat
  induction n using Address.toDigits_induction (by decide : 1 < 16) with
  | single n few => exact ⟨[n],.cons (digit n few) .nil,by simp [Address.ofDigits]⟩
  | longer n many ih =>
    obtain ⟨values,spelled,same⟩ := ih
    have last : n % 16 < 16 := Nat.mod_lt n (by decide)
    refine ⟨values ++ [n % 16],List.rel_append spelled (.cons (digit _ last) .nil),?_⟩
    rw [Address.ofDigits] at same
    rw [Address.ofDigits,List.foldl_append,same]
    simp [Nat.div_add_mod' n 16]

theorem Spells.begins (spells : Spells form c) : ∃ first rest, form = first :: rest ∧ first ≠ '"' := by
  cases spells with
  | plain _ open_ => exact ⟨_,_,rfl,open_.1⟩
  | short _ => exact ⟨_,_,rfl,by decide⟩
  | code _ => exact ⟨_,_,rfl,by decide⟩

-- What a form stands for, and where it ends, is seen from its beginning.
theorem Spells.unique (one : Spells form c) (two : Spells form' c') (same : form ++ rest = form' ++ rest') :
    c = c' ∧ rest = rest' := by
  cases one with
  | plain _ open_ =>
    cases two with
    | plain => exact List.cons.inj same
    | short => exact absurd (List.cons.inj same).1 open_.2
    | code => exact absurd (List.cons.inj same).1 open_.2
  | short listed =>
    cases two with
    | plain _ open_ => exact absurd (List.cons.inj same).1.symm open_.2
    | short listed' =>
      obtain ⟨rfl,later⟩ := List.cons.inj (List.cons.inj same).2
      exact ⟨short_unique listed listed',later⟩
    | code => exact absurd (List.cons.inj (List.cons.inj same).2).1 (short_other listed)
  | code number =>
    cases two with
    | plain _ open_ => exact absurd (List.cons.inj same).1.symm open_.2
    | short listed => exact absurd (List.cons.inj (List.cons.inj same).2).1.symm (short_other listed)
    | code number' =>
      simp only [List.cons_append,List.append_assoc,List.cons.injEq,true_and,List.nil_append] at same
      obtain ⟨rfl,later⟩ := Path.first_piece (numeral_closed number) (numeral_closed number') same
      exact ⟨Char.toNat_inj.mp (numeral_unique number number'),later⟩

-- Where a quoted text ends, and what it says, is seen from its beginning. The induction takes one form after the other.
theorem forms_unique (one : List.Forall₂ Spells forms s) (two : List.Forall₂ Spells forms' s')
    (same : forms.flatten ++ '"' :: rest = forms'.flatten ++ '"' :: rest') : s = s' ∧ rest = rest' := by
  induction one generalizing forms' s' with
  | nil =>
    cases two with
    | nil => exact ⟨rfl,(List.cons.inj same).2⟩
    | cons spells _ =>
      obtain ⟨first,more,rfl,other⟩ := spells.begins
      exact absurd (List.cons.inj same).1.symm other
  | cons spells _ ih =>
    cases two with
    | nil =>
      obtain ⟨first,more,rfl,other⟩ := spells.begins
      exact absurd (List.cons.inj same).1 other
    | cons spells' others =>
      rw [List.flatten_cons,List.flatten_cons,List.append_assoc,List.append_assoc] at same
      obtain ⟨rfl,later⟩ := spells.unique spells' same
      obtain ⟨rfl,last⟩ := ih others later
      exact ⟨rfl,last⟩

theorem Quotes.unique (one : Quotes text s) (two : Quotes text' s') (same : text ++ rest = text' ++ rest') :
    s = s' ∧ rest = rest' := by
  obtain ⟨forms,spelled,rfl⟩ := one
  obtain ⟨forms',spelled',rfl⟩ := two
  rw [List.cons_append,List.cons_append,List.append_assoc,List.append_assoc] at same
  exact forms_unique spelled spelled' (List.cons.inj same).2

theorem escape_spells (c : Char) : Spells (escape c) c := by
  unfold escape
  split
  case h_7 _ _ _ _ _ quote backslash =>
    split
    · simpa [codePoint] using Spells.code (ofNat_numeral c.toNat)
    · rename_i printable
      exact .plain (mt control_unprintable printable) ⟨quote,backslash⟩
  all_goals exact .short (by decide)

theorem encode_quotes (s : List Char) : Quotes (encode s) s := by
  refine ⟨s.map escape,?_,by rw [encode,List.flatMap_def]; rfl⟩
  rw [List.forall₂_map_left_iff]
  exact List.forall₂_same.mpr fun c _ => escape_spells c

end Quoted
end HostNet.Text
