import HostNet.Path

namespace HostNet.Path

-- The pieces are those that the core library divides a list into.
theorem pieces_splitOn (separator : Char) (s : List Char) : pieces separator s = s.splitOn separator := by
  induction s with
  | nil => rfl
  | cons c rest ih =>
    rw [List.splitOn_cons_eq_if_modifyHead,← ih]
    unfold pieces
    rw [List.foldr_cons]
    by_cases same : c = separator
    · rw [if_pos same,if_pos (beq_iff_eq.mpr same)]
    · rw [if_neg same,if_neg (mt beq_iff_eq.mp same)]
      split
      · rename_i none
        have some := List.splitOn_ne_nil separator rest
        rw [← ih] at some
        exact absurd none some
      · rename_i piece later cut
        rw [cut]
        rfl

theorem pieces_append (separator : Char) (before after : List Char) :
    pieces separator (before ++ separator :: after) = pieces separator before ++ pieces separator after := by
  simp only [pieces_splitOn,List.splitOn_append_cons_self]

theorem pieces_single (separator : Char) (s : List Char) (whole : separator ∉ s) : pieces separator s = [s] := by
  rw [pieces_splitOn]
  exact List.splitOn_eq_singleton whole

-- What stands before the first separator, and what follows it.
theorem first_piece {separator : Char} {x y s t : List Char} (one : separator ∉ x) (two : separator ∉ y)
    (same : x ++ separator :: s = y ++ separator :: t) : x = y ∧ s = t := by
  have pieces := congrArg (List.splitOn separator) same
  rw [List.splitOn_append_cons_self_of_not_mem one,List.splitOn_append_cons_self_of_not_mem two] at pieces
  obtain ⟨first,-⟩ := List.cons.inj pieces
  rw [first] at same
  exact ⟨first,(List.cons.inj (List.append_cancel_left same)).2⟩

-- Nothing is lost between the pieces but the separators.
theorem pieces_joined (separator : Char) (s : List Char) : [separator].intercalate (pieces separator s) = s := by
  rw [pieces_splitOn]
  exact List.intercalate_splitOn separator

-- Texts without the separator are the pieces of what they are joined to.
theorem joined_pieces (separator : Char) (parts : List (List Char)) (whole : ∀ part ∈ parts, separator ∉ part)
    (some : parts ≠ []) : pieces separator ([separator].intercalate parts) = parts := by
  rw [pieces_splitOn]
  exact List.splitOn_intercalate separator whole some

theorem mem_joined {separator c : Char} {parts : List (List Char)} (among : c ∈ [separator].intercalate parts) :
    c = separator ∨ ∃ part ∈ parts, c ∈ part := by
  induction parts with
  | nil => cases among
  | cons part rest ih =>
    by_cases last : rest = []
    · subst last
      exact .inr ⟨part,List.mem_cons_self,by simpa using among⟩
    · rw [List.intercalate_cons_of_ne_nil last,List.append_assoc,List.mem_append,List.mem_append] at among
      rcases among with here | between | later
      · exact .inr ⟨part,List.mem_cons_self,here⟩
      · exact .inl (List.mem_singleton.mp between)
      · rcases ih later with same | ⟨other,listed,inside⟩
        · exact .inl same
        · exact .inr ⟨other,List.mem_cons_of_mem _ listed,inside⟩

theorem separator_joined (separator : Char) (parts : List (List Char)) (several : 1 < parts.length) :
    separator ∈ [separator].intercalate parts := by
  match parts with
  | [] | [_] => exact absurd several (by simp)
  | first :: second :: rest => simp [List.intercalate_cons_cons]

end HostNet.Path
