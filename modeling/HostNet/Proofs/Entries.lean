import Mathlib.Data.List.Basic

namespace HostNet.Entries

variable [BEq κ] [LawfulBEq κ] [DecidableEq κ] {entries : List (κ × β)} {key other : κ}

-- What stands under each name after all entries of one name were replaced.
theorem lookup_replaced (entries : List (κ × β)) (key other : κ) (value : β) :
    (entries.map fun e => if e.1 = key then (key,value) else e).lookup other =
      if other = key then (entries.lookup key).map fun _ => value else entries.lookup other := by
  induction entries with
  | nil => simp
  | cons e rest ih =>
    obtain ⟨name,held⟩ := e
    rw [List.map_cons]
    by_cases same : name = key
    · subst same
      by_cases asked : other = name
      · simp [asked]
      · rw [if_neg asked] at ih
        simpa [List.lookup_cons,asked,beq_eq_false_iff_ne.mpr asked] using ih
    · by_cases found : other = name
      · have apart : other ≠ key := fun eq => same (found ▸ eq)
        simp [same,found]
      · simp only [same,if_false,List.lookup_cons,beq_eq_false_iff_ne.mpr found]
        by_cases asked : other = key
        · subst asked
          simpa only [beq_eq_false_iff_ne.mpr (Ne.symm same),if_true,List.lookup_cons,
            beq_eq_false_iff_ne.mpr found] using ih
        · simpa only [asked,if_false] using ih

theorem lookup_added (value : β) (absent : entries.lookup key = none) :
    (entries ++ [(key,value)]).lookup other = if other = key then some value else entries.lookup other := by
  rw [List.lookup_append]
  by_cases asked : other = key
  · subst asked; simp [absent]
  · simp [asked,List.lookup_cons,beq_eq_false_iff_ne.mpr asked]

theorem lookup_dropped (entries : List (κ × β)) (key other : κ) :
    (entries.filter fun e => e.1 != key).lookup other = if other = key then none else entries.lookup other := by
  induction entries with
  | nil => simp
  | cons e rest ih =>
    obtain ⟨name,held⟩ := e
    by_cases removed : name = key
    · subst removed
      rw [List.filter_cons_of_neg (by simp),ih]
      by_cases asked : other = name
      · simp [asked]
      · simp [asked,List.lookup_cons,beq_eq_false_iff_ne.mpr asked]
    · rw [List.filter_cons_of_pos (by simpa using removed),List.lookup_cons,List.lookup_cons,ih]
      by_cases asked : other = name
      · simp [asked,removed]
      · simp [beq_eq_false_iff_ne.mpr asked]

end HostNet.Entries
