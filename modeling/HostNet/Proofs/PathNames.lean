import HostNet.Proofs.ParameterFiles

namespace HostNet

namespace Path

def namesOf (path : List Char) : List String :=
  ((pieces '/' path).filter (!·.isEmpty)).map String.ofList

theorem namesOf_append (before after : List Char) :
    namesOf (before ++ '/' :: after) = namesOf before ++ namesOf after := by
  rw [namesOf,pieces_append,List.filter_append,List.map_append]
  rfl

theorem namesOf_slash (before : List Char) : namesOf (before ++ ['/']) = namesOf before := by
  rw [namesOf_append]
  exact List.append_nil _

theorem names_single {name : String} (whole : '/' ∉ name.toList) (filled : name.toList ≠ []) : names name = [name] := by
  rw [names,pieces_single '/' name.toList whole,List.filter_cons_of_pos (by simp [filled]),List.filter_nil,
    List.map_singleton,String.ofList_toList]

theorem names_joined (base child : String) :
    names (join base child) = if isAbsolute child then names child else names base ++ names child := by
  unfold join
  cases absolute : isAbsolute child with
  | true => rfl
  | false =>
    simp only [Bool.false_or,Bool.false_eq_true,if_false]
    split
    · rename_i empty
      rw [String.isEmpty_iff.mp empty]
      rfl
    · split
      · rename_i slash
        obtain ⟨front,ends⟩ := List.getLast?_eq_some_iff.mp (eq_of_beq slash)
        change namesOf _ = namesOf _ ++ namesOf _
        rw [String.toList_append,ends,namesOf_slash,List.append_assoc]
        exact namesOf_append front child.toList
      · change namesOf _ = namesOf _ ++ namesOf _
        rw [String.toList_append,String.toList_append,List.append_assoc]
        exact namesOf_append base.toList child.toList

theorem absolute_joined (base child : String) :
    isAbsolute (join base child) = (isAbsolute child || isAbsolute base) := by
  unfold join
  cases absolute : isAbsolute child with
  | true => rw [Bool.true_or,if_pos rfl,absolute,Bool.true_or]
  | false =>
    simp only [Bool.false_or]
    split
    · rename_i empty
      rw [String.isEmpty_iff.mp empty,absolute]
      rfl
    · rename_i filled
      have begun : base.toList ≠ [] := by simpa using filled
      split <;> simp [isAbsolute,List.head?_append_of_ne_nil _ begun]

theorem joined_last (base : String) (ends : child.toList.getLast? = some c) :
    (join base child).toList.getLast? = some c := by
  unfold join
  split_ifs <;> simp [ends,List.getLast?_cons]

-- A path that is divided, at its last slash.
theorem divided {path : List Char} (inside : '/' ∈ path) : ∃ front last, path = front ++ '/' :: last ∧ '/' ∉ last := by
  obtain ⟨last,front,cut,whole⟩ := List.eq_append_cons_of_mem (List.mem_reverse.mpr inside)
  refine ⟨front.reverse,last.reverse,?_,mt List.mem_reverse.mp whole⟩
  rw [← List.reverse_reverse path,cut]
  simp

theorem trimFront_solid {s : List Char} (slash : ∀ rest, s ≠ '/' :: rest) (dot : ∀ rest, s ≠ '.' :: '/' :: rest) :
    trimFront s = s := by
  unfold trimFront
  split
  · exact absurd rfl (slash _)
  · exact absurd rfl (dot _)
  · rfl

-- The path is reversed where it is trimmed, so the induction is on its end.
theorem trimFront_names (s : List Char) : namesOf (trimFront s).reverse <+: namesOf s.reverse := by
  induction s using trimFront.induct with
  | case1 rest whole =>
    rw [List.isEmpty_iff.mp whole]
    exact List.prefix_refl _
  | case2 rest more ih =>
    rw [trimFront,if_neg more,List.reverse_cons,namesOf_slash]
    exact ih
  | case3 rest whole =>
    rw [trimFront,if_pos whole]
    exact List.nil_prefix
  | case4 rest more ih =>
    rw [trimFront,if_neg more,List.reverse_cons,List.reverse_cons,List.append_assoc,List.singleton_append,
      namesOf_append]
    exact ih.trans (List.prefix_append _ _)
  | case5 s slash dot =>
    have kept := trimFront_solid slash dot
    exact kept.symm ▸ List.prefix_refl _

theorem trimmed_names (path : List Char) : namesOf (trimmed path) <+: namesOf path := by
  have front := trimFront_names path.reverse
  rwa [List.reverse_reverse] at front

-- The part of a path before its last name.
def beforeLast (path : List Char) : List Char := (path.reverse.dropWhile (· != '/')).reverse

theorem beforeLast_append (path : List Char) :
    path = beforeLast path ++ (path.reverse.takeWhile (· != '/')).reverse := by
  rw [beforeLast,← List.reverse_append,List.takeWhile_append_dropWhile,List.reverse_reverse]

theorem beforeLast_take (path : List Char) :
    path.take (path.length - (path.reverse.takeWhile (· != '/')).reverse.length) = beforeLast path := by
  have length := congrArg List.length (beforeLast_append path)
  rw [List.length_append] at length
  conv_lhs => arg 2; rw [beforeLast_append path]
  exact List.take_left' (by omega)

theorem beforeLast_names (path : List Char) : namesOf (beforeLast path) <+: namesOf path := by
  have begun := List.head?_dropWhile_not (· != '/') path.reverse
  cases left : path.reverse.dropWhile (· != '/') with
  | nil =>
    rw [beforeLast,left]
    exact List.nil_prefix
  | cons c rest =>
    rw [left] at begun
    obtain rfl : c = '/' := by simpa using begun
    have whole := beforeLast_append path
    rw [beforeLast,left,List.reverse_cons] at whole ⊢
    rw [namesOf_slash]
    refine ⟨namesOf (path.reverse.takeWhile (· != '/')).reverse,?_⟩
    rw [← namesOf_append]
    conv_rhs => rw [whole]
    rw [List.append_assoc,List.singleton_append]

-- The names of a parent are the first ones of the path.
theorem parent_names (found : parent? path = some parent) : names parent <+: names path := by
  unfold parent? at found
  extract_lets body name at found
  split at found
  · cases found
  · rw [← Option.some.inj found]
    have cut : body.take (body.length - name.length) = beforeLast body := beforeLast_take body
    rw [cut,names,String.toList_ofList]
    exact (trimmed_names _).trans ((beforeLast_names _).trans (trimmed_names _))

theorem last_piece {separator : Char} (before after : List Char) (whole : separator ∉ after) :
    ((before ++ separator :: after).reverse.takeWhile (· != separator)).reverse = after := by
  have all : ∀ c ∈ after.reverse, (c != separator) = true := by
    intro c member
    rw [bne_iff_ne]
    rintro rfl
    exact whole (List.mem_reverse.mp member)
  rw [List.reverse_append,List.reverse_cons,List.append_assoc,List.takeWhile_append_of_pos all]
  simp

section
variable {base name : String}

theorem below_chars (base name : String) : (base ++ "/" ++ name).toList = base.toList ++ '/' :: name.toList := by
  rw [String.toList_append,String.toList_append,List.append_assoc]
  rfl

theorem lastName_below (whole : '/' ∉ name.toList) : lastName (base ++ "/" ++ name) = name.toList := by
  rw [lastName,below_chars]
  exact last_piece _ _ whole

theorem before_below (base name : List Char) :
    (base ++ '/' :: name).take ((base ++ '/' :: name).length - name.length) = base ++ ['/'] := by
  have cut : base ++ '/' :: name = (base ++ ['/']) ++ name := by simp
  rw [cut]
  refine List.take_left' ?_
  simp only [List.length_append,List.length_cons,List.length_nil]
  omega

theorem trimmed_solid (solid : path.getLast? = some c) (slash : c ≠ '/') (dot : c ≠ '.') : trimmed path = path := by
  obtain ⟨front,rfl⟩ := List.getLast?_eq_some_iff.mp solid
  have kept : trimFront (c :: front.reverse) = c :: front.reverse :=
    trimFront_solid (fun _ same => slash (List.cons.inj same).1) fun _ same => dot (List.cons.inj same).1
  rw [trimmed,List.reverse_append,List.reverse_singleton,List.singleton_append,kept]
  simp

theorem trimmed_slash (solid : path.getLast? = some c) (slash : c ≠ '/') (dot : c ≠ '.') :
    trimmed (path ++ ['/']) = path := by
  have filled : path.reverse.isEmpty ≠ true := by
    obtain ⟨front,rfl⟩ := List.getLast?_eq_some_iff.mp solid
    simp
  have back := trimmed_solid solid slash dot
  rw [trimmed] at back
  rw [trimmed,List.reverse_append,List.reverse_singleton,List.singleton_append,trimFront,if_neg filled,back]

-- The parent of a path is what it was put together from.
theorem parent_below (whole : '/' ∉ name.toList) (base_ : base.toList.getLast? = some b)
    (name_ : name.toList.getLast? = some c) (solid : b ≠ '/' ∧ b ≠ '.' ∧ c ≠ '/' ∧ c ≠ '.') :
    parent? (base ++ "/" ++ name) = some base := by
  obtain ⟨slash,dot,slash',dot'⟩ := solid
  have last : (base ++ "/" ++ name).toList.getLast? = some c := by
    rw [below_chars,List.getLast?_append,List.getLast?_cons,name_]
    rfl
  have body : trimmed (base ++ "/" ++ name).toList = base.toList ++ '/' :: name.toList := by
    rw [trimmed_solid last slash' dot',below_chars]
  obtain ⟨front,ends⟩ := List.getLast?_eq_some_iff.mp base_
  have filled : base.toList ++ '/' :: name.toList ≠ ['/'] := by
    intro alone
    have length := congrArg List.length alone
    simp only [ends,List.length_append,List.length_cons,List.length_nil] at length
    omega
  rw [parent?,body]
  simp only [last_piece _ _ whole,before_below,trimmed_slash base_ slash dot,String.ofList_toList]
  simp [filled]

end

-- The name without its extension: what is before the last point, unless nothing is.
theorem splitExtension_last (stem extension : List Char) (whole : '.' ∉ extension) :
    (splitExtension (stem ++ '.' :: extension)).1 = if stem = [] then '.' :: extension else stem := by
  have length : (stem ++ '.' :: extension).length = stem.length + extension.length + 1 := by
    simp only [List.length_append,List.length_cons]
    omega
  have left : (stem ++ '.' :: extension).take ((stem ++ '.' :: extension).length - extension.length - 1) = stem :=
    List.take_left' (by omega)
  have longer : extension.length ≠ (stem ++ '.' :: extension).length := by omega
  unfold splitExtension
  rw [last_piece stem extension whole]
  simp only [left,longer]
  cases stem <;> simp

end Path

end HostNet
