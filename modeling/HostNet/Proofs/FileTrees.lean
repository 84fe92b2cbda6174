import HostNet.Proofs.PathNames

namespace HostNet.Files

-- Where names lead from a place if nothing is in the way.
def destination (place : List String) : List String → List String
  | [] => place
  | name :: rest =>
    destination (if name = "." then place else if name = ".." then place.dropLast else place ++ [name]) rest

theorem destination_append (place first later : List String) :
    destination place (first ++ later) = destination (destination place first) later := by
  induction first generalizing place with
  | nil => rfl
  | cons name rest ih =>
    rw [List.cons_append,destination,destination,ih]

theorem destination_last (place first : List String) (plain : name ≠ "." ∧ name ≠ "..") :
    destination place (first ++ [name]) = destination place first ++ [name] := by
  rw [destination_append,destination,if_neg plain.1,if_neg plain.2,destination]

-- Names that do not go up lead further down.
theorem destination_down (place : List String) (level : ".." ∉ names) : place <+: destination place names := by
  induction names generalizing place with
  | nil => exact List.prefix_refl _
  | cons name rest ih =>
    obtain ⟨first,others⟩ := not_or.mp (mt List.mem_cons.mpr level)
    rw [destination,if_neg (Ne.symm first)]
    refine List.IsPrefix.trans ?_ (ih _ others)
    split
    · exact List.prefix_refl _
    · exact List.prefix_append _ _

variable {files files' : Files} {place other start : List String} {path : String} {entry : Entry}

theorem following_destination (led : following place name = .ok next) :
    next = if name = "." then place else if name = ".." then place.dropLast else place ++ [name] := by
  unfold following at led
  split_ifs at led ⊢
  all_goals
    cases led
    rfl

theorem walk_destination (ran : files.walk start names = .ok place) : place = destination start names := by
  induction names generalizing start with
  | nil =>
    cases ran
    rfl
  | cons name rest ih =>
    rw [walk_cons] at ran
    obtain ⟨_,_,led⟩ := of_bind ran
    obtain ⟨next,led,others⟩ := of_bind led
    rw [destination,← following_destination led]
    exact ih others

theorem locate_destination (located : files.locate path = .ok place) : place = destination [] (Path.names path) := by
  obtain ⟨_,_,walked⟩ := of_bind located
  exact walk_destination walked

theorem find_drop (somewhere : place ≠ []) :
    (files.drop place).find? other = if other = place then none else files.find? other := by
  cases other with
  | nil => simp [find?,somewhere.symm]
  | cons name rest => exact Entries.lookup_dropped files.entries place (name :: rest)

-- A tree with more directories, all of them where some of the first names lead.
structure Grown (names : List String) (files files' : Files) : Prop where
  kept : ∀ place entry, files.find? place = some entry → files'.find? place = some entry
  made : ∀ place, files'.find? place = files.find? place ∨
    files'.find? place = some .directory ∧ ∃ first, first <+: names ∧ place = destination [] first

namespace Grown
variable {names longer : List String} {files files₁ files₂ : Files}

theorem refl (names : List String) (files : Files) : Grown names files files := ⟨fun _ _ => id,fun _ => .inl rfl⟩

theorem trans (first : Grown names files files₁) (second : Grown names files₁ files₂) : Grown names files files₂ where
  kept place entry found := second.kept place entry (first.kept place entry found)
  made place := by
    rcases second.made place with same | new
    · rw [same]
      exact first.made place
    · exact .inr new

theorem more (grown : Grown names files files₁) (wider : names <+: longer) : Grown longer files files₁ where
  kept := grown.kept
  made place := by
    rcases grown.made place with same | ⟨new,first,front,led⟩
    · exact .inl same
    · exact .inr ⟨new,first,front.trans wider,led⟩

end Grown

theorem makeDirectory_grown (ran : files.makeDirectory path = .ok files') : Grown (Path.names path) files files' := by
  obtain ⟨place,located,ran⟩ := of_bind ran
  cases found : files.find? place with
  | some entry =>
    rw [found] at ran
    cases ran
  | none =>
    rw [found] at ran
    cases ran
    have somewhere : place ≠ [] := fun top => by rw [top] at found; cases found
    constructor
    · intro other entry held
      have apart : other ≠ place := fun same => by rw [same,found] at held; cases held
      rw [find_put somewhere,if_neg apart,held]
    · intro other
      rw [find_put somewhere]
      split
      · rename_i same
        exact .inr ⟨rfl,_,List.prefix_refl _,same.trans (locate_destination located)⟩
      · exact .inl rfl

theorem makeDirectories_grown (ran : makeDirectories depth files path = .ok files') :
    Grown (Path.names path) files files' := by
  induction depth generalizing path files' with
  | zero => cases ran
  | succ depth ih =>
    rw [makeDirectories] at ran
    split at ran
    · cases ran
      exact .refl _ _
    · split at ran
      · rename_i made
        cases ran
        exact makeDirectory_grown made
      · split at ran
        · split at ran
          · cases ran
          · rename_i parent found
            obtain ⟨between,above,ran⟩ := of_bind ran
            have above := (ih above).more (Path.parent_names found)
            split at ran
            · rename_i made
              cases ran
              exact above.trans (makeDirectory_grown made)
            · split at ran
              · cases ran
                exact above
              · cases ran
        · split at ran
          · cases ran
            exact .refl _ _
          · cases ran

theorem ensureDirectory_grown (ran : files.ensureDirectory path = .ok files') : Grown (Path.names path) files files' :=
  makeDirectories_grown ran

theorem locate_found (along : ∀ place, files.find? place = some .directory → files'.find? place = some .directory)
    (located : files.locate path = .ok place) : files'.locate path = .ok place :=
  locate_along (fun at_ entered => enter_ok.mpr (along at_ (enter_ok.mp entered))) located

theorem look_ok (file : wantsDirectory path = false) :
    files.look path = .ok entry ↔ ∃ place, files.locate path = .ok place ∧ files.find? place = some entry := by
  unfold look
  cases located : files.locate path with
  | error e => simp [bind,Except.bind]
  | ok place =>
    cases found : files.find? place with
    | none => simp [bind,Except.bind,found]
    | some held => cases held <;> simp [bind,Except.bind,pure,Except.pure,found,file]

theorem reaches_iff : files.reaches path = true ↔ ∃ entry, files.look path = .ok entry := by
  unfold reaches
  cases files.look path <;> simp

theorem rename_ok : files.rename source target = .ok files' ↔ ∃ origin place entry,
    files.locate source = .ok origin ∧ files.locate target = .ok place ∧ files.find? origin = some entry ∧
      files.find? place ≠ some .directory ∧ (files.drop origin).put place entry = files' := by
  unfold rename
  cases located : files.locate source with
  | error e => simp [bind,Except.bind]
  | ok origin =>
    cases led : files.locate target with
    | error e => simp [bind,Except.bind]
    | ok place =>
      cases found : files.find? origin with
      | none => simp [bind,Except.bind,found]
      | some entry =>
        by_cases taken : files.find? place = some .directory
        · simp [bind,Except.bind,found,taken]
        · simp [bind,Except.bind,pure,Except.pure,found,taken]

theorem remove_ok (looked : files.look path = .ok (.file bytes)) (located : files.locate path = .ok place) :
    files.remove path = .ok (files.drop place) := by
  unfold remove
  rw [looked]
  simp [bind,Except.bind,located,pure,Except.pure]

end HostNet.Files
