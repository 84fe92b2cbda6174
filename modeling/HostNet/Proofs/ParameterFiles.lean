import HostNet.Bridge
import HostNet.Proofs.Entries
import HostNet.Proofs.Pieces
import HostNet.Proofs.Stages

namespace HostNet

namespace Path

-- The last name of a path that ends in it.
theorem names_last (before name : String) (whole : '/' ∉ name.toList) (filled : name.toList ≠ []) :
    names (before ++ "/" ++ name) = names before ++ [name] := by
  have cut : (before ++ "/" ++ name).toList = before.toList ++ '/' :: name.toList := by
    rw [String.toList_append,String.toList_append,List.append_assoc]
    rfl
  have kept : [name.toList].filter (!·.isEmpty) = [name.toList] := by simp [filled]
  rw [names,names,cut,pieces_append,List.filter_append,List.map_append,pieces_single '/' name.toList whole,kept,
    List.map_singleton,String.ofList_toList]

theorem names_join (root before name : String) (whole : '/' ∉ name.toList) (filled : name.toList ≠ []) :
    ∃ first, names (join root (before ++ "/" ++ name)) = first ++ [name] := by
  unfold join
  split
  · exact ⟨_,names_last before name whole filled⟩
  · split
    · rw [← String.append_assoc,← String.append_assoc]
      exact ⟨_,names_last (root ++ before) name whole filled⟩
    · rw [← String.append_assoc,← String.append_assoc]
      exact ⟨_,names_last (root ++ "/" ++ before) name whole filled⟩

end Path

namespace Files

theorem of_bind {x : Except ε α} {f : α → Except ε β} (ran : (x >>= f) = .ok b) : ∃ a, x = .ok a ∧ f a = .ok b := by
  cases x with
  | ok a => exact ⟨a,rfl,ran⟩
  | error e => cases ran

variable {files files' : Files} {place other : List String} {entry : Entry}

theorem find_put (somewhere : place ≠ []) :
    (files.put place entry).find? other = if other = place then some entry else files.find? other := by
  cases other with
  | nil => simp [find?,somewhere.symm]
  | cons name rest =>
    have looked : ∀ files : Files, files.find? (name :: rest) = files.entries.lookup (name :: rest) := fun _ => rfl
    rw [looked,looked]
    unfold put
    split
    · rename_i present
      obtain ⟨e,among,same⟩ := List.any_eq_true.mp present
      have held : (files.entries.lookup place).isSome :=
        List.lookup_isSome_iff.mpr ⟨e,among,by rw [beq_iff_eq.mp same]; exact beq_self_eq_true _⟩
      obtain ⟨old,held⟩ := Option.isSome_iff_exists.mp held
      simp only [beq_iff_eq]
      rw [Entries.lookup_replaced,held,Option.map_some]
    · rename_i absent
      have missing : files.entries.lookup place = none := by
        rw [List.lookup_eq_none_iff]
        intro e among
        rw [bne_iff_ne]
        rintro rfl
        exact absent (List.any_eq_true.mpr ⟨e,among,beq_self_eq_true _⟩)
      exact Entries.lookup_added entry missing

theorem put_again : (files.put place entry).put place entry = files.put place entry := by
  unfold put
  by_cases present : files.entries.any (·.1 == place) = true
  · have still : (files.entries.map fun e => if e.1 == place then (place,entry) else e).any (·.1 == place) = true := by
      obtain ⟨e,among,same⟩ := List.any_eq_true.mp present
      exact List.any_eq_true.mpr ⟨_,List.mem_map_of_mem among,by simp [same]⟩
    rw [if_pos present,if_pos still,List.map_map]
    congr 1
    apply List.map_congr_left
    intro e _
    by_cases same : e.1 = place <;> simp [same]
  · have there : (files.entries ++ [(place,entry)]).any (·.1 == place) = true := by simp
    rw [if_neg present,if_pos there,List.map_append]
    congr 2
    · refine (List.map_congr_left fun e among => ?_).trans (List.map_id _)
      have other : ¬(e.1 == place) = true := fun same => present (List.any_eq_true.mpr ⟨e,among,same⟩)
      simp [other]
    · simp

theorem somewhere (free : files.find? place ≠ some .directory) : place ≠ [] := fun top => free (by rw [top]; rfl)

theorem enter_ok : files.enter place = .ok () ↔ files.find? place = some .directory := by
  unfold enter
  split
  · rename_i found; simp [found]
  · rename_i found; simp [found]
  · rename_i found; simp [found]

theorem enter_put (free : files.find? place ≠ some .directory) (entered : files.enter other = .ok ()) :
    (files.put place (.file bytes)).enter other = .ok () := by
  rw [enter_ok] at entered ⊢
  have apart : other ≠ place := fun same => free (same ▸ entered)
  rw [find_put (somewhere free),if_neg apart,entered]

-- Nor is it a directory that was not there.
theorem enter_unput (free : files.find? place ≠ some .directory)
    (entered : (files.put place (.file bytes)).enter other = .ok ()) : files.enter other = .ok () := by
  rw [enter_ok,find_put (somewhere free)] at entered
  split at entered
  · cases entered
  · exact enter_ok.mpr entered

-- Where a name leads from a place.
def following (place : List String) (name : String) : Except Error (List String) :=
  if name = "." then .ok place
  else if name = ".." then .ok place.dropLast
  else if 255 < name.utf8ByteSize then .error (.os .nameTooLong)
  else .ok (place ++ [name])

theorem walk_cons (files : Files) (place : List String) (name : String) (rest : List String) :
    files.walk place (name :: rest) =
      files.enter place >>= fun _ => following place name >>= fun next => files.walk next rest := by
  rw [walk]
  unfold following
  split_ifs <;> rfl

theorem walk_append (files : Files) (place first later : List String) :
    files.walk place (first ++ later) = files.walk place first >>= fun next => files.walk next later := by
  induction first generalizing place with
  | nil => rfl
  | cons name rest ih =>
    rw [List.cons_append,walk_cons,walk_cons]
    cases files.enter place with
    | error e => rfl
    | ok _ =>
      cases following place name with
      | error e => rfl
      | ok next => exact ih next

theorem following_last (plain : name ≠ "." ∧ name ≠ "..") (led : following place name = .ok next) :
    next = place ++ [name] := by
  unfold following at led
  rw [if_neg plain.1,if_neg plain.2] at led
  split at led
  · cases led
  · exact (Except.ok.inj led).symm

theorem walk_last (plain : name ≠ "." ∧ name ≠ "..") (ran : files.walk start (first ++ [name]) = .ok place) :
    place.getLast? = some name := by
  rw [walk_append] at ran
  obtain ⟨between,_,last⟩ := of_bind ran
  rw [walk_cons] at last
  obtain ⟨_,_,led⟩ := of_bind last
  obtain ⟨next,led,done⟩ := of_bind led
  cases done
  rw [following_last plain led,List.getLast?_concat]

-- The same names lead to the same place where no directory on the way is gone.
theorem walk_along (along : ∀ place, files.enter place = .ok () → files'.enter place = .ok ())
    (ran : files.walk start names = .ok r) : files'.walk start names = .ok r := by
  induction names generalizing start with
  | nil => exact ran
  | cons name rest ih =>
    rw [walk_cons] at ran ⊢
    obtain ⟨_,entered,led⟩ := of_bind ran
    obtain ⟨next,led,others⟩ := of_bind led
    rw [along start entered,led]
    exact ih others

theorem locate_along (along : ∀ place, files.enter place = .ok () → files'.enter place = .ok ())
    (located : files.locate path = .ok r) : files'.locate path = .ok r := by
  obtain ⟨_,checked,walked⟩ := of_bind located
  unfold locate
  rw [checked]
  exact walk_along along walked

-- A file that is put in the place of no directory is in nobody's way.
theorem walk_put (free : files.find? place ≠ some .directory) (ran : files.walk start names = .ok r) :
    (files.put place (.file bytes)).walk start names = .ok r := walk_along (fun _ => enter_put free) ran

theorem locate_put (free : files.find? place ≠ some .directory) (located : files.locate path = .ok r) :
    (files.put place (.file bytes)).locate path = .ok r := locate_along (fun _ => enter_put free) located

theorem enterParent_put (free : files.find? place ≠ some .directory) (entered : files.enterParent path = .ok ()) :
    (files.put place (.file bytes)).enterParent path = .ok () := by
  obtain ⟨_,checked,inner⟩ := of_bind entered
  obtain ⟨parent,walked,last⟩ := of_bind inner
  unfold enterParent
  rw [checked,walk_put free walked]
  exact enter_put free last

-- A path at which a file can be written, and the place that it leads to.
structure Writable (files : Files) (path : String) (place : List String) : Prop where
  entered : files.enterParent path = .ok ()
  file : wantsDirectory path = false
  located : files.locate path = .ok place
  free : files.find? place ≠ some .directory

-- A path under which bytes are read.
structure Holds (files : Files) (path : String) (place : List String) (bytes : List UInt8) : Prop where
  file : wantsDirectory path = false
  located : files.locate path = .ok place
  held : files.find? place = some (.file bytes)

theorem writeBytes_ok : files.writeBytes path bytes = .ok files' ↔
    ∃ place, Writable files path place ∧ files.put place (.file bytes) = files' := by
  constructor
  · intro ran
    obtain ⟨_,entered,ran⟩ := of_bind ran
    cases file : wantsDirectory path with
    | true => simp [file] at ran; cases ran
    | false =>
      simp only [file,Bool.false_eq_true,if_false] at ran
      obtain ⟨place,located,ran⟩ := of_bind ran
      by_cases taken : files.find? place = some .directory
      · simp only [taken,if_true] at ran; cases ran
      · simp only [taken,if_false] at ran
        cases ran
        exact ⟨place,⟨entered,file,located,taken⟩,rfl⟩
  · rintro ⟨place,writable,rfl⟩
    unfold writeBytes
    rw [writable.entered,writable.file,writable.located]
    simp [bind,Except.bind,pure,Except.pure,writable.free]

theorem readBytes_ok : files.readBytes path = .ok bytes ↔ ∃ place, Holds files path place bytes := by
  constructor
  · intro ran
    obtain ⟨entry,looked,ran⟩ := of_bind ran
    obtain ⟨place,located,looked⟩ := of_bind looked
    cases found : files.find? place with
    | none => rw [found] at looked; cases looked
    | some held =>
      rw [found] at looked
      cases held with
      | directory => cases looked; cases ran
      | file there =>
        cases file : wantsDirectory path with
        | true => rw [file] at looked; cases looked
        | false =>
          rw [file] at looked
          cases looked
          cases ran
          exact ⟨place,file,located,found⟩
  · rintro ⟨place,holds⟩
    unfold readBytes look
    rw [holds.located]
    simp [bind,Except.bind,pure,Except.pure,holds.held,holds.file]

theorem Writable.put (writable : Writable files path place) (free : files.find? other ≠ some .directory) :
    Writable (files.put other (.file bytes)) path place := by
  refine ⟨enterParent_put free writable.entered,writable.file,locate_put free writable.located,?_⟩
  rw [find_put (somewhere free)]
  split
  · simp
  · exact writable.free

theorem Writable.written (writable : Writable files path place) :
    Holds (files.put place (.file bytes)) path place bytes := by
  refine ⟨writable.file,locate_put writable.free writable.located,?_⟩
  rw [find_put (somewhere writable.free),if_pos rfl]

theorem Holds.kept (holds : Holds files path place bytes) (free : files.find? other ≠ some .directory)
    (apart : place ≠ other) : Holds (files.put other (.file others)) path place bytes := by
  refine ⟨holds.file,locate_put free holds.located,?_⟩
  rw [find_put (somewhere free),if_neg apart]
  exact holds.held

-- Where a file is read, it can be written too.
theorem Holds.writable (holds : Holds files path place bytes) : Writable files path place := by
  have free : files.find? place ≠ some .directory := by rw [holds.held]; simp
  refine ⟨?_,holds.file,holds.located,free⟩
  obtain ⟨_,checked,walked⟩ := of_bind holds.located
  have named : Path.names path ≠ [] := by
    intro none
    rw [none] at walked
    cases walked
    exact somewhere free rfl
  rw [← List.dropLast_append_getLast named,walk_append] at walked
  obtain ⟨parent,first,last⟩ := of_bind walked
  rw [walk_cons] at last
  obtain ⟨_,entered,_⟩ := of_bind last
  unfold enterParent
  rw [checked]
  exact (congrArg (· >>= files.enter) first).trans entered

theorem read_ok : files.read path = .ok text ↔
    ∃ place bytes, Holds files path place bytes ∧ Text.ofUtf8? bytes = some text := by
  constructor
  · intro ran
    obtain ⟨bytes,found,ran⟩ := of_bind ran
    obtain ⟨place,holds⟩ := readBytes_ok.mp found
    refine ⟨place,bytes,holds,?_⟩
    cases known : Text.ofUtf8? bytes with
    | none => rw [known] at ran; cases ran
    | some told => rw [known] at ran; cases ran; rfl
  · rintro ⟨place,bytes,holds,known⟩
    unfold read
    rw [readBytes_ok.mpr ⟨place,holds⟩]
    simp only [bind,Except.bind,known]
    rfl

end Files

namespace Sysctl
open Files (Holds Writable)
open Stage (Settles Withstands)

variable {files files' : Files} {root name value bridge : String} {place : List String} {family other : Family}

theorem get_ok : get root name files = .ok value files' ↔ files' = files ∧ ∃ place bytes,
    Holds files (path root name) place bytes ∧ (Text.ofUtf8? bytes).map Text.trimEnd = some value := by
  unfold get
  constructor
  · intro told
    cases ran : files.read (path root name) with
    | error e => rw [ran] at told; cases told
    | ok text =>
      rw [ran] at told
      cases told
      obtain ⟨place,bytes,holds,known⟩ := Files.read_ok.mp ran
      exact ⟨rfl,place,bytes,holds,by rw [known]; rfl⟩
  · rintro ⟨rfl,place,bytes,holds,known⟩
    obtain ⟨text,read,rfl⟩ := Option.map_eq_some_iff.mp known
    rw [Files.read_ok.mpr ⟨place,bytes,holds,read⟩]

theorem set_ok : set root name value files = .ok () files' ↔ ∃ place,
    Writable files (path root name) place ∧ files.put place (.file value.toUTF8.toList) = files' := by
  rw [← Files.writeBytes_ok]
  change _ ↔ files.write (path root name) value = .ok files'
  unfold set Step.update
  cases wrote : files.write (path root name) value <;> simp [wrote,Except.mapError]

theorem set_error (ran : set root name value files = .error e files') : files' = files := by
  unfold set Step.update at ran
  cases wrote : files.write (path root name) value with
  | error _ =>
    simp only [wrote,Except.mapError] at ran
    cases ran
    rfl
  | ok _ =>
    simp only [wrote,Except.mapError] at ran
    cases ran

def one : List UInt8 := "1".toUTF8.toList

theorem one_read : (Text.ofUtf8? one).map Text.trimEnd = some "1" := by decide +kernel

-- Packets of a family are forwarded: the switch is there and reads so.
def On (root : String) (family : Family) (files : Files) : Prop := get root (forwarding family) files = .ok "1" files

theorem On.enable (on : On root family files) : enableForwarding root family files = .ok () files :=
  (Step.bind_ok on).trans rfl

-- Of two switches that may be in one place, both are on after one was turned on.
theorem On.again (on : On root family files) (free : files.find? place ≠ some .directory) :
    On root family (files.put place (.file one)) := by
  obtain ⟨_,at_,bytes,holds,known⟩ := get_ok.mp on
  refine get_ok.mpr ⟨rfl,at_,?_⟩
  by_cases same : at_ = place
  · subst same
    exact ⟨one,holds.writable.written,one_read⟩
  · exact ⟨bytes,holds.kept free same,known⟩

theorem enableForwarding_ok (ran : enableForwarding root family files = .ok () files') : On root family files' ∧
    (files' = files ∨ ∃ place, Writable files (path root (forwarding family)) place ∧
      files.put place (.file one) = files') := by
  cases told : get root (forwarding family) files with
  | error e between =>
    rw [enableForwarding,Step.bind_error told] at ran
    cases ran
  | ok value between =>
    obtain ⟨rfl,place,bytes,holds,known⟩ := get_ok.mp told
    rw [enableForwarding,Step.bind_ok told] at ran
    by_cases on : value = "1"
    · subst on
      cases ran
      exact ⟨told,Or.inl rfl⟩
    · rw [if_neg (by simpa using on)] at ran
      obtain ⟨there,writable,rfl⟩ := set_ok.mp ran
      exact ⟨get_ok.mpr ⟨rfl,there,one,writable.written,one_read⟩,Or.inr ⟨there,writable,rfl⟩⟩

-- A switch that can be read can be turned on.
theorem enableForwarding_readable (told : get root (forwarding family) files = .ok value files) :
    ∃ files', enableForwarding root family files = .ok () files' := by
  obtain ⟨_,place,bytes,holds,known⟩ := get_ok.mp told
  rw [enableForwarding,Step.bind_ok told]
  split
  · exact ⟨files,rfl⟩
  · exact ⟨_,set_ok.mpr ⟨place,holds.writable,rfl⟩⟩

def switchName : Family → String
  | .v4 => "ip_forward"
  | .v6 => "forwarding"

theorem names_forwarding (root : String) (family : Family) :
    ∃ first, Path.names (path root (forwarding family)) = first ++ [switchName family] := by
  cases family with
  | v4 =>
    have keyed : key (forwarding .v4) = "net/ipv4" ++ "/" ++ "ip_forward" := by decide +kernel
    rw [path,keyed]
    exact Path.names_join root "net/ipv4" "ip_forward" (by decide) (by decide)
  | v6 =>
    have keyed : key (forwarding .v6) = "net/ipv6/conf/all" ++ "/" ++ "forwarding" := by decide +kernel
    rw [path,keyed]
    exact Path.names_join root "net/ipv6/conf/all" "forwarding" (by decide) (by decide)

theorem names_acceptRouters (root bridge : String) :
    ∃ first, Path.names (path root (Bridge.acceptRouters bridge)) = first ++ ["accept_ra"] := by
  have keyed : key (Bridge.acceptRouters bridge) = "net/ipv6/conf/" ++ bridge ++ "/" ++ "accept_ra" := by
    have found : (Bridge.acceptRouters bridge).toList.find? (fun c => c = '.' || c = '/') = some '/' := by
      rw [Bridge.acceptRouters,String.toList_append,String.toList_append,List.append_assoc,List.find?_append]
      rfl
    have unchanged : keyChars (Bridge.acceptRouters bridge).toList = (Bridge.acceptRouters bridge).toList := by
      rw [keyChars,found]
      rfl
    have cut : "/accept_ra" = "/" ++ "accept_ra" := by decide
    rw [key,unchanged,String.ofList_toList,Bridge.acceptRouters,cut,String.append_assoc,String.append_assoc,
      String.append_assoc]
  rw [path,keyed]
  exact Path.names_join root ("net/ipv6/conf/" ++ bridge) "accept_ra" (by decide) (by decide)

theorem located_last (named : ∃ first, Path.names name = first ++ [value]) (plain : value ≠ "." ∧ value ≠ "..")
    (located : files.locate name = .ok place) : place.getLast? = some value := by
  obtain ⟨_,_,walked⟩ := Files.of_bind located
  obtain ⟨first,named⟩ := named
  rw [named] at walked
  exact Files.walk_last plain walked

-- Forwarding of a family, turned on where it is off.
def forwarded (root : String) (family : Family) : Stage Files := fun files =>
  match enableForwarding root family files with
  | .ok _ files => some files
  | .error _ _ => none

-- Routers are no longer listened to on a bridge, if this can be written.
def closed (root bridge : String) : Stage Files := fun files =>
  some ((set root (Bridge.acceptRouters bridge) "0").outcome files).2

theorem forwarded_some :
    forwarded root family files = some files' ↔ enableForwarding root family files = .ok () files' := by
  unfold forwarded
  cases enableForwarding root family files <;> simp

theorem On.forwarded (on : On root family files) : forwarded root family files = some files :=
  forwarded_some.mpr on.enable

theorem forwarded_settles (root : String) (family : Family) : Settles (forwarded root family) := by
  intro files files' ran
  exact (enableForwarding_ok (forwarded_some.mp ran)).1.forwarded

theorem forwarded_withstands (root : String) (family other : Family) :
    Withstands (forwarded root family) (forwarded root other) := by
  intro files files' fixed ran
  have on := (enableForwarding_ok (forwarded_some.mp fixed)).1
  rcases (enableForwarding_ok (forwarded_some.mp ran)).2 with rfl | ⟨place,writable,rfl⟩
  · exact fixed
  · exact (on.again writable.free).forwarded

theorem closed_cases (root bridge : String) (files : Files) : closed root bridge files = some files ∨
    ∃ place, Writable files (path root (Bridge.acceptRouters bridge)) place ∧
      closed root bridge files = some (files.put place (.file "0".toUTF8.toList)) := by
  unfold closed
  cases ran : set root (Bridge.acceptRouters bridge) "0" files with
  | error e after =>
    obtain rfl := set_error ran
    exact Or.inl (by rw [Step.outcome_error ran])
  | ok _ after =>
    obtain ⟨place,writable,rfl⟩ := set_ok.mp ran
    exact Or.inr ⟨place,writable,by rw [Step.outcome_ok ran]⟩

theorem closed_settles (root bridge : String) : Settles (closed root bridge) := by
  intro files files' ran
  rcases closed_cases root bridge files with same | ⟨place,writable,wrote⟩
  · obtain rfl := Option.some.inj (same.symm.trans ran)
    exact same
  · obtain rfl := Option.some.inj (wrote.symm.trans ran)
    have again : set root (Bridge.acceptRouters bridge) "0" (files.put place (.file "0".toUTF8.toList)) = .ok () _ :=
      set_ok.mpr ⟨place,writable.put writable.free,rfl⟩
    unfold closed
    rw [Step.outcome_ok again,Files.put_again]

-- The file for routers is in no place of a switch: their last names differ.
theorem forwarded_withstands_closed (root : String) (family : Family) (bridge : String) :
    Withstands (forwarded root family) (closed root bridge) := by
  intro files files' fixed ran
  rcases closed_cases root bridge files with same | ⟨place,writable,wrote⟩
  · obtain rfl := Option.some.inj (same.symm.trans ran)
    exact fixed
  · obtain rfl := Option.some.inj (wrote.symm.trans ran)
    have on := (enableForwarding_ok (forwarded_some.mp fixed)).1
    obtain ⟨_,switch,bytes,holds,known⟩ := get_ok.mp on
    have here := located_last (names_acceptRouters root bridge) (by decide) writable.located
    have there := located_last (names_forwarding root family) (by cases family <;> decide) holds.located
    have apart : switch ≠ place := by
      rintro rfl
      have same := Option.some.inj (here.symm.trans there)
      cases family <;> exact absurd same (by decide)
    have still : On root family (files.put place (.file "0".toUTF8.toList)) :=
      get_ok.mpr ⟨rfl,switch,bytes,holds.kept writable.free apart,known⟩
    exact still.forwarded

end Sysctl
end HostNet
