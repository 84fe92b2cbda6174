import HostNet.Config.File
import HostNet.Proofs.SnapshotApplication
import HostNet.Proofs.SnapshotPlaces
import HostNet.Proofs.StepKeeps

namespace HostNet

namespace Layout
open HostNet.Path (names)
open Ipam.Snapshot (fileName fileName_filled fileName_plain draft draftName)

-- Where a path leads from a working directory, if nothing is in the way.
def resolved (here : List String) (path : String) : List String :=
  Files.destination (if Path.isAbsolute path then [] else here) (names path)

-- The path of a file that stands in a directory itself and not further down.
def Inside (here : List String) (directory path : String) : Prop :=
  Files.wantsDirectory path = false ∧ ∃ file, resolved here path = resolved here directory ++ [file]

-- The files of these names stand in a directory, and no two names have one file.
structure Shelved (here : List String) (directory : String) (file : String → String) (allowed : String → Prop) :
    Prop where
  inside : ∀ n, allowed n → Inside here directory (file n)
  apart : ∀ m n, allowed m → allowed n → resolved here (file m) = resolved here (file n) → m = n

structure KeptApart (layout : Layout) (here : List String) (allowed : String → Prop) : Prop where
  snapshots : Shelved here layout.ipam layout.snapshot allowed
  declarations : Shelved here layout.networks layout.declaration allowed

variable {here : List String} {directory network : String} {allowed : String → Prop}

def filed (directory network : String) : String := Path.join directory (fileName network)

theorem filed_file (directory network : String) : Files.wantsDirectory (filed directory network) = false := by
  rw [Files.wantsDirectory,filed,Path.joined_last directory (Ipam.Snapshot.fileName_last network)]
  decide

theorem filed_whole (here : List String) (directory : String) (whole : '/' ∉ network.toList) :
    resolved here (filed directory network) = resolved here directory ++ [fileName network] := by
  have relative := Ipam.Snapshot.fileName_relative whole
  have name : names (fileName network) = [fileName network] :=
    Path.names_single (Ipam.Snapshot.fileName_whole whole) (fileName_filled network)
  rw [resolved,filed,Path.absolute_joined,relative,Bool.false_or,Path.names_joined,relative,name]
  exact Files.destination_last _ _ (fileName_plain network)

-- The file of a divided name is called as that of its last piece, in whatever directory it stands.
theorem filed_divided (here : List String) (directory : String) (cut : network.toList = front ++ '/' :: last)
    (whole : '/' ∉ last) :
    ∃ above, resolved here (filed directory network) = above ++ [fileName (String.ofList last)] := by
  have own : names (fileName network) = Path.namesOf front ++ [fileName (String.ofList last)] := by
    have file : (fileName network).toList = front ++ '/' :: (fileName (String.ofList last)).toList := by
      rw [Ipam.Snapshot.fileName_chars,Ipam.Snapshot.fileName_chars,cut,String.toList_ofList]
      simp
    have piece : '/' ∉ (String.ofList last).toList := by rwa [String.toList_ofList]
    change Path.namesOf _ = _
    rw [file,Path.namesOf_append]
    exact congrArg _ (Path.names_single (Ipam.Snapshot.fileName_whole piece) (fileName_filled _))
  have ends : ∃ before, names (filed directory network) = before ++ [fileName (String.ofList last)] := by
    rw [filed,Path.names_joined,own]
    split
    · exact ⟨_,rfl⟩
    · exact ⟨_,(List.append_assoc ..).symm⟩
  obtain ⟨before,ends⟩ := ends
  rw [resolved,ends]
  exact ⟨_,Files.destination_last _ _ (fileName_plain _)⟩

theorem shelved_iff (here : List String) (directory : String) (plain : ∀ n, '/' ∉ n.toList → allowed n) :
    Shelved here directory (filed directory) allowed ↔ ∀ n, allowed n → '/' ∉ n.toList := by
  constructor
  · intro shelved n among slash
    obtain ⟨front,last,cut,whole⟩ := Path.divided slash
    obtain ⟨above,led⟩ := filed_divided here directory cut whole
    obtain ⟨_,file,inside⟩ := shelved.inside n among
    have piece : '/' ∉ (String.ofList last).toList := by rwa [String.toList_ofList]
    -- Where the file stands in the directory, it is that of the last piece.
    obtain ⟨rfl,_⟩ := List.append_inj' (led.symm.trans inside) rfl
    have shared := led.trans (filed_whole here directory piece).symm
    have same := shelved.apart n (String.ofList last) among (plain _ piece) shared
    exact piece (same ▸ slash)
  · intro none
    refine ⟨fun n among => ⟨filed_file directory n,_,filed_whole here directory (none n among)⟩,?_⟩
    intro m n left right same
    rw [filed_whole here directory (none m left),filed_whole here directory (none n right)] at same
    exact Ipam.Snapshot.fileName_injective (List.cons.inj (List.append_cancel_left same)).1

theorem keptApart_iff (layout : Layout) (here : List String) (plain : ∀ n, '/' ∉ n.toList → allowed n) :
    KeptApart layout here allowed ↔ ∀ n, allowed n → '/' ∉ n.toList :=
  ⟨fun kept => (shelved_iff here layout.ipam plain).mp kept.snapshots,fun none =>
    ⟨(shelved_iff here layout.ipam plain).mpr none,(shelved_iff here layout.networks plain).mpr none⟩⟩

theorem below_absolute (filled : base ≠ "") : Path.isAbsolute (base ++ "/" ++ name) = Path.isAbsolute base := by
  have begun : base.toList ≠ [] := by simpa using filled
  rw [Path.isAbsolute,Path.isAbsolute,Path.below_chars,List.head?_append_of_ne_nil _ begun]

theorem draft_resolved (layout : Layout) (here : List String) (whole : '/' ∉ network.toList) :
    resolved here (draft (layout.snapshot network)) =
      Files.destination (resolved here layout.ipam) [draftName network] := by
  have filled : layout.ipam ≠ "" := fun empty => by
    have last := Ipam.Snapshot.ipam_last layout
    rw [empty] at last
    cases last
  rw [resolved,Ipam.Snapshot.draft_names whole,Ipam.Snapshot.draft_path whole,below_absolute filled,
    Files.destination_append]
  rfl

-- The draft of a snapshot stands beside it, but for the name of one point, for which it is the directory above.
theorem draft_inside_iff (layout : Layout) (here : List String) (whole : '/' ∉ network.toList) :
    Inside here layout.ipam (draft (layout.snapshot network)) ↔ network ≠ "." := by
  constructor
  · rintro ⟨_,file,inside⟩ rfl
    rw [draft_resolved layout here whole] at inside
    have above : (resolved here layout.ipam).dropLast = resolved here layout.ipam ++ [file] := inside
    have length := congrArg List.length above
    rw [List.length_dropLast,List.length_append,List.length_singleton] at length
    omega
  · intro point
    have ends := Ipam.Snapshot.draftName_last point
    have plain := Ipam.Snapshot.plain_last ends (by decide)
    refine ⟨?_,draftName network,?_⟩
    · rw [Files.wantsDirectory,Ipam.Snapshot.draft_path whole,Path.below_chars,List.getLast?_append,List.getLast?_cons,
        ends]
      rfl
    · rw [draft_resolved layout here whole]
      exact Files.destination_last _ [] plain

end Layout

namespace Files

-- Trees that are the same but in these places and for new directories, which are on the way that some names lead.
def Confined (places : List (List String)) (way : List String) (files files' : Files) : Prop :=
  ∀ place, place ∉ places → files'.find? place = files.find? place ∨
    files.find? place = none ∧ files'.find? place = some .directory ∧
      ∃ first, first <+: way ∧ place = destination [] first

variable {places : List (List String)} {way : List String} {files files₁ files₂ : Files}

theorem Confined.refl (places : List (List String)) (way : List String) (files : Files) :
    Confined places way files files :=
  fun _ _ => Or.inl rfl

theorem Confined.trans (first : Confined places way files files₁) (second : Confined places way files₁ files₂) :
    Confined places way files files₂ := by
  intro place other
  rcases second place other with same | ⟨free,made⟩
  · rw [same]
    exact first place other
  · rcases first place other with same | ⟨_,taken,_⟩
    · exact Or.inr ⟨same ▸ free,made⟩
    · rw [free] at taken
      cases taken

-- The way of no names leads to the top, which is a directory at any time.
theorem Confined.still (confined : Confined places [] files files₁) (other : place ∉ places) :
    files₁.find? place = files.find? place := by
  rcases confined place other with same | ⟨free,_,first,front,rfl⟩
  · exact same
  · rw [List.prefix_nil.mp front] at free
    cases free

theorem Grown.confined (grown : Grown way files files₁) (places : List (List String)) :
    Confined places way files files₁ := by
  intro place _
  rcases grown.made place with same | ⟨made,led⟩
  · exact Or.inl same
  · cases found : files.find? place with
    | none => exact Or.inr ⟨rfl,made,led⟩
    | some entry =>
      rw [grown.kept place entry found]
      exact Or.inl rfl

theorem put_confined (somewhere : place ≠ []) (among : place ∈ places) :
    Confined places way files (files.put place entry) := by
  intro other apart
  have different : other ≠ place := fun same => apart (same ▸ among)
  rw [find_put somewhere,if_neg different]
  exact Or.inl rfl

theorem drop_confined (among : place ∈ places) : Confined places way files (files.drop place) := by
  intro other apart
  have different : other ≠ place := fun same => apart (same ▸ among)
  cases other with
  | nil => exact Or.inl rfl
  | cons name rest =>
    exact Or.inl ((Entries.lookup_dropped files.entries place (name :: rest)).trans (if_neg different))

theorem located_resolved (located : files.locate path = .ok place) : place = Layout.resolved [] path := by
  rw [Layout.resolved,ite_self]
  exact locate_destination located

theorem write_confined (among : Layout.resolved [] path ∈ places) (ran : files.writeBytes path bytes = .ok files₁) :
    Confined places way files files₁ := by
  obtain ⟨place,writable,rfl⟩ := writeBytes_ok.mp ran
  exact put_confined (somewhere writable.free) (located_resolved writable.located ▸ among)

theorem rename_confined (source_ : Layout.resolved [] source ∈ places) (target_ : Layout.resolved [] target ∈ places)
    (ran : files.rename source target = .ok files₁) : Confined places way files files₁ := by
  obtain ⟨origin,place,entry,located,led,_,free,rfl⟩ := rename_ok.mp ran
  exact (drop_confined (located_resolved located ▸ source_)).trans
    (put_confined (somewhere free) (located_resolved led ▸ target_))

theorem remove_confined (among : Layout.resolved [] path ∈ places) (ran : files.remove path = .ok files₁) :
    Confined places way files files₁ := by
  obtain ⟨entry,_,ran⟩ := of_bind ran
  cases entry with
  | directory => cases ran
  | file bytes =>
    obtain ⟨place,located,ran⟩ := of_bind ran
    cases ran
    exact drop_confined (located_resolved located ▸ among)

theorem remove_gone (file : wantsDirectory path = false) (ran : files.remove path = .ok files₁) :
    files₁.reaches path = false := by
  obtain ⟨entry,looked,ran⟩ := of_bind ran
  cases entry with
  | directory => cases ran
  | file bytes =>
    obtain ⟨place,located,ran⟩ := of_bind ran
    cases ran
    obtain ⟨_,led,held⟩ := (look_ok file).mp looked
    cases located.symm.trans led
    have somewhere : place ≠ [] := fun top => by rw [top] at held; cases held
    rw [Bool.eq_false_iff]
    intro reached
    obtain ⟨left,looked⟩ := reaches_iff.mp reached
    obtain ⟨there,led,found⟩ := (look_ok file).mp looked
    have same : there = place := (located_resolved led).trans (located_resolved located).symm
    rw [same,find_drop somewhere,if_pos rfl] at found
    cases found

theorem read_resolved (read : files.read path = .ok text) : ∃ bytes,
    files.find? (Layout.resolved [] path) = some (.file bytes) ∧ Text.ofUtf8? bytes = some text := by
  obtain ⟨place,bytes,holds,told⟩ := read_ok.mp read
  exact ⟨bytes,located_resolved holds.located ▸ holds.held,told⟩

end Files

open Files (Confined)
open Ipam.Snapshot (draft save delete)
open Layout (resolved Inside KeptApart)
open HostNet.Path (names)

namespace Ipam.Snapshot
variable {layout : Layout} {network : String} {files : Files} {way : List String}

theorem update_confined {f : Files → Except Files.Error Files}
    (confined : ∀ between after, f between = .ok after → Confined places way between after) :
    Step.Keeps (Confined places way files) (Step.update fun files => (f files).mapError HostNet.Error.file) := by
  apply Step.keeps_update
  intro between after held ran
  cases made : f between with
  | error cause => rw [made] at ran; cases ran
  | ok next =>
    rw [made] at ran
    exact held.trans (confined between after (made.trans (congrArg Except.ok (Except.ok.inj ran))))

-- A file is drafted at one path and moved to another.
def replacing (source target text : String) : Step Files HostNet.Error Unit := do
  Step.update fun files => (files.write source text).mapError .file
  Step.update fun files => (files.rename source target).mapError .file

-- A draft replaces the snapshot, in the directory of the snapshots, which is made if it is missing.
theorem save_replacing (layout : Layout) (network : String) (r : Range) : save layout network r =
    match Path.parent? (layout.snapshot network) with
    | some parent =>
      (Step.update fun files => (files.ensureDirectory parent).mapError .file) >>= fun _ =>
        replacing (draft (layout.snapshot network)) (layout.snapshot network) (capture r).toDocument.toJsonLines
    | none =>
      replacing (draft (layout.snapshot network)) (layout.snapshot network) (capture r).toDocument.toJsonLines := by
  unfold save replacing
  dsimp only
  cases Path.parent? (layout.snapshot network) <;> rfl

theorem replacing_keeps (source_ : resolved [] source ∈ places) (target_ : resolved [] target ∈ places)
    (text : String) : Step.Keeps (Confined places way files) (replacing source target text) :=
  Step.keeps_bind (update_confined fun _ _ wrote => Files.write_confined source_ wrote) fun _ =>
    update_confined fun _ _ moved => Files.rename_confined source_ target_ moved

theorem save_keeps (path_ : resolved [] (layout.snapshot network) ∈ places)
    (draft_ : resolved [] (draft (layout.snapshot network)) ∈ places) (r : Range) :
    Step.Keeps (Confined places (names (layout.snapshot network)) files) (save layout network r) := by
  rw [save_replacing]
  split
  · rename_i parent above
    have made : Step.Keeps (Confined places (names (layout.snapshot network)) files)
        (Step.update fun files => (files.ensureDirectory parent).mapError HostNet.Error.file) :=
      update_confined fun _ _ made =>
        ((Files.ensureDirectory_grown made).more (Path.parent_names above)).confined places
    exact Step.keeps_bind made fun _ => replacing_keeps draft_ path_ _
  · exact replacing_keeps draft_ path_ _

theorem save_confined (layout : Layout) (network : String) (r : Range) (files : Files) :
    Confined [resolved [] (layout.snapshot network),resolved [] (draft (layout.snapshot network))]
      (names (layout.snapshot network)) files ((save layout network r).outcome files).2 :=
  save_keeps List.mem_cons_self (List.mem_cons_of_mem _ List.mem_cons_self) r files (Confined.refl _ _ files)

theorem delete_keeps (layout : Layout) (network : String) (files : Files) :
    Step.Keeps (Confined [resolved [] (layout.snapshot network)] [] files) (delete layout network) := by
  refine Step.keeps_bind (fun between held => held) fun between => ?_
  apply Step.keeps_if
  · exact update_confined fun _ _ removed => Files.remove_confined (List.mem_singleton_self _) removed
  · exact Step.keeps_pure _

theorem delete_confined {there : List String} (other : there ≠ resolved [] (layout.snapshot network)) :
    ((delete layout network).outcome files).2.find? there = files.find? there :=
  (delete_keeps layout network files files (Confined.refl _ _ files)).still (mt List.mem_singleton.mp other)

theorem of_update {f : Files → Except Files.Error Files}
    (ran : Step.update (fun files => (f files).mapError HostNet.Error.file) files = .ok () after) :
    f files = .ok after := by
  cases made : f files with
  | error cause => simp [Step.update,made,Except.mapError] at ran
  | ok next =>
    simp only [Step.update,made,Except.mapError,EStateM.Result.ok.injEq,true_and] at ran
    rw [ran]

-- The draft is found again where it was written, and comes to where the other path leads.
theorem replacing_written (ran : replacing source target text files = .ok () after) :
    after.find? (resolved [] target) = some (.file text.toUTF8.toList) := by
  obtain ⟨_,drafted,wrote,moved⟩ := Step.of_bind ran
  obtain ⟨place,writable,rfl⟩ := Files.writeBytes_ok.mp (of_update wrote)
  obtain ⟨origin,there,entry,located,led,found,free,rfl⟩ := Files.rename_ok.mp (of_update moved)
  have same : origin = place := (Files.located_resolved located).trans (Files.located_resolved writable.located).symm
  rw [same,Files.find_put (Files.somewhere writable.free),if_pos rfl] at found
  cases found
  rw [← Files.located_resolved led,Files.find_put (Files.somewhere free),if_pos rfl]

theorem save_written (ran : save layout network r files = .ok () after) :
    after.find? (resolved [] (layout.snapshot network)) =
      some (.file (capture r).toDocument.toJsonLines.toUTF8.toList) := by
  rw [save_replacing] at ran
  split at ran
  · obtain ⟨_,between,_,ran⟩ := Step.of_bind ran
    exact replacing_written ran
  · exact replacing_written ran

theorem delete_gone (ran : delete layout network files = .ok () after) :
    after.reaches (layout.snapshot network) = false := by
  obtain ⟨_,_,started,ran⟩ := Step.of_bind ran
  cases started
  split at ran
  · exact Files.remove_gone (Layout.filed_file layout.ipam network) (of_update ran)
  · rename_i absent
    cases ran
    exact Bool.eq_false_of_not_eq_true absent

theorem load_found (ran : ((load layout files network).outcome q).1 = .ok true) :
    ∃ bytes, files.find? (resolved [] (layout.snapshot network)) = some (.file bytes) := by
  cases there : files.reaches (layout.snapshot network) with
  | false =>
    rw [Step.outcome_ok (load_absent there)] at ran
    cases ran
  | true =>
    cases read : files.read (layout.snapshot network) with
    | error cause =>
      rw [Step.outcome_error (load_unread there read)] at ran
      cases ran
    | ok text =>
      obtain ⟨bytes,found,_⟩ := Files.read_resolved read
      exact ⟨bytes,found⟩

end Ipam.Snapshot

theorem Config.Network.load_found (ran : Config.Network.load layout files network = .ok n) :
    ∃ bytes, files.find? (resolved [] (layout.declaration network)) = some (.file bytes) := by
  obtain ⟨_,told,_⟩ := Files.of_bind ran
  obtain ⟨text,read,_⟩ := Files.of_bind told
  cases known : files.read (layout.declaration network) with
  | error cause => rw [known] at read; cases read
  | ok text =>
    obtain ⟨bytes,found,_⟩ := Files.read_resolved known
    exact ⟨bytes,found⟩

-- Names without a slash have files of their own right in the directories, and no name with one can be added: its file
-- is elsewhere or is that of its last piece. A save puts the snapshot there and touches beside it only its draft and
-- missing directories, a deletion takes the snapshot away and nothing else, and what is loaded comes from there.
theorem Layout.names_kept_apart_exactly (layout : Layout) (here : List String) :
    (∀ allowed : String → Prop, (∀ n, '/' ∉ n.toList → allowed n) →
      (KeptApart layout here allowed ↔ ∀ n, allowed n → '/' ∉ n.toList)) ∧
    (∀ n, '/' ∉ n.toList → (Inside here layout.ipam (draft (layout.snapshot n)) ↔ n ≠ ".")) ∧
    ∀ (n : String) (files : Files),
      (∀ r, Confined [resolved [] (layout.snapshot n),resolved [] (draft (layout.snapshot n))]
        (names (layout.snapshot n)) files ((save layout n r).outcome files).2) ∧
      (∀ r after, save layout n r files = .ok () after → after.find? (resolved [] (layout.snapshot n)) =
        some (.file (Ipam.Snapshot.capture r).toDocument.toJsonLines.toUTF8.toList)) ∧
      (∀ place, place ≠ resolved [] (layout.snapshot n) →
        ((delete layout n).outcome files).2.find? place = files.find? place) ∧
      (∀ after, delete layout n files = .ok () after → after.reaches (layout.snapshot n) = false) ∧
      (∀ r, ((Ipam.Snapshot.load layout files n).outcome r).1 = .ok true →
        ∃ bytes, files.find? (resolved [] (layout.snapshot n)) = some (.file bytes)) ∧
      ∀ declared, Config.Network.load layout files n = .ok declared →
        ∃ bytes, files.find? (resolved [] (layout.declaration n)) = some (.file bytes) := by
  refine ⟨fun allowed plain => keptApart_iff layout here plain,fun n whole => draft_inside_iff layout here whole,?_⟩
  intro n files
  refine ⟨fun r => Ipam.Snapshot.save_confined layout n r files,fun r after ran => Ipam.Snapshot.save_written ran,
    fun place other => Ipam.Snapshot.delete_confined other,fun after ran => Ipam.Snapshot.delete_gone ran,?_⟩
  exact ⟨fun r ran => Ipam.Snapshot.load_found ran,fun declared ran => Config.Network.load_found ran⟩

-- A file in the directory of the snapshots and one above it.
def shelf : Files := ⟨[(["s"],.directory),(["s","ipam"],.directory),(["s","ipam","pods.json"],.file []),
  (["s","pods.json"],.file [])]⟩

-- A name with a point and a slash is another name for the first of them, one with two points for the other.
theorem Layout.pointed_names_stray : ¬KeptApart ⟨"/s"⟩ [] (fun _ => True) ∧
    ((delete ⟨"/s"⟩ "./pods").outcome shelf).2.find? ["s","ipam","pods.json"] = none ∧
    ((delete ⟨"/s"⟩ "../pods").outcome shelf).2.find? ["s","pods.json"] = none := by
  refine ⟨fun kept => ?_,by decide,by decide⟩
  have shared : resolved [] (Layout.snapshot ⟨"/s"⟩ "./pods") = resolved [] (Layout.snapshot ⟨"/s"⟩ "pods") := by decide
  exact absurd (kept.snapshots.apart "./pods" "pods" trivial trivial shared) (by decide)

end HostNet
