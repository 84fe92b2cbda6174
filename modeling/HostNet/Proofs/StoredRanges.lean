import HostNet.Proofs.SnapshotApplication
import HostNet.Proofs.SnapshotPlaces
import HostNet.Proofs.StepKeeps

namespace HostNet.Ipam.Snapshot
open Files (Writable)

-- A network by its name, which is one name in a path.
structure Network where
  name : String
  whole : '/' ∉ name.toList
deriving DecidableEq

-- How far a save gets: to a directory so many levels above the snapshot, or to so many bytes of the draft.
inductive Progress where
  | directories (above : Nat)
  | draft (count : Nat)

def ancestor? : Nat → String → Option String
  | 0, path => Path.parent? path
  | above + 1, path => (Path.parent? path).bind (ancestor? above)

def bytes (r : Range) : List UInt8 := (capture r).toDocument.toJsonLines.toUTF8.toList

-- The steps of a save up to so many bytes of the draft.
def drafting (layout : Layout) (network : String) (r : Range) (count : Nat) : Step Files HostNet.Error Unit := do
  if let some parent := Path.parent? (layout.snapshot network) then
    Step.update fun files => (files.ensureDirectory parent).mapError .file
  Step.update fun files => (files.writeBytes (draft (layout.snapshot network)) ((bytes r).take count)).mapError .file

-- A save that is cut off. Directories are made from above, so fewer of them are those above one further up.
def interrupted (layout : Layout) (network : String) (r : Range) : Progress → Step Files HostNet.Error Unit
  | .directories above =>
    match ancestor? above (layout.snapshot network) with
    | some directory => Step.update fun files => (files.ensureDirectory directory).mapError .file
    | none => pure ()
  | .draft count => drafting layout network r count

-- The steps of a save, one after the other.
theorem save_steps (layout : Layout) (n : Network) (r : Range) : save layout n.name r =
    (Step.update fun files => (files.ensureDirectory layout.ipam).mapError .file) >>= fun _ =>
    (Step.update fun files => (files.writeBytes (draft (layout.snapshot n.name)) (bytes r)).mapError .file) >>= fun _ =>
    Step.update fun files =>
      (files.rename (draft (layout.snapshot n.name)) (layout.snapshot n.name)).mapError .file := by
  unfold save
  simp only [snapshot_parent n.whole]
  rfl

-- A save that is not cut off has come to its whole draft, which only remains to be moved.
theorem save_uninterrupted (layout : Layout) (n : Network) (r : Range) : save layout n.name r =
    interrupted layout n.name r (.draft (bytes r).length) >>= fun _ => Step.update fun files =>
      (files.rename (draft (layout.snapshot n.name)) (layout.snapshot n.name)).mapError .file := by
  rw [save_steps,interrupted]
  unfold drafting
  simp only [snapshot_parent n.whole,List.take_length,bind_assoc]

inductive Call where
  | save (network : Network) (r : UsedRange)
  | cut (network : Network) (r : UsedRange) (progress : Progress)
  | load (network : Network) (q : UsedRange)
  | delete (network : Network)

inductive Answer where
  | saved (told : Except HostNet.Error Unit)
  | cut
  | loaded (told : Except HostNet.Error Bool) (after : Range)
  | deleted (told : Except HostNet.Error Unit)

def serve (layout : Layout) : Call → Files → Answer × Files
  | .save network r,files =>
    let (told,after) := (save layout network.name r).outcome files
    (.saved told,after)
  | .cut network r progress,files => (.cut,((interrupted layout network.name r progress).outcome files).2)
  | .load network q,files =>
    let (told,after) := (load layout files network.name).outcome q.val
    (.loaded told after,files)
  | .delete network,files =>
    let (told,after) := (delete layout network.name).outcome files
    (.deleted told,after)

def serveAll (layout : Layout) : List Call → Files → List Answer × Files
  | [],files => ([],files)
  | call :: rest,files =>
    let (answer,between) := serve layout call files
    let (answers,after) := serveAll layout rest between
    (answer :: answers,after)

-- The ranges as they were last saved, each under its network.
abbrev Memory := Network → Option UsedRange

-- What the last saves say to each call. A save that does not come to its end changes nothing. File-system calls fail
-- only where the draft or the snapshot cannot be written, or where the root goes up again through a directory that
-- stands in the place of a snapshot.
inductive Dictates (layout : Layout) (files : Files) (memory : Memory) : Call → Answer → Memory → Prop where
  | saved : Dictates layout files memory (.save n r) (.saved (.ok ())) (Function.update memory n (some r))
  | unsaved (hindered : ∀ between, files.ensureDirectory layout.ipam = .ok between →
        ¬((∃ place, Writable between (draft (layout.snapshot n.name)) place) ∧
          ∃ place, Writable between (layout.snapshot n.name) place)) :
      Dictates layout files memory (.save n r) (.saved (.error (.file cause))) memory
  | cut : Dictates layout files memory (.cut n r progress) .cut memory
  | absent (nothing : memory n = none) : Dictates layout files memory (.load n q) (.loaded (.ok false) q) memory
  | mismatched (kept : memory n = some r) (other : r.val.subnet ≠ q.val.subnet) :
      Dictates layout files memory (.load n q) (.loaded (.error (.ipam .mismatchedNetwork)) q) memory
  | restored (kept : memory n = some r) (same : r.val.subnet = q.val.subnet) (taken : after.taken = r.val.taken) :
      Dictates layout files memory (.load n q) (.loaded (.ok true) after) memory
  | deleted : Dictates layout files memory (.delete n) (.deleted (.ok ())) (Function.update memory n none)
  | unloadable (nothing : memory n = none) (up : ".." ∈ Path.names layout.root)
        (directory : files.isDirectory (layout.snapshot n.name) = true) :
      Dictates layout files memory (.load n q) (.loaded (.error (.file (.os .isDirectory))) q) memory
  | undeletable (nothing : memory n = none) (up : ".." ∈ Path.names layout.root)
        (directory : files.isDirectory (layout.snapshot n.name) = true) :
      Dictates layout files memory (.delete n) (.deleted (.error (.file (.os .isDirectory)))) memory

inductive DictatesAll (layout : Layout) : Files → Memory → List Call → List Answer → Memory → Prop where
  | nil : DictatesAll layout files memory [] [] memory
  | cons (first : Dictates layout files memory call answer between)
      (others : DictatesAll layout (serve layout call files).2 between calls answers after) :
      DictatesAll layout files memory (call :: calls) (answer :: answers) after

-- The invariant: the files of the networks are those of the last saves.
structure Stores (layout : Layout) (files : Files) (memory : Memory) : Prop where
  kept : ∀ n r, memory n = some r →
    Files.Holds files (layout.snapshot n.name) (place layout n.name) (bytes r.val)
  clear : ∀ n : Network, memory n = none → ∀ held, files.find? (place layout n.name) ≠ some (.file held)
  level : ".." ∉ Path.names layout.root → ∀ n : Network, files.find? (place layout n.name) ≠ some .directory

variable {layout : Layout} {files files' : Files} {memory : Memory} {n : Network} {r : UsedRange}

theorem place_apart {m : Network} (other : m ≠ n) : place layout m.name ≠ place layout n.name := by
  intro same
  have names := place_injective layout same
  cases m
  cases n
  cases names
  exact other rfl

namespace Stores

-- What is elsewhere does not matter, as long as no directory is gone.
theorem changed (stores : Stores layout files memory)
    (along : ∀ place, files.find? place = some .directory → files'.find? place = some .directory)
    (same : ∀ n : Network, files'.find? (place layout n.name) = files.find? (place layout n.name)) :
    Stores layout files' memory where
  kept n r saved := by
    have holds := stores.kept n r saved
    exact ⟨holds.file,Files.locate_found along holds.located,by rw [same,holds.held]⟩
  clear n nothing held := by
    rw [same]
    exact stores.clear n nothing held
  level straight n := by
    rw [same]
    exact stores.level straight n

-- Directories on the way to the store are in the place of no snapshot, unless the way goes up again.
theorem grown (stores : Stores layout files memory) (more : Files.Grown (Path.names layout.ipam) files files') :
    Stores layout files' memory where
  kept n r saved := by
    have holds := stores.kept n r saved
    exact ⟨holds.file,Files.locate_found (fun place => more.kept place _) holds.located,more.kept _ _ holds.held⟩
  clear n nothing held := by
    rcases more.made (place layout n.name) with same | ⟨new,_⟩
    · rw [same]
      exact stores.clear n nothing held
    · simp [new]
  level straight n := by
    have level : ".." ∉ Path.names layout.ipam := by
      rw [ipam_names]
      simp [straight]
    rcases more.made (place layout n.name) with same | ⟨_,first,⟨rest,front⟩,led⟩
    · rw [same]
      exact stores.level straight n
    · have down : ".." ∉ rest := fun member => level (front ▸ List.mem_append_right first member)
      have above := Files.destination_down (Files.destination [] first) down
      rw [← Files.destination_append,front,← led] at above
      have length := above.length_le
      simp only [place,store,List.length_append,List.length_singleton] at length
      omega

variable {there : List String} {held : List UInt8}

theorem put (stores : Stores layout files memory) (free : files.find? there ≠ some .directory) (somewhere : there ≠ [])
    (apart : ∀ network, there ≠ place layout network) : Stores layout (files.put there (.file held)) memory := by
  refine stores.changed (fun other found => ?_) fun n => ?_
  · have different : other ≠ there := fun same => free (same ▸ found)
    rw [Files.find_put somewhere,if_neg different,found]
  · rw [Files.find_put somewhere,if_neg (apart n.name).symm]

theorem drop (stores : Stores layout files memory) (file : files.find? there = some (.file held))
    (somewhere : there ≠ []) (apart : ∀ network, there ≠ place layout network) :
    Stores layout (files.drop there) memory := by
  refine stores.changed (fun other found => ?_) fun n => ?_
  · have different : other ≠ there := by
      rintro rfl
      rw [file] at found
      cases found
    rw [Files.find_drop somewhere,if_neg different,found]
  · rw [Files.find_drop somewhere,if_neg (apart n.name).symm]

-- A draft is written beside the snapshots.
theorem drafted (stores : Stores layout files memory) (n : Network)
    (wrote : files.writeBytes (draft (layout.snapshot n.name)) held = .ok files') :
    Stores layout files' memory ∧ ∃ there, there ≠ [] ∧ (∀ network, there ≠ place layout network) ∧
      Files.Holds files' (draft (layout.snapshot n.name)) there held := by
  obtain ⟨there,writable,rfl⟩ := Files.writeBytes_ok.mp wrote
  have point : n.name ≠ "." := by
    intro point
    rw [point] at writable
    exact point_undrafted writable
  obtain ⟨somewhere,apart⟩ := draft_located n.whole point writable.located
  exact ⟨stores.put writable.free somewhere apart,there,somewhere,apart,writable.written⟩

-- A snapshot that takes its place is the one in force.
theorem renewed (stores : Stores layout files memory) (located : files.locate (layout.snapshot n.name) = .ok there)
    (free : files.find? there ≠ some .directory) :
    Stores layout (files.put there (.file (bytes r.val))) (Function.update memory n (some r)) := by
  obtain rfl := snapshot_located n.whole located
  have somewhere := place_somewhere layout n.name
  constructor
  · intro m saved_ saved
    by_cases same : m = n
    · subst same
      rw [Function.update_self] at saved
      cases saved
      refine ⟨snapshot_file m.whole,Files.locate_put free located,?_⟩
      rw [Files.find_put somewhere,if_pos rfl]
    · rw [Function.update_of_ne same] at saved
      exact (stores.kept m saved_ saved).kept free (place_apart same)
  · intro m nothing held
    by_cases same : m = n
    · subst same
      rw [Function.update_self] at nothing
      cases nothing
    · rw [Function.update_of_ne same] at nothing
      rw [Files.find_put somewhere,if_neg (place_apart same)]
      exact stores.clear m nothing held
  · intro straight m
    rw [Files.find_put somewhere]
    split
    · simp
    · exact stores.level straight m

-- Where a snapshot is removed, none is in force.
theorem removed (stores : Stores layout files memory) (located : files.locate (layout.snapshot n.name) = .ok there)
    (file : files.find? there = some (.file held)) :
    Stores layout (files.drop there) (Function.update memory n none) := by
  obtain rfl := snapshot_located n.whole located
  have somewhere := place_somewhere layout n.name
  have along : ∀ other, files.find? other = some .directory →
      (files.drop (place layout n.name)).find? other = some .directory := by
    intro other directory
    have different : other ≠ place layout n.name := by
      rintro rfl
      rw [file] at directory
      cases directory
    rw [Files.find_drop somewhere,if_neg different,directory]
  constructor
  · intro m r saved
    by_cases same : m = n
    · subst same
      rw [Function.update_self] at saved
      cases saved
    · rw [Function.update_of_ne same] at saved
      have holds := stores.kept m r saved
      refine ⟨holds.file,Files.locate_found along holds.located,?_⟩
      rw [Files.find_drop somewhere,if_neg (place_apart same),holds.held]
  · intro m nothing held
    rw [Files.find_drop somewhere]
    split
    · simp
    · rename_i apart
      have same : m ≠ n := fun same => apart (by rw [same])
      rw [Function.update_of_ne same] at nothing
      exact stores.clear m nothing held
  · intro straight m
    rw [Files.find_drop somewhere]
    split
    · simp
    · exact stores.level straight m

theorem looked (stores : Stores layout files memory) (saved : memory n = some r) :
    files.look (layout.snapshot n.name) = .ok (.file (bytes r.val)) := by
  have holds := stores.kept n r saved
  exact (Files.look_ok holds.file).mpr ⟨_,holds.located,holds.held⟩

theorem reached (stores : Stores layout files memory) (saved : memory n = some r) :
    files.reaches (layout.snapshot n.name) = true :=
  Files.reaches_iff.mpr ⟨_,stores.looked saved⟩

-- What is found where no save is in force is a directory, and the way to the store goes up.
theorem strayed (stores : Stores layout files memory) (nothing : memory n = none)
    (looked : files.look (layout.snapshot n.name) = .ok entry) :
    entry = .directory ∧ ".." ∈ Path.names layout.root := by
  obtain ⟨there,located,found⟩ := (Files.look_ok (snapshot_file n.whole)).mp looked
  obtain rfl := snapshot_located n.whole located
  cases entry with
  | file held => exact absurd found (stores.clear n nothing held)
  | directory =>
    refine ⟨rfl,?_⟩
    by_contra straight
    exact stores.level straight n found

end Stores

theorem updated {f : Files → Except Files.Error Files} (files : Files) (ran : f files = .ok files') :
    Step.update (fun files => (f files).mapError HostNet.Error.file) files = .ok () files' := by
  simp [Step.update,ran,Except.mapError]

theorem unchanged {f : Files → Except Files.Error Files} (files : Files) (ran : f files = .error cause) :
    Step.update (fun files => (f files).mapError HostNet.Error.file) files = .error (.file cause) files := by
  simp [Step.update,ran,Except.mapError]

theorem Stores.ensured (stores : Stores layout files memory) (front : Path.names path <+: Path.names layout.ipam)
    (ran : files.ensureDirectory path = .ok files') : Stores layout files' memory :=
  stores.grown ((Files.ensureDirectory_grown ran).more front)

-- What is drafted is moved to its snapshot, if there is no directory.
theorem Stores.moved (stores : Stores layout files memory)
    (draft_ : Files.Holds files (draft (layout.snapshot n.name)) there (bytes r.val)) (somewhere : there ≠ [])
    (apart : ∀ network, there ≠ place layout network)
    (ran : files.rename (draft (layout.snapshot n.name)) (layout.snapshot n.name) = .ok files') :
    Stores layout files' (Function.update memory n (some r)) := by
  obtain ⟨origin,target,entry,located,led,found,free,rfl⟩ := Files.rename_ok.mp ran
  obtain rfl := Except.ok.inj (draft_.located.symm.trans located)
  obtain rfl := Option.some.inj (draft_.held.symm.trans found)
  have target_ := snapshot_located n.whole led
  refine (stores.drop found somewhere apart).renewed (Files.locate_found (fun other directory => ?_) led) ?_
  · have different : other ≠ there := by
      rintro rfl
      rw [found] at directory
      cases directory
    rw [Files.find_drop somewhere,if_neg different,directory]
  · rw [Files.find_drop somewhere,target_,if_neg (apart n.name).symm,← target_]
    exact free

theorem save_dictated (stores : Stores layout files memory) (n : Network) (r : UsedRange) : ∃ after,
    Dictates layout files memory (.save n r) (serve layout (.save n r) files).1 after ∧
      Stores layout (serve layout (.save n r) files).2 after := by
  have front := List.prefix_refl (Path.names layout.ipam)
  cases made : files.ensureDirectory layout.ipam with
  | error cause =>
    have ran : save layout n.name r.val files = .error (.file cause) files := by
      rw [save_steps,Step.bind_error (unchanged files made)]
    simp only [serve,Step.outcome_error ran]
    exact ⟨memory,.unsaved fun between ok => (by rw [made] at ok; cases ok),stores⟩
  | ok between =>
    have stores₁ := stores.ensured front made
    cases wrote : between.writeBytes (draft (layout.snapshot n.name)) (bytes r.val) with
    | error cause =>
      have ran : save layout n.name r.val files = .error (.file cause) between := by
        rw [save_steps,Step.bind_ok (updated files made)]
        exact Step.bind_error (unchanged between wrote)
      simp only [serve,Step.outcome_error ran]
      refine ⟨memory,.unsaved fun between' ok both => ?_,stores₁⟩
      obtain rfl := Except.ok.inj (made.symm.trans ok)
      obtain ⟨⟨there,writable⟩,_⟩ := both
      rw [Files.writeBytes_ok.mpr ⟨there,writable,rfl⟩] at wrote
      cases wrote
    | ok drafted =>
      obtain ⟨stores₂,there,somewhere,apart,draft_⟩ := stores₁.drafted n wrote
      have begun : save layout n.name r.val files = Step.update (fun files =>
          (files.rename (draft (layout.snapshot n.name)) (layout.snapshot n.name)).mapError .file) drafted := by
        rw [save_steps,Step.bind_ok (updated files made)]
        exact Step.bind_ok (updated between wrote)
      cases moved : drafted.rename (draft (layout.snapshot n.name)) (layout.snapshot n.name) with
      | error cause =>
        have ran : save layout n.name r.val files = .error (.file cause) drafted := by
          rw [begun]
          exact unchanged drafted moved
        simp only [serve,Step.outcome_error ran]
        refine ⟨memory,.unsaved fun between' ok both => ?_,stores₂⟩
        obtain rfl := Except.ok.inj (made.symm.trans ok)
        obtain ⟨_,⟨target,writable⟩⟩ := both
        obtain ⟨there',draft',rfl⟩ := Files.writeBytes_ok.mp wrote
        have still : Writable (between.put there' (.file (bytes r.val))) (layout.snapshot n.name) target :=
          writable.put draft'.free
        rw [Files.rename_ok.mpr ⟨_,_,_,draft_.located,still.located,draft_.held,still.free,rfl⟩] at moved
        cases moved
      | ok after =>
        have ran : save layout n.name r.val files = .ok () after := by
          rw [begun]
          exact updated drafted moved
        simp only [serve,Step.outcome_ok ran]
        exact ⟨_,.saved,stores₂.moved draft_ somewhere apart moved⟩

theorem ancestor_names (parent : Path.parent? path = some below) (found : ancestor? above path = some directory) :
    Path.names directory <+: Path.names below := by
  induction above generalizing path below with
  | zero =>
    obtain rfl := Option.some.inj (parent.symm.trans found)
    exact List.prefix_refl _
  | succ above ih =>
    rw [ancestor?,parent,Option.bind_some] at found
    cases next : Path.parent? below with
    | none => cases above <;> simp [ancestor?,next] at found
    | some further => exact (ih next found).trans (Path.parent_names next)

-- A save that is cut off leaves every snapshot as it was.
theorem interrupted_keeps (n : Network) (r : Range) (progress : Progress) :
    Step.Keeps (fun files => Stores layout files memory) (interrupted layout n.name r progress) := by
  have parent : Path.parent? (layout.snapshot n.name) = some layout.ipam := snapshot_parent n.whole
  have ensured : ∀ directory, Path.names directory <+: Path.names layout.ipam →
      Step.Keeps (fun files => Stores layout files memory)
        (Step.update fun files => (files.ensureDirectory directory).mapError HostNet.Error.file) := by
    intro directory front
    apply Step.keeps_update
    intro files files' stores ran
    cases made : files.ensureDirectory directory with
    | error cause =>
      rw [made] at ran
      cases ran
    | ok between =>
      rw [made] at ran
      cases ran
      exact stores.ensured front made
  cases progress with
  | directories above =>
    simp only [interrupted]
    cases found : ancestor? above (layout.snapshot n.name) with
    | none => exact Step.keeps_pure _
    | some directory => exact ensured directory (ancestor_names parent found)
  | draft count =>
    rw [interrupted]
    unfold drafting
    simp only [parent]
    apply Step.keeps_bind (ensured _ (List.prefix_refl _))
    intro _
    apply Step.keeps_update
    intro files files' stores ran
    cases wrote : files.writeBytes (draft (layout.snapshot n.name)) ((bytes r).take count) with
    | error cause =>
      rw [wrote] at ran
      cases ran
    | ok drafted =>
      rw [wrote] at ran
      cases ran
      exact (stores.drafted n wrote).1

section
variable {network : String}

theorem read_state (files : Files) : (get : Step Files HostNet.Error Files) files = .ok files files := rfl

theorem delete_absent (missing : files.reaches (layout.snapshot network) = false) :
    delete layout network files = .ok () files := by
  unfold delete
  simp only [Step.bind_ok (read_state files),missing]
  rfl

theorem delete_there (there_ : files.reaches (layout.snapshot network) = true) : delete layout network files =
    Step.update (fun files => (files.remove (layout.snapshot network)).mapError .file) files := by
  unfold delete
  simp only [Step.bind_ok (read_state files),there_,if_true]

end

theorem load_dictated (stores : Stores layout files memory) (n : Network) (q : UsedRange) :
    Dictates layout files memory (.load n q) (serve layout (.load n q) files).1 memory := by
  cases saved : memory n with
  | some r =>
    obtain ⟨s,held,kept⟩ := r.holds
    obtain ⟨t,others,valid⟩ := q.holds
    have read : files.read (layout.snapshot n.name) = .ok (capture r.val).toDocument.toJsonLines :=
      Files.read_ok.mpr ⟨_,_,stores.kept n r saved,Text.ofUtf8_utf8 _⟩
    have loaded : load layout files n.name = (capture r.val).apply >>= fun _ => pure true :=
      load_read (stores.reached saved) read (ofJson_toJson (capture r.val)).2
    by_cases same : r.val.subnet = q.val.subnet
    · obtain ⟨after,ran,taken⟩ := captured_taken valid kept same
      have ran : load layout files n.name q.val = .ok true after := by
        rw [loaded]
        exact Step.bind_ok ran
      simp only [serve,Step.outcome_ok ran]
      exact .restored saved same taken
    · have ran : load layout files n.name q.val = .error (.ipam .mismatchedNetwork) q.val := by
        rw [loaded]
        exact Step.bind_error (apply_other (capture_standard r.val) same)
      simp only [serve,Step.outcome_error ran]
      exact .mismatched saved same
  | none =>
    cases there_ : files.reaches (layout.snapshot n.name) with
    | false =>
      simp only [serve,Step.outcome_ok (load_absent there_)]
      exact .absent saved
    | true =>
      obtain ⟨entry,looked⟩ := Files.reaches_iff.mp there_
      obtain ⟨rfl,up⟩ := stores.strayed saved looked
      have unread : files.read (layout.snapshot n.name) = .error (.os .isDirectory) := by
        simp [Files.read,Files.readBytes,looked,bind,Except.bind]
        rfl
      simp only [serve,Step.outcome_error (load_unread there_ unread)]
      exact .unloadable saved up (by simp [Files.isDirectory,looked])

theorem delete_dictated (stores : Stores layout files memory) (n : Network) : ∃ after,
    Dictates layout files memory (.delete n) (serve layout (.delete n) files).1 after ∧
      Stores layout (serve layout (.delete n) files).2 after := by
  cases there_ : files.reaches (layout.snapshot n.name) with
  | false =>
    have nothing : memory n = none := by
      cases saved : memory n with
      | none => rfl
      | some r =>
        rw [stores.reached saved] at there_
        cases there_
    have same : Function.update memory n none = memory := by
      rw [← nothing]
      exact Function.update_eq_self n memory
    simp only [serve,Step.outcome_ok (delete_absent there_)]
    refine ⟨_,.deleted,?_⟩
    rw [same]
    exact stores
  | true =>
    obtain ⟨entry,looked⟩ := Files.reaches_iff.mp there_
    obtain ⟨there,located,found⟩ := (Files.look_ok (snapshot_file n.whole)).mp looked
    cases entry with
    | file held =>
      have ran : delete layout n.name files = .ok () (files.drop there) := by
        rw [delete_there there_]
        exact updated files (Files.remove_ok looked located)
      simp only [serve,Step.outcome_ok ran]
      exact ⟨_,.deleted,stores.removed located found⟩
    | directory =>
      have nothing : memory n = none := by
        cases saved : memory n with
        | none => rfl
        | some r =>
          rw [stores.looked saved] at looked
          cases looked
      have refused : files.remove (layout.snapshot n.name) = .error (.os .isDirectory) := by
        simp [Files.remove,looked,bind,Except.bind]
        rfl
      have ran : delete layout n.name files = .error (.file (.os .isDirectory)) files := by
        rw [delete_there there_]
        exact unchanged files refused
      simp only [serve,Step.outcome_error ran]
      exact ⟨memory,.undeletable nothing (stores.strayed nothing looked).2 (by simp [Files.isDirectory,looked]),stores⟩

theorem serve_stores (stores : Stores layout files memory) (call : Call) : ∃ after,
    Dictates layout files memory call (serve layout call files).1 after ∧
      Stores layout (serve layout call files).2 after := by
  cases call with
  | save n r => exact save_dictated stores n r
  | cut n r progress => exact ⟨memory,.cut,interrupted_keeps n r.val progress files stores⟩
  | load n q => exact ⟨memory,load_dictated stores n q,stores⟩
  | delete n => exact delete_dictated stores n

theorem serveAll_stores (stores : Stores layout files memory) (calls : List Call) : ∃ after,
    DictatesAll layout files memory calls (serveAll layout calls files).1 after := by
  induction calls generalizing files memory with
  | nil => exact ⟨memory,.nil⟩
  | cons call rest ih =>
    obtain ⟨between,first,kept⟩ := serve_stores stores call
    obtain ⟨after,others⟩ := ih kept
    exact ⟨after,.cons first others⟩

-- A tree in which no snapshot stands.
def Vacant (layout : Layout) (files : Files) : Prop := ∀ n : Network, files.find? (place layout n.name) = none

-- Every call is answered by the last saves that came to their end.
theorem saves_remembered (layout : Layout) (files : Files) (vacant : Vacant layout files) (calls : List Call) :
    ∃ memory, DictatesAll layout files (fun _ => none) calls (serveAll layout calls files).1 memory := by
  apply serveAll_stores
  constructor
  · intro n r saved
    cases saved
  · intro n _ held
    simp [vacant n]
  · intro _ n
    simp [vacant n]

-- One save is cut off in the middle of its draft, after another and before a load.
def interruption : List Call :=
  let subnet : Subnet := Subnet.ofAddress (.ofNat .v4 0x0a1e0000) 28
  let pods : Network := ⟨"pods",by decide⟩
  let earlier : UsedRange := ⟨Range.reached subnet [.allocate (.ofNat .v4 0x0a1e0003)],subnet,_,rfl⟩
  let later : UsedRange := ⟨Range.reached subnet [],subnet,_,rfl⟩
  [.save pods earlier,.cut pods later (.draft 10),.load pods later,.delete pods,.load pods later]

-- The addresses that a load brought.
def Answer.brought? : Answer → Option (List Address)
  | .loaded (.ok true) after => some after.taken
  | _ => none

theorem interruption_remembered : Vacant ⟨"/s"⟩ .empty ∧
    (serveAll ⟨"/s"⟩ interruption .empty).1.map Answer.brought? =
      [none,none,some [.ofNat .v4 0x0a1e0003],none,none] ∧
    ∃ memory, DictatesAll ⟨"/s"⟩ .empty (fun _ => none) interruption
      (serveAll ⟨"/s"⟩ interruption .empty).1 memory := by
  have vacant : Vacant ⟨"/s"⟩ .empty := by
    intro n
    cases located : place ⟨"/s"⟩ n.name with
    | nil => exact absurd located (place_somewhere _ _)
    | cons name rest => rfl
  exact ⟨vacant,by decide +kernel,saves_remembered _ _ vacant _⟩

end HostNet.Ipam.Snapshot
