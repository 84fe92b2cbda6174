import HostNet.Ipam.Snapshot
import HostNet.Proofs.FileTrees

namespace HostNet.Ipam.Snapshot
open HostNet.Path (names)

variable {layout : Layout} {network : String}

-- The last name of the path at which the snapshot of a network is kept, and of the path at which it is drafted.
def fileName (network : String) : String := network ++ ".json"

def draftName (network : String) : String :=
  if network = "" then ".json.json.tmp" else if network = "." then ".." else network ++ ".json.tmp"

theorem ipam_names (layout : Layout) : names layout.ipam = names layout.root ++ ["ipam"] :=
  Path.names_joined layout.root "ipam"

theorem ipam_last (layout : Layout) : layout.ipam.toList.getLast? = some 'm' :=
  Path.joined_last layout.root (by decide)

theorem fileName_last (network : String) : (fileName network).toList.getLast? = some 'n' := by
  simp [fileName]

theorem plain_last (solid : name.toList.getLast? = some c) (dot : c ≠ '.') : name ≠ "." ∧ name ≠ ".." := by
  constructor
  · rintro rfl
    exact dot (Option.some.inj solid).symm
  · rintro rfl
    exact dot (Option.some.inj solid).symm

theorem fileName_plain (network : String) : fileName network ≠ "." ∧ fileName network ≠ ".." :=
  plain_last (fileName_last network) (by decide)

theorem fileName_filled (network : String) : (fileName network).toList ≠ [] := by simp [fileName]

theorem fileName_whole (whole : '/' ∉ network.toList) : '/' ∉ (fileName network).toList := by
  simp [fileName,whole]

theorem fileName_relative (whole : '/' ∉ network.toList) : Path.isAbsolute (fileName network) = false := by
  unfold Path.isAbsolute fileName
  rw [String.toList_append]
  cases first : network.toList with
  | nil => rfl
  | cons c rest =>
    have other : c ≠ '/' := fun same => whole (by rw [first,same]; exact List.mem_cons_self)
    simpa using other

theorem snapshot_path (whole : '/' ∉ network.toList) :
    layout.snapshot network = layout.ipam ++ "/" ++ fileName network := by
  have filled : layout.ipam.isEmpty = false := by
    rw [Bool.eq_false_iff]
    intro empty
    have last := ipam_last layout
    rw [String.isEmpty_iff.mp empty] at last
    cases last
  have solid : (layout.ipam.toList.getLast? == some '/') = false := by
    rw [ipam_last]
    decide
  rw [Layout.snapshot,← fileName,Path.join,fileName_relative whole,filled,solid]
  rfl

theorem snapshot_names (whole : '/' ∉ network.toList) :
    names (layout.snapshot network) = names layout.ipam ++ [fileName network] := by
  rw [snapshot_path whole]
  exact Path.names_last _ _ (fileName_whole whole) (fileName_filled network)

theorem snapshot_parent (whole : '/' ∉ network.toList) :
    Path.parent? (layout.snapshot network) = some layout.ipam := by
  rw [snapshot_path whole]
  exact Path.parent_below (fileName_whole whole) (ipam_last layout) (fileName_last network) (by decide)

theorem fileName_chars (network : String) : (fileName network).toList = network.toList ++ '.' :: "json".toList := by
  rw [fileName,String.toList_append]
  rfl

theorem draft_path (whole : '/' ∉ network.toList) :
    draft (layout.snapshot network) = layout.ipam ++ "/" ++ draftName network := by
  have name : Path.lastName (layout.ipam ++ "/" ++ fileName network) = network.toList ++ '.' :: "json".toList := by
    rw [Path.lastName_below (fileName_whole whole),fileName_chars]
  have stem := Path.splitExtension_last network.toList "json".toList (by decide)
  rw [draft,snapshot_path whole,Path.withExtension]
  simp only [name,stem,Path.below_chars,fileName_chars,Path.before_below]
  unfold draftName
  rw [← String.toList_inj]
  by_cases empty : network = ""
  · subst empty
    simp [draftExtension]
  · have filled : network.toList ≠ [] := by simpa using empty
    by_cases point : network = "."
    · subst point
      simp
    · have other : network.toList ≠ ['.'] := fun same => point (by rw [← String.toList_inj,same]; rfl)
      simp [empty,filled,point,other,draftExtension]

-- The directory of all snapshots, and the place of one of them in it.
def store (layout : Layout) : List String := Files.destination [] (names layout.ipam)

def place (layout : Layout) (network : String) : List String := store layout ++ [fileName network]

variable {files : Files} {found : List String}

theorem place_somewhere (layout : Layout) (network : String) : place layout network ≠ [] := by simp [place]

theorem fileName_injective {one two : String} (same : fileName one = fileName two) : one = two := by
  have chars := congrArg String.toList same
  rw [fileName_chars,fileName_chars] at chars
  exact String.toList_inj.mp (List.append_cancel_right chars)

theorem place_injective (layout : Layout) {one two : String} (same : place layout one = place layout two) :
    one = two :=
  fileName_injective (List.cons.inj (List.append_cancel_left same)).1

theorem snapshot_located (whole : '/' ∉ network.toList) (located : files.locate (layout.snapshot network) = .ok found) :
    found = place layout network := by
  have led := Files.locate_destination located
  rwa [snapshot_names whole,Files.destination_last _ _ (fileName_plain network)] at led

theorem snapshot_file (whole : '/' ∉ network.toList) : Files.wantsDirectory (layout.snapshot network) = false := by
  rw [Files.wantsDirectory,snapshot_path whole,Path.below_chars,List.getLast?_append,List.getLast?_cons,fileName_last]
  rfl

theorem draftName_last (point : network ≠ ".") : (draftName network).toList.getLast? = some 'p' := by
  unfold draftName
  split
  · decide
  · simp

theorem draftName_whole (whole : '/' ∉ network.toList) : '/' ∉ (draftName network).toList := by
  unfold draftName
  split
  · decide
  · split
    · decide
    · simp [whole]

theorem draft_names (whole : '/' ∉ network.toList) :
    names (draft (layout.snapshot network)) = names layout.ipam ++ [draftName network] := by
  have filled : (draftName network).toList ≠ [] := by
    unfold draftName
    split_ifs <;> simp
  rw [draft_path whole]
  exact Path.names_last _ _ (draftName_whole whole) filled

-- A draft stands beside the snapshots, in the place of none of them.
theorem draft_located (whole : '/' ∉ network.toList) (point : network ≠ ".")
    (located : files.locate (draft (layout.snapshot network)) = .ok found) :
    found ≠ [] ∧ ∀ other, found ≠ place layout other := by
  have led := Files.locate_destination located
  rw [draft_names whole,Files.destination_last _ _ (plain_last (draftName_last point) (by decide))] at led
  subst led
  refine ⟨by simp,fun other same => ?_⟩
  have last := (List.cons.inj (List.append_cancel_left same)).1
  have ends := draftName_last point
  rw [last,fileName_last] at ends
  exact absurd (Option.some.inj ends) (by decide)

-- The draft for the name of one point would be a directory.
theorem point_undrafted : ¬Files.Writable files (draft (layout.snapshot ".")) found := by
  intro writable
  obtain ⟨_,_,walked⟩ := Files.of_bind writable.located
  have up : draftName "." = ".." := by decide
  rw [draft_names (by decide),ipam_names,up,List.append_assoc,Files.walk_append] at walked
  obtain ⟨root,_,walked⟩ := Files.of_bind walked
  have led := Files.walk_destination walked
  rw [List.singleton_append,Files.walk_cons] at walked
  obtain ⟨_,entered,_⟩ := Files.of_bind walked
  have back : found = root := by simpa [Files.destination] using led
  exact writable.free (back ▸ Files.enter_ok.mp entered)

end HostNet.Ipam.Snapshot
