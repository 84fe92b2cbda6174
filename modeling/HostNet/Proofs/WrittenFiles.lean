import HostNet.Proofs.BridgeStages

namespace HostNet

namespace Files

-- Files of which some were written anew: paths lead where they led, and what is in no place of these paths is the same.
structure Rewritten (paths : List String) (files files' : Files) : Prop where
  located : ∀ path place, files'.locate path = .ok place ↔ files.locate path = .ok place
  kept : ∀ place, (∀ path ∈ paths, files.locate path ≠ .ok place) → files'.find? place = files.find? place

namespace Rewritten
variable {paths : List String} {files files₁ files₂ : Files}

theorem refl (paths : List String) (files : Files) : Rewritten paths files files := ⟨fun _ _ => Iff.rfl,fun _ _ => rfl⟩

theorem trans (first : Rewritten paths files files₁) (second : Rewritten paths files₁ files₂) :
    Rewritten paths files files₂ where
  located path place := (second.located path place).trans (first.located path place)
  kept place elsewhere := by
    rw [second.kept place fun path among => mt (first.located path place).mp (elsewhere path among),
      first.kept place elsewhere]

theorem more (rewritten : Rewritten paths files files₁) (wider : ∀ path ∈ paths, path ∈ paths') :
    Rewritten paths' files files₁ :=
  ⟨rewritten.located,fun place elsewhere => rewritten.kept place fun path among => elsewhere path (wider path among)⟩

end Rewritten

theorem Writable.rewritten (writable : Writable files path place) (bytes : List UInt8) :
    Rewritten [path] files (files.put place (.file bytes)) where
  located other there :=
    ⟨locate_along fun _ => enter_unput writable.free,locate_put writable.free⟩
  kept other elsewhere := by
    have apart : other ≠ place := fun same => elsewhere path (by simp) (same ▸ writable.located)
    rw [find_put (somewhere writable.free),if_neg apart]

end Files

open Files (Rewritten)
open Stage (run)
open Config (Plan)

namespace Sysctl
variable {files files' : Files} {root bridge : String} {family : Family}

theorem forwarded_rewritten (ran : forwarded root family files = some files') :
    Rewritten [path root (forwarding family)] files files' := by
  rcases (enableForwarding_ok (forwarded_some.mp ran)).2 with rfl | ⟨place,writable,rfl⟩
  · exact Rewritten.refl _ _
  · exact writable.rewritten _

theorem closed_rewritten (ran : closed root bridge files = some files') :
    Rewritten [path root (Bridge.acceptRouters bridge)] files files' := by
  rcases closed_cases root bridge files with same | ⟨place,writable,wrote⟩
  · cases same.symm.trans ran
    exact Rewritten.refl _ _
  · cases wrote.symm.trans ran
    exact writable.rewritten _

end Sysctl

namespace Bridge
variable {root : String} {p : Plan} {g g' : Ground}

-- The parameters that a set-up may write.
def written (root : String) (p : Plan) : List String :=
  (if p.layer3 then [Family.v4,Family.v6].map fun family => Sysctl.path root (Sysctl.forwarding family) else []) ++
    [Sysctl.path root (acceptRouters p.bridge)]

theorem kernel_rewritten {stage : Stage Kernel.Table} (made : onKernel stage g = some g') : g'.files = g.files := by
  obtain ⟨t,_,rfl⟩ := Stage.within_some.mp made
  rfl

theorem forwarding_rewritten (among : stage ∈ forwarding root) (made : stage g = some g') :
    ∃ family, Rewritten [Sysctl.path root (Sysctl.forwarding family)] g.files g'.files := by
  rcases List.mem_pair.mp among with rfl | rfl
  all_goals
    obtain ⟨files,ran,rfl⟩ := Stage.within_some.mp made
    exact ⟨_,Sysctl.forwarded_rewritten ran⟩

theorem stages_rewritten (ran : run (stages root p) g = some g') : Rewritten (written root p) g.files g'.files := by
  refine Stage.run_keeps (I := fun m : Ground => Rewritten (written root p) g.files m.files) ?_ (Rewritten.refl _ _) ran
  intro stage among m e held made
  refine held.trans ?_
  rcases List.mem_append.mp among with among | among
  · rcases List.mem_append.mp among with among | among
    · split at among
      · rename_i addressed
        obtain ⟨family,rewritten⟩ := forwarding_rewritten among made
        refine rewritten.more fun path among => ?_
        rw [List.mem_singleton.mp among,written,if_pos addressed]
        cases family <;> simp
      · cases among
    · rcases mem_bridging among with rfl | ⟨mark,rfl⟩ | rfl
      · rw [kernel_rewritten made]
        exact Rewritten.refl _ _
      · rw [kernel_rewritten made]
        exact Rewritten.refl _ _
      · obtain ⟨files,closed,rfl⟩ := Stage.within_some.mp made
        refine (Sysctl.closed_rewritten closed).more fun path among => ?_
        rw [List.mem_singleton.mp among,written]
        simp
  · split at among
    · rcases mem_addressing among with rfl | ⟨net,rfl⟩
      all_goals
        rw [kernel_rewritten made]
        exact Rewritten.refl _ _
    · cases among

end Bridge
end HostNet
