import HostNet.Proofs.KernelAnswers

namespace HostNet

-- One of several changes that are made one after the other. It may be impossible where it is tried.
abbrev Stage (γ : Type) := γ → Option γ

namespace Stage

def run (stages : List (Stage γ)) (g : γ) : Option γ := stages.foldlM (fun g stage => stage g) g

theorem run_append (first later : List (Stage γ)) (g : γ) : run (first ++ later) g = (run first g).bind (run later) :=
  List.foldlM_append

theorem run_cons (stage : Stage γ) (later : List (Stage γ)) (g : γ) :
    run (stage :: later) g = (stage g).bind (run later) := List.foldlM_cons

variable {stage other : Stage γ} {stages first later : List (Stage γ)} {g m e : γ}

theorem run_single : run [stage] g = stage g := by rw [run_cons]; cases stage g <;> rfl

theorem run_through (begun : run first g = some m) : run (first ++ later) g = run later m := by
  rw [run_append,begun,Option.bind_some]

theorem run_begun (ran : run (first ++ later) g = some e) : ∃ m, run first g = some m ∧ run later m = some e :=
  Option.bind_eq_some_iff.mp ((run_append first later g).symm.trans ran)

section Invariants
variable {I : γ → Prop}

theorem run_keeps (kept : ∀ stage ∈ stages, ∀ g e, I g → stage g = some e → I e) (held : I g)
    (ran : run stages g = some e) : I e := by
  induction stages generalizing g with
  | nil => cases ran; exact held
  | cons stage rest ih =>
    obtain ⟨m,first,others⟩ := Option.bind_eq_some_iff.mp ((run_cons stage rest g).symm.trans ran)
    exact ih (fun s among => kept s (List.mem_cons_of_mem _ among)) (kept stage (by simp) g m held first) others

theorem run_possible (possible : ∀ stage ∈ stages, ∀ g, I g → ∃ e, stage g = some e ∧ I e) (held : I g) :
    ∃ e, run stages g = some e ∧ I e := by
  induction stages generalizing g with
  | nil => exact ⟨g,rfl,held⟩
  | cons stage rest ih =>
    obtain ⟨m,first,between⟩ := possible stage (by simp) g held
    obtain ⟨e,others,after⟩ := ih (fun s among => possible s (List.mem_cons_of_mem _ among)) between
    exact ⟨e,by rw [run_cons,first,Option.bind_some,others],after⟩

end Invariants

-- Where it was made there is nothing left for it to do.
def Settles (stage : Stage γ) : Prop := ∀ g e, stage g = some e → stage e = some e

-- Where it has nothing to do, it has nothing to do after the other either.
def Withstands (stage other : Stage γ) : Prop := ∀ g e, stage g = some g → other g = some e → stage e = some e

-- Stages that can be taken up again from the first one after a break at any of them.
structure Resumable (stages : List (Stage γ)) : Prop where
  settles : ∀ stage ∈ stages, Settles stage
  withstands : stages.Pairwise Withstands

theorem Resumable.sublist (resumable : Resumable stages) (part : List.Sublist first stages) : Resumable first :=
  ⟨fun stage among => resumable.settles stage (part.subset among),resumable.withstands.sublist part⟩

theorem Resumable.append (one : Resumable first) (two : Resumable later)
    (apart : ∀ stage ∈ first, ∀ other ∈ later, Withstands stage other) : Resumable (first ++ later) := by
  refine ⟨fun stage among => ?_,List.pairwise_append.mpr ⟨one.withstands,two.withstands,apart⟩⟩
  rcases List.mem_append.mp among with among | among
  · exact one.settles stage among
  · exact two.settles stage among

theorem withstands_run (fixed : stage g = some g) (apart : ∀ other ∈ later, Withstands stage other)
    (ran : run later g = some e) : stage e = some e :=
  run_keeps (I := fun g => stage g = some g) apart fixed ran

theorem run_fixed (fixed : ∀ stage ∈ stages, stage g = some g) : run stages g = some g := by
  induction stages with
  | nil => rfl
  | cons stage rest ih =>
    rw [run_cons,fixed stage (by simp),Option.bind_some]
    exact ih fun s among => fixed s (List.mem_cons_of_mem _ among)

theorem fixed_after (resumable : Resumable stages) (ran : run stages g = some e) :
    ∀ stage ∈ stages, stage e = some e := by
  induction stages generalizing g with
  | nil => simp
  | cons stage rest ih =>
    obtain ⟨m,first,others⟩ := Option.bind_eq_some_iff.mp ((run_cons stage rest g).symm.trans ran)
    obtain ⟨apart,_⟩ := List.pairwise_cons.mp resumable.withstands
    intro s among
    rcases List.mem_cons.mp among with rfl | later
    · exact withstands_run (resumable.settles s (by simp) g m first) apart others
    · exact ih (resumable.sublist (List.sublist_cons_self _ _)) others s later

-- Taken up again after a break, they end where they would have ended without it.
theorem run_again (resumable : Resumable stages) (begun : first <+: stages) (broken : run first g = some m)
    (ran : run stages g = some e) : run stages m = some e := by
  obtain ⟨later,rfl⟩ := begun
  have still := run_fixed (fixed_after (resumable.sublist (List.sublist_append_left _ _)) broken)
  rw [run_through still,← run_through broken]
  exact ran

section Parts
open Step (Part)

-- A stage on a part of the whole.
def within (get : γ → δ) (set : δ → γ → γ) (stage : Stage δ) : Stage γ := fun g => (stage (get g)).map fun d => set d g

variable {get : γ → δ} {set : δ → γ → γ} {inner beside : Stage δ}

theorem within_some : within get set inner g = some e ↔ ∃ d, inner (get g) = some d ∧ set d g = e :=
  Option.map_eq_some_iff

theorem settles_within (part : Part get set) (settles : Settles inner) : Settles (within get set inner) := by
  intro g e made
  obtain ⟨d,changed,rfl⟩ := within_some.mp made
  refine within_some.mpr ⟨d,?_,part.again d d g⟩
  rw [part.found]
  exact settles _ d changed

theorem withstands_within (part : Part get set) (withstands : Withstands inner beside) :
    Withstands (within get set inner) (within get set beside) := by
  intro g e fixed made
  obtain ⟨c,still,same⟩ := within_some.mp fixed
  obtain ⟨d,changed,rfl⟩ := within_some.mp made
  have known : get g = c := by rw [← same,part.found]
  refine within_some.mpr ⟨d,?_,part.again d d g⟩
  rw [part.found]
  exact withstands (get g) d (known ▸ still) changed

theorem withstands_apart {put : τ → γ → γ} {take : γ → τ} {outer : Stage τ} (part : Part get set)
    (apart : ∀ t g, get (put t g) = get g) : Withstands (within get set inner) (within take put outer) := by
  intro g e fixed made
  obtain ⟨c,still,same⟩ := within_some.mp fixed
  obtain ⟨t,_,rfl⟩ := within_some.mp made
  have known : get g = c := by rw [← same,part.found]
  refine within_some.mpr ⟨c,?_,?_⟩
  · rw [apart]
    exact still
  · rw [← known,← apart t g]
    exact part.same _

end Parts

end Stage
end HostNet
