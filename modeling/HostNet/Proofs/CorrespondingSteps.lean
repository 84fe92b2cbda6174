import HostNet.Masquerade.Iptables
import HostNet.Proofs.StepKeeps
import Mathlib.Data.List.Forall2

namespace HostNet

namespace Step

-- What two steps told: both have succeeded or both have failed, and what they gave is related.
inductive Agree (A : α → β → Prop) (E : ε → ε' → Prop) : Except ε α → Except ε' β → Prop where
  | ok (related : A a b) : Agree A E (.ok a) (.ok b)
  | error (related : E e f) : Agree A E (.error e) (.error f)

-- From related states two steps tell the same up to the relations and leave related states, also where they fail.
def Corresponds (R : σ → τ → Prop) (A : α → β → Prop) (E : ε → ε' → Prop) (x : Step σ ε α) (y : Step τ ε' β) : Prop :=
  ∀ s t, R s t → Agree A E (x.outcome s).1 (y.outcome t).1 ∧ R (x.outcome s).2 (y.outcome t).2

def Unrelated (_ : α) (_ : β) : Prop := True

variable {R : σ → τ → Prop} {A : α → β → Prop} {B : γ → δ → Prop} {E : ε → ε' → Prop} {F : φ → φ' → Prop}

theorem Agree.imp {A' : α → β → Prop} (agree : Agree A E one two) (weaker : ∀ a b, A a b → A' a b) :
    Agree A' E one two := by
  cases agree with
  | ok related => exact .ok (weaker _ _ related)
  | error related => exact .error related

theorem agree_eq : Agree Eq Eq one two ↔ one = two := by
  constructor
  · intro agree
    cases agree with
    | ok related => rw [related]
    | error related => rw [related]
  · rintro rfl
    cases one with
    | ok a => exact .ok rfl
    | error e => exact .error rfl

theorem Corresponds.imp {A' : α → β → Prop} {x : Step σ ε α} {y : Step τ ε' β} (same : Corresponds R A E x y)
    (weaker : ∀ a b, A a b → A' a b) : Corresponds R A' E x y :=
  fun s t related => ⟨(same s t related).1.imp weaker,(same s t related).2⟩

theorem corresponds_pure (told : A a b) : Corresponds R A E (pure a) (pure b) := fun _ _ related => ⟨.ok told,related⟩

theorem corresponds_throw (told : E e f) : Corresponds R A E (throw e) (throw f) :=
  fun _ _ related => ⟨.error told,related⟩

theorem corresponds_bind {x : Step σ ε α} {y : Step τ ε' β} {f : α → Step σ ε γ} {g : β → Step τ ε' δ}
    (first : Corresponds R A E x y) (rest : ∀ a b, A a b → Corresponds R B E (f a) (g b)) :
    Corresponds R B E (x >>= f) (y >>= g) := by
  intro s t related
  obtain ⟨told,between⟩ := first s t related
  cases ran : x s with
  | ok a s' =>
    rw [outcome_ok ran] at told between
    cases ran' : y t with
    | ok b t' =>
      rw [outcome_ok ran'] at told between
      cases told with
      | ok told =>
        rw [outcome_bind ran,outcome_bind ran']
        exact rest a b told s' t' between
    | error e t' => rw [outcome_error ran'] at told; cases told
  | error e s' =>
    rw [outcome_error ran] at told between
    cases ran' : y t with
    | ok b t' => rw [outcome_ok ran'] at told; cases told
    | error f t' =>
      rw [outcome_error ran'] at told between
      cases told with
      | error told =>
        rw [outcome_error (bind_error ran),outcome_error (bind_error ran')]
        exact ⟨.error told,between⟩

theorem outcome_attempt (x : Step σ ε α) (s : σ) :
    (attempt x : Step σ ε' (Except ε α)).outcome s = (.ok (x.outcome s).1,(x.outcome s).2) := by
  cases ran : x s with
  | ok a t => rw [outcome_ok (attempt_ok ran),outcome_ok ran]
  | error e t => rw [outcome_ok (attempt_error ran),outcome_error ran]

theorem outcome_mapError (f : ε → ε') (x : Step σ ε α) (s : σ) :
    (mapError f x).outcome s = ((x.outcome s).1.mapError f,(x.outcome s).2) := by
  cases ran : x s with
  | ok a t => rw [outcome_ok (mapError_ok ran),outcome_ok ran]; rfl
  | error e t => rw [outcome_error (mapError_error ran),outcome_error ran]; rfl

theorem corresponds_attempt {x : Step σ ε α} {y : Step τ ε' β} (inner : Corresponds R A E x y) :
    Corresponds R (Agree A E) F (attempt x) (attempt y) := by
  intro s t related
  rw [outcome_attempt,outcome_attempt]
  exact ⟨.ok (inner s t related).1,(inner s t related).2⟩

theorem corresponds_mapError {x : Step σ ε α} {y : Step τ ε' β} {f : ε → φ} {g : ε' → φ'}
    (inner : Corresponds R A E x y) (words : ∀ e e', E e e' → F (f e) (g e')) :
    Corresponds R A F (mapError f x) (mapError g y) := by
  intro s t related
  obtain ⟨told,after⟩ := inner s t related
  have mapped : ∀ {one two}, Agree A E one two → Agree A F (one.mapError f) (two.mapError g) := by
    intro one two agree
    cases agree with
    | ok same => exact .ok same
    | error same => exact .error (words _ _ same)
  rw [outcome_mapError,outcome_mapError]
  exact ⟨mapped told,after⟩

theorem corresponds_forM {f : ι → Step σ ε PUnit} {g : ι → Step τ ε' PUnit}
    (each : ∀ i, Corresponds R Unrelated E (f i) (g i)) (list : List ι) :
    Corresponds R Unrelated E (list.forM f) (list.forM g) := by
  induction list with
  | nil => exact corresponds_pure trivial
  | cons i rest ih => exact corresponds_bind (each i) fun _ _ _ => ih

-- What keeps a property is what corresponds to itself on the states that have it.
theorem corresponds_self {I : σ → Prop} {x : Step σ ε α} (kept : Keeps I x) :
    Corresponds (fun s t => s = t ∧ I s) Eq Eq x x := by
  rintro s _ ⟨rfl,held⟩
  exact ⟨agree_eq.mpr rfl,rfl,kept s held⟩

theorem keeps_of_corresponds {I : σ → Prop} {A : α → α → Prop} {E : ε → ε → Prop} {x : Step σ ε α}
    (same : Corresponds (fun s t => s = t ∧ I s) A E x x) : Keeps I x :=
  fun s held => (same s s ⟨rfl,held⟩).2.2

-- Steps taken one after the other, whether or not those before them failed.
def several : List (Step σ ε α) → σ → List (Except ε α) × σ
  | [],s => ([],s)
  | x :: rest,s =>
    let (told,t) := x.outcome s
    let (others,u) := several rest t
    (told :: others,u)

theorem several_corresponds {R : σ → τ → Prop} {A : α → β → Prop} {E : ε → ε' → Prop} {x : ι → Step σ ε α}
    {y : ι → Step τ ε' β} (list : List ι) (each : ∀ i ∈ list, Corresponds R A E (x i) (y i)) {s : σ} {t : τ}
    (related : R s t) : List.Forall₂ (Agree A E) (several (list.map x) s).1 (several (list.map y) t).1 ∧
      R (several (list.map x) s).2 (several (list.map y) t).2 := by
  induction list generalizing s t with
  | nil => exact ⟨.nil,related⟩
  | cons i rest ih =>
    obtain ⟨first,between⟩ := each i (by simp) s t related
    obtain ⟨others,after⟩ := ih (fun j later => each j (List.mem_cons_of_mem _ later)) between
    exact ⟨.cons first others,after⟩

end Step

namespace Masquerade.Iptables
open Step (Corresponds Unrelated Agree)
open Firewall (ToolError)
open Firewall.Iptables

-- Failures of two tools that masquerading takes for the same: their kind decides what it does, and their words are
-- handed on.
structure Wording (E : ToolError → ToolError → Prop) (M : String → String → Prop) (F : Error → Error → Prop) :
    Prop where
  kind : ∀ e f, E e f → e.isNotFound = f.isNotFound
  words : ∀ e f, E e f → M e.message f.message
  one : ∀ task m n, M m n → F (.firewall .iptables task m) (.firewall .iptables task n)
  several : ∀ task ms ns, List.Forall₂ M ms ns →
    F (.firewall .iptables task ("\n".intercalate ms)) (.firewall .iptables task ("\n".intercalate ns))

theorem wording_eq : Wording Eq Eq Eq where
  kind _ _ same := by rw [same]
  words _ _ same := by rw [same]
  one _ _ _ same := by rw [same]
  several _ _ _ same := by rw [List.forall₂_eq_eq_eq] at same; rw [same]

-- Two tools that correspond in all that masquerading asks of them for one chain. Of the chains that they list it only
-- looks for that one, and of the built-in chain it changes only the jumps to it.
structure Tools (chain : String) (R : σ → τ → Prop) (E : ToolError → ToolError → Prop) (one : Ops σ) (two : Ops τ) :
    Prop where
  listChains : ∀ family, Corresponds R (fun names others => names.contains chain = others.contains chain) E
    (one.listChains family natTable) (two.listChains family natTable)
  newChain : ∀ family, Corresponds R Unrelated E (one.newChain family natTable chain)
    (two.newChain family natTable chain)
  appendUnique : ∀ family rule, Corresponds R Unrelated E (one.appendUnique family natTable chain rule)
    (two.appendUnique family natTable chain rule)
  clearChain : ∀ family, Corresponds R Unrelated E (one.clearChain family natTable chain)
    (two.clearChain family natTable chain)
  deleteChain : ∀ family, Corresponds R Unrelated E (one.deleteChain family natTable chain)
    (two.deleteChain family natTable chain)
  enter : ∀ family source comment, Corresponds R Unrelated E
    (one.appendUnique family natTable postrouting (jumpRule source chain comment))
    (two.appendUnique family natTable postrouting (jumpRule source chain comment))
  leave : ∀ family source comment, Corresponds R Unrelated E
    (one.delete family natTable postrouting (jumpRule source chain comment))
    (two.delete family natTable postrouting (jumpRule source chain comment))

variable {R : σ → τ → Prop} {E : ToolError → ToolError → Prop} {M : String → String → Prop} {F : Error → Error → Prop}
  {one : Ops σ} {two : Ops τ} {chain : String}

theorem ignoreAbsent_corresponds (wording : Wording E M F) {x : Step σ ToolError Unit} {y : Step τ ToolError Unit}
    (inner : Corresponds R Unrelated E x y) :
    Corresponds R Unrelated E (ignoreAbsent x) (ignoreAbsent y) := by
  refine Step.corresponds_bind (Step.corresponds_attempt inner) fun a b told => ?_
  cases told with
  | ok _ => exact Step.corresponds_pure trivial
  | @error e f same =>
    change Corresponds R Unrelated E (if e.isNotFound then pure () else throw e)
      (if f.isNotFound then pure () else throw f)
    rw [wording.kind e f same]
    split
    · exact Step.corresponds_pure trivial
    · exact Step.corresponds_throw same

section Tools
variable (tools : Tools chain R E one two) (wording : Wording E M F)
include tools wording

theorem setupNet_corresponds (comment : String) (net : Subnet) :
    Corresponds R Unrelated F (setupNet one chain comment net) (setupNet two chain comment net) := by
  have said : ∀ task e f, E e f → F (failure task e) (failure task f) :=
    fun task e f same => wording.one task _ _ (wording.words e f same)
  refine Step.corresponds_bind (Step.corresponds_mapError (tools.listChains net.family) (said _)) ?_
  intro names others same
  rw [Step.when_bind,Step.when_bind,same]
  refine Step.corresponds_bind (A := Unrelated) ?_ fun _ _ _ => ?_
  · split
    · exact Step.corresponds_mapError (tools.newChain net.family) (said _)
    · exact Step.corresponds_pure trivial
  refine Step.corresponds_bind (Step.corresponds_mapError (tools.appendUnique net.family _) (said _)) fun _ _ _ => ?_
  refine Step.corresponds_bind (Step.corresponds_mapError (tools.appendUnique net.family _) (said _)) fun _ _ _ => ?_
  exact Step.corresponds_mapError (tools.enter net.family _ _) (said _)

theorem teardownNet_corresponds (comment : String) (net : Subnet) :
    Corresponds R Unrelated E (teardownNet one chain comment net) (teardownNet two chain comment net) := by
  refine Step.corresponds_bind (ignoreAbsent_corresponds wording (tools.leave net.family _ _)) fun _ _ _ => ?_
  refine Step.corresponds_bind (ignoreAbsent_corresponds wording (tools.leave net.family _ _)) fun _ _ _ => ?_
  refine Step.corresponds_bind (ignoreAbsent_corresponds wording (tools.clearChain net.family)) fun _ _ _ => ?_
  exact ignoreAbsent_corresponds wording (tools.deleteChain net.family)

theorem teardownNets_corresponds (comment : String) (nets : List Subnet) :
    Corresponds R (List.Forall₂ M) F (teardownNets one chain comment nets) (teardownNets two chain comment nets) := by
  induction nets with
  | nil => exact Step.corresponds_pure .nil
  | cons net rest ih =>
    refine Step.corresponds_bind (Step.corresponds_attempt (teardownNet_corresponds tools wording comment net)) ?_
    intro a b told
    refine Step.corresponds_bind ih fun ms ns same => ?_
    cases told with
    | ok _ => exact Step.corresponds_pure same
    | error failed => exact Step.corresponds_pure (.cons (wording.words _ _ failed) same)

end Tools

-- Masquerading over tools that correspond for the chain of an identity corresponds for that identity.
theorem install_corresponds {identity : Identity} (tools : Tools (chainName identity.network identity.id) R E one two)
    (wording : Wording E M F) (nets : List Subnet) :
    Corresponds R Unrelated F (install one nets identity) (install two nets identity) :=
  Step.corresponds_forM (setupNet_corresponds tools wording _) nets

theorem teardown_corresponds {identity : Identity} (tools : Tools (chainName identity.network identity.id) R E one two)
    (wording : Wording E M F) (nets : List Subnet) :
    Corresponds R Unrelated F (teardown one nets identity) (teardown two nets identity) := by
  refine Step.corresponds_bind (teardownNets_corresponds tools wording _ nets) fun ms ns same => ?_
  cases same with
  | nil => exact Step.corresponds_pure trivial
  | cons first rest => exact Step.corresponds_throw (wording.several _ _ _ (.cons first rest))

end Masquerade.Iptables
end HostNet
