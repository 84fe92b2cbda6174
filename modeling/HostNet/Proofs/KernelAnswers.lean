import HostNet.Kernel.Table

namespace HostNet

namespace Step

variable {get : σ → τ} {set : τ → σ → σ}

-- A part of a state: what is put there is found there, and nothing else is.
structure Part (get : σ → τ) (set : τ → σ → σ) : Prop where
  found : ∀ t s, get (set t s) = t
  again : ∀ t u s, set u (set t s) = set u s
  same : ∀ s, set (get s) s = s

theorem within_pure (part : Part get set) (a : α) : within get set (pure a : Step τ ε α) = pure a := by
  funext s
  change EStateM.Result.ok a (set (get s) s) = _
  rw [part.same]
  rfl

theorem within_bind (part : Part get set) (x : Step τ ε α) (f : α → Step τ ε β) :
    within get set (x >>= f) = within get set x >>= fun a => within get set (f a) := by
  funext s
  cases ran : x (get s) with
  | ok a t =>
    have first : within get set x s = .ok a (set t s) := by simp only [within,ran]
    rw [bind_ok first]
    unfold within
    rw [bind_ok ran,part.found]
    cases f a t <;> simp only [part.again]
  | error e t =>
    have first : within get set x s = .error e (set t s) := by simp only [within,ran]
    rw [bind_error first]
    unfold within
    rw [bind_error ran]

theorem within_throw (part : Part get set) (e : ε) : within get set (throw e : Step τ ε α) = throw e := by
  funext s
  change EStateM.Result.error e (set (get s) s) = _
  rw [part.same]
  rfl

theorem within_attempt (x : Step τ ε α) :
    within get set (attempt x : Step τ ε' (Except ε α)) = attempt (within get set x) := by
  funext s
  cases ran : x (get s) <;> simp only [within,attempt,ran]

theorem within_mapError (f : ε → ε') (x : Step τ ε α) :
    within get set (mapError f x) = mapError f (within get set x) := by
  funext s
  cases ran : x (get s) <;> simp only [within,mapError,ran]

theorem within_ok {x : Step τ ε α} (ran : x (get s) = .ok a t) : within get set x s = .ok a (set t s) := by
  simp only [within,ran]

theorem within_error {x : Step τ ε α} (ran : x (get s) = .error e t) : within get set x s = .error e (set t s) := by
  simp only [within,ran]

theorem of_within {x : Step τ ε α} (ran : within get set x s = .ok a u) : ∃ t, x (get s) = .ok a t ∧ u = set t s := by
  cases inner : x (get s) with
  | ok b t => cases (within_ok inner).symm.trans ran; exact ⟨t,rfl,rfl⟩
  | error e t => cases (within_error inner).symm.trans ran

theorem of_within_error {x : Step τ ε α} (ran : within get set x s = .error e u) :
    ∃ t, x (get s) = .error e t ∧ u = set t s := by
  cases inner : x (get s) with
  | ok b t => cases (within_ok inner).symm.trans ran
  | error e t => cases (within_error inner).symm.trans ran; exact ⟨t,rfl,rfl⟩

theorem outcome_within (x : Step τ ε α) (s : σ) :
    (within get set x).outcome s = ((x.outcome (get s)).1,set (x.outcome (get s)).2 s) := by
  cases inner : x (get s) with
  | ok a t => rw [outcome_ok (within_ok inner),outcome_ok inner]
  | error e t => rw [outcome_error (within_error inner),outcome_error inner]

end Step

namespace Kernel
open Step (Part within)

variable {get : σ → τ} {set : τ → σ → σ}

theorem within_retryFrom (part : Part get set) (ask : Step τ Error (Listing α)) (last : Option α) (attempts : Nat) :
    within get set (retryFrom ask last attempts) = retryFrom (within get set ask) last attempts := by
  induction attempts generalizing last with
  | zero =>
    cases last with
    | none => exact Step.within_throw part _
    | some value => exact Step.within_pure part value
  | succ attempts ih =>
    unfold retryFrom
    rw [Step.within_bind part,Step.within_attempt]
    congr 1
    funext answer
    cases answer with
    | ok answer =>
      obtain ⟨value,interrupted⟩ := answer
      cases interrupted with
      | true => exact ih (some value)
      | false => exact Step.within_pure part value
    | error e =>
      cases e with
      | interrupted => exact ih last
      | refused reason => exact Step.within_throw part _
      | socket reason => exact Step.within_throw part _
      | other message => exact Step.within_throw part _

theorem within_find (part : Part get set) (d : Driver τ) (name : String) :
    within get set (d.find name) = (d.within get set).find name := by
  unfold Driver.find Driver.link retry
  rw [Step.within_mapError,within_retryFrom part]
  rfl

theorem within_delete (part : Part get set) (d : Driver τ) (name : String) :
    within get set (d.delete name) = (d.within get set).delete name := by
  unfold Driver.delete
  rw [Step.within_bind part,within_find part]
  congr 1
  funext link
  exact Step.within_mapError _ _

theorem within_deleteWithAddresses (part : Part get set) (d : Driver τ) (name : String) :
    within get set (d.deleteWithAddresses name) = (d.within get set).deleteWithAddresses name := by
  unfold Driver.deleteWithAddresses Driver.addressesOf retry
  rw [Step.within_bind part,within_find part]
  congr 1
  funext link
  rw [Step.within_bind part,Step.within_mapError,within_retryFrom part]
  congr 1
  funext addresses
  rw [Step.within_bind part,Step.within_mapError]
  congr 1
  funext _
  exact Step.within_pure part _

namespace Table

-- No kind of request is made to fail.
def Answers (t : Table) : Prop := t.refusals = []

theorem Answers.check {t : Table} (answers : t.Answers) (kind : RequestKind) : t.check kind = .ok () := by
  rw [Table.check,show t.refusals = [] from answers]
  rfl

-- No request of these kinds is made to fail.
def Serves (t : Table) (kinds : List RequestKind) : Prop := ∀ kind ∈ kinds, t.check kind = .ok ()

theorem Answers.serves {t : Table} (answers : t.Answers) (kinds : List RequestKind) : t.Serves kinds :=
  fun kind _ => answers.check kind

theorem check_denied {t : Table} (denied : t.check kind ≠ .ok ()) : ∃ e, t.check kind = .error (.refused e) := by
  unfold check at denied ⊢
  cases refused : t.refusals.lookup kind with
  | none => rw [refused] at denied; exact absurd rfl denied
  | some e => exact ⟨e,rfl⟩

-- Tables that differ at most in how often they were listed.
structure Same (t u : Table) : Prop where
  links : u.links = t.links
  addresses : u.addresses = t.addresses
  refusals : u.refusals = t.refusals

theorem Same.refl (t : Table) : Same t t := ⟨rfl,rfl,rfl⟩

theorem Same.trans {t u w : Table} (first : Same t u) (second : Same u w) : Same t w :=
  ⟨second.links.trans first.links,second.addresses.trans first.addresses,second.refusals.trans first.refusals⟩

theorem Same.check {t u : Table} (same : Same t u) (kind : RequestKind) : u.check kind = t.check kind := by
  rw [Table.check,Table.check,same.refusals]

variable {t : Table} {kind : RequestKind} {read : Table → Except Error α}

theorem list_ok (served : t.check kind = .ok ()) (known : read t = .ok value) :
    ∃ interrupted u, list kind read t = .ok ⟨value,interrupted⟩ u ∧ Same t u := by
  refine ⟨t.interruptions != 0,{ t with listings := t.listings + 1,interruptions := t.interruptions - 1 },?_,
    ⟨rfl,rfl,rfl⟩⟩
  simp only [list,served,known]

-- An interrupted listing is asked for again, and in the end the last answer counts, which is the same.
theorem retryFrom_ok (served : t.check kind = .ok ()) (known : ∀ u, Same t u → read u = .ok value) (last : Option α)
    (attempts : Nat) (enough : last = some value ∨ 0 < attempts) :
    ∃ u, retryFrom (list kind read) last attempts t = .ok value u ∧ Same t u := by
  induction attempts generalizing t last with
  | zero =>
    rcases enough with rfl | none
    · exact ⟨t,rfl,Same.refl t⟩
    · cases none
  | succ attempts ih =>
    obtain ⟨interrupted,u,listed,same⟩ := list_ok served (known t (Same.refl t))
    cases interrupted with
    | false => exact ⟨u,(Step.bind_ok (Step.attempt_ok listed)).trans rfl,same⟩
    | true =>
      obtain ⟨w,others,same'⟩ := ih ((same.check kind).trans served)
        (fun w further => known w (same.trans further)) (some value) (Or.inl rfl)
      exact ⟨w,(Step.bind_ok (Step.attempt_ok listed)).trans others,same.trans same'⟩

theorem retry_ok (served : t.check kind = .ok ()) (known : ∀ u, Same t u → read u = .ok value) :
    ∃ u, retry (list kind read) t = .ok value u ∧ Same t u :=
  retryFrom_ok served known none maxAttempts (Or.inr (by decide))

theorem retry_refused (served : t.check kind = .ok ()) (refused : read t = .error (.refused e)) :
    ∃ u, retry (list kind read) t = .error (.refused e) u ∧ Same t u := by
  refine ⟨{ t with listings := t.listings + 1,interruptions := t.interruptions - 1 },?_,⟨rfl,rfl,rfl⟩⟩
  have listed : list kind read t = .error (.refused e)
      { t with listings := t.listings + 1,interruptions := t.interruptions - 1 } := by
    simp only [list,served,refused]
  exact (Step.bind_ok (Step.attempt_error listed)).trans rfl

theorem retry_denied (denied : t.check kind = .error (.refused e)) :
    retry (list kind read) t = .error (.refused e) t := by
  have listed : list kind read t = .error (.refused e) t := by simp only [list,denied]
  exact (Step.bind_ok (Step.attempt_error listed)).trans rfl

theorem change_denied (denied : t.check kind ≠ .ok ()) (f : Table → Except Error Table) :
    ∃ e, change kind f t = .error e t := by
  obtain ⟨e,refused⟩ := check_denied denied
  exact ⟨.refused e,by simp only [change,Step.update,refused,bind,Except.bind]⟩

theorem change_served (served : t.check kind = .ok ()) (f : Table → Except Error Table) :
    change kind f t = Step.update f t := by
  simp only [change,Step.update,served,bind,Except.bind]

-- How a table is asked for the link of a name.
def linkNamed (name : String) (t : Table) : Except Error Link :=
  match t.named? name with
  | some link => .ok link
  | none => refuse .noDevice

theorem find_ok (served : t.check .linkByName = .ok ()) (there : t.named? name = some link) :
    ∃ u, driver.find name t = .ok link u ∧ Same t u := by
  have known : ∀ u, Same t u → linkNamed name u = .ok link := by
    intro u same
    have found : u.named? name = some link := by rw [named?,same.links]; exact there
    rw [linkNamed,found]
  obtain ⟨u,found,same⟩ := @retry_ok _ _ .linkByName _ _ served known
  exact ⟨u,Step.mapError_ok found,same⟩

theorem find_absent (served : t.check .linkByName = .ok ()) (absent : t.named? name = none) :
    ∃ u, driver.find name t = .error (.linkNotFound name) u ∧ Same t u := by
  have refused : linkNamed name t = .error (.refused .noDevice) := by
    rw [linkNamed,absent]
    rfl
  obtain ⟨u,found,same⟩ := @retry_refused _ _ .linkByName _ _ served refused
  exact ⟨u,Step.mapError_error found,same⟩

-- A table without the link of a name, if there was one, and without what its index had.
structure Unplugged (name : String) (t u : Table) : Prop where
  links : u.links = t.links.filter fun other => (t.named? name).all fun link => other.index != link.index
  addresses : u.addresses = t.addresses.filter fun a => (t.named? name).all fun link => a.index != link.index
  refusals : u.refusals = t.refusals

theorem Unplugged.idle (unplugged : Unplugged name t u) (absent : t.named? name = none) :
    u.links = t.links ∧ u.addresses = t.addresses := by
  obtain ⟨links,addresses,_⟩ := unplugged
  rw [absent] at links addresses
  exact ⟨links.trans (List.filter_eq_self.mpr fun _ _ => rfl),addresses.trans (List.filter_eq_self.mpr fun _ _ => rfl)⟩

theorem find_denied (denied : t.check .linkByName ≠ .ok ()) (name : String) :
    ∃ e, driver.find name t = .error e t := by
  obtain ⟨e,refused⟩ := check_denied denied
  exact ⟨_,Step.mapError_error (retry_denied refused)⟩

-- How a table is asked for the addresses of a link.
def addressesAt (index : Nat) (t : Table) : Except Error (List LinkAddress) :=
  .ok (t.addresses.filter (·.index == index))

theorem addressesOf_ok (served : t.check .addresses = .ok ()) (index : Nat) :
    ∃ u, driver.addressesOf index t = .ok (t.addresses.filter (·.index == index)) u ∧ Same t u := by
  have known : ∀ u, Same t u → addressesAt index u = .ok (t.addresses.filter (·.index == index)) := by
    intro u same
    rw [addressesAt,same.addresses]
  exact @retry_ok _ _ .addresses _ _ served known

theorem addressesOf_denied (denied : t.check .addresses ≠ .ok ()) (index : Nat) :
    ∃ e, driver.addressesOf index t = .error e t := by
  obtain ⟨e,refused⟩ := check_denied denied
  have asked : driver.addressesOf index t = .error (.refused e) t :=
    @retry_denied _ _ .addresses (addressesAt index) _ refused
  exact ⟨_,asked⟩

theorem deleteLink_ok {s : Table} (served : t.check .deleteLink = .ok ()) (same : Same s t)
    (there : s.named? name = some link) : ∃ u, deleteLink link.index t = .ok () u ∧ Unplugged name s u := by
  have indexed : (t.indexed? link.index).isSome := by
    rw [indexed?,same.links,List.find?_isSome]
    exact ⟨link,List.mem_of_find?_eq_some there,by simp⟩
  -- The link of the index may be another one than that of the name; it is there, which is all that deletion asks.
  obtain ⟨other,found⟩ := Option.isSome_iff_exists.mp indexed
  simp only [deleteLink,change,Step.update,served,found,bind,Except.bind]
  refine ⟨_,rfl,?_,?_,same.refusals⟩
  · rw [there,← same.links]
    rfl
  · rw [there,← same.addresses]
    rfl

theorem deleteLink_denied (denied : t.check .deleteLink ≠ .ok ()) (index : Nat) :
    ∃ e, deleteLink index t = .error e t := change_denied denied _

-- What is deleted is told about as it was.
theorem deleteWithAddresses_ok (served : t.Serves [.linkByName,.addresses,.deleteLink])
    (there : t.named? name = some link) : ∃ u, driver.deleteWithAddresses name t =
      .ok ((t.addressesOf name).filter (·.address.isGlobalUnicast)) u ∧ Unplugged name t u := by
  obtain ⟨t₁,found,same₁⟩ := find_ok (served .linkByName (by simp)) there
  obtain ⟨t₂,listed,same₂⟩ := addressesOf_ok ((same₁.check _).trans (served .addresses (by simp))) link.index
  have same := same₁.trans same₂
  obtain ⟨t₃,deleted,unplugged⟩ := deleteLink_ok ((same.check _).trans (served .deleteLink (by simp))) same there
  refine ⟨t₃,?_,unplugged⟩
  refine (Step.bind_ok found).trans ?_
  refine (Step.bind_ok (Step.mapError_ok listed)).trans ?_
  refine (Step.bind_ok (Step.mapError_ok deleted)).trans ?_
  rw [addressesOf,there,same₁.addresses]
  rfl

theorem deleteWithAddresses_absent (served : t.check .linkByName = .ok ()) (absent : t.named? name = none) :
    ∃ u, driver.deleteWithAddresses name t = .error (.linkNotFound name) u ∧ Unplugged name t u := by
  obtain ⟨u,missing,same⟩ := find_absent served absent
  refine ⟨u,Step.bind_error missing,?_,?_,same.refusals⟩
  · rw [absent]
    exact same.links.trans (List.filter_eq_self.mpr fun _ _ => rfl).symm
  · rw [absent]
    exact same.addresses.trans (List.filter_eq_self.mpr fun _ _ => rfl).symm

end Table
end Kernel
end HostNet
