import HostNet.Kernel.Socket
import Mathlib.Data.List.Forall2

namespace HostNet.Kernel

namespace Reply

-- The number with which a reply refuses its request, as it is sent. Acknowledgements and other messages have none.
def code? (r : Reply) : Option Int :=
  match r.content with
  | .error reason => if reason.code = 0 then none else some (-reason.code)
  | _ => none

-- The number of the one refusal that does not end a listing.
def interruption : Int := -4

def Fatal (r : Reply) : Prop := ∃ code, r.code? = some code ∧ code ≠ interruption

def Interrupts (r : Reply) : Prop := r.interrupted = true ∨ r.code? = some interruption

instance : DecidablePred Fatal := fun r => decidable_of_iff (r.code?.any (· != interruption)) (by
  simp only [Fatal,Option.any_eq_true,bne_iff_ne])

instance : DecidablePred Interrupts := fun r =>
  inferInstanceAs (Decidable (r.interrupted = true ∨ r.code? = some interruption))

theorem failure_code (r : Reply) : r.content.failure? =
    r.code?.map fun code => if code = interruption then .interrupted else .refused ⟨-code⟩ := by
  obtain ⟨content,interrupted⟩ := r
  cases content with
  | error reason =>
    by_cases acknowledged : reason.code = 0
    · simp [code?,Content.failure?,acknowledged]
    · have same : reason = .interrupted ↔ -reason.code = interruption := by
        obtain ⟨code⟩ := reason
        simp only [OsError.interrupted,interruption,OsError.mk.injEq]
        omega
      simp [code?,Content.failure?,acknowledged,Error.ofReason,same]
  | _ => rfl

end Reply

-- What a listing that is drained from a stream of replies has to come to: it fails with the first refusal that is no
-- interruption, and with nothing else; otherwise it has all the items, and is marked if anything in the stream marks it.
structure Reflects (replies : List Reply) (items : List α) (result : Except Error (Listing (List α))) : Prop where
  fails_iff : (∃ e, result = .error e) ↔ ∃ r ∈ replies, r.Fatal
  first : ∀ before r after code, replies = before ++ r :: after → (∀ earlier ∈ before, ¬earlier.Fatal) →
    r.code? = some code → code ≠ Reply.interruption → result = .error (.refused ⟨-code⟩)
  answers : (∀ r ∈ replies, ¬r.Fatal) → ∃ listing, result = .ok listing ∧ listing.value = items ∧
    (listing.interrupted = true ↔ ∃ r ∈ replies, r.Interrupts)

-- What the replies of a stream tell, in the order in which they came.
def messages (read : Content → Option α) (replies : List Reply) : List α := replies.filterMap fun r => read r.content

section Collecting
variable {read : Content → Option α} {r : Reply} {replies before after : List Reply} {code : Int}

theorem collect_fatal (coded : r.code? = some code) (final : code ≠ Reply.interruption) :
    collect read (r :: after) = .error (.refused ⟨-code⟩) := by
  have failed := r.failure_code
  rw [coded,Option.map_some,if_neg final] at failed
  simp only [collect,failed]

-- A reply that is not fatal adds what it tells, and its mark, to what the later ones come to.
theorem collect_harmless (blind : ∀ reason, read (.error reason) = none) (harmless : ¬r.Fatal)
    (rest : List Reply) : collect read (r :: rest) = (collect read rest).map fun later =>
      ⟨(read r.content).toList ++ later.value,decide r.Interrupts || later.interrupted⟩ := by
  have failed := r.failure_code
  cases coded : r.code? with
  | none =>
    have marked : decide r.Interrupts = r.interrupted := by simp [Reply.Interrupts,coded]
    rw [coded,Option.map_none] at failed
    simp only [collect,failed,marked]
    rfl
  | some code =>
    have interrupting : code = Reply.interruption := by
      by_contra final
      exact harmless ⟨code,coded,final⟩
    subst interrupting
    have marked : decide r.Interrupts = true := decide_eq_true (.inr coded)
    have untold : read r.content = none := by
      unfold Reply.code? at coded
      split at coded
      · rename_i reason content
        rw [content]
        exact blind reason
      · cases coded
    rw [coded,Option.map_some,if_pos rfl] at failed
    simp only [collect,failed,marked,untold,Option.toList_none,List.nil_append,Bool.true_or]
    rfl

theorem collect_refused (blind : ∀ reason, read (.error reason) = none) (passed : ∀ earlier ∈ before, ¬earlier.Fatal)
    (coded : r.code? = some code) (final : code ≠ Reply.interruption) :
    collect read (before ++ r :: after) = .error (.refused ⟨-code⟩) := by
  induction before with
  | nil => exact collect_fatal coded final
  | cons earlier rest ih =>
    obtain ⟨harmless,others⟩ := List.forall_mem_cons.mp passed
    rw [List.cons_append,collect_harmless blind harmless,ih others]
    rfl

theorem messages_cons (read : Content → Option α) (r : Reply) (rest : List Reply) :
    messages read (r :: rest) = (read r.content).toList ++ messages read rest := by
  cases told : read r.content with
  | none => exact List.filterMap_cons_none told
  | some item => exact List.filterMap_cons_some told

theorem collect_answered (blind : ∀ reason, read (.error reason) = none) (harmless : ∀ r ∈ replies, ¬r.Fatal) :
    collect read replies = .ok ⟨messages read replies,replies.any fun r => decide r.Interrupts⟩ := by
  induction replies with
  | nil => rfl
  | cons r rest ih =>
    obtain ⟨here,others⟩ := List.forall_mem_cons.mp harmless
    rw [collect_harmless blind here,ih others,messages_cons,List.any_cons]
    rfl

theorem first_fatal (fatal : ∃ r ∈ replies, r.Fatal) :
    ∃ before r after, replies = before ++ r :: after ∧ r.Fatal ∧ ∀ earlier ∈ before, ¬earlier.Fatal := by
  cases found : replies.find? fun r => decide r.Fatal with
  | none =>
    obtain ⟨r,among,ends⟩ := fatal
    exact absurd (decide_eq_true ends) (List.find?_eq_none.mp found r among)
  | some r =>
    obtain ⟨ends,before,after,split,passed⟩ := List.find?_eq_some_iff_append.mp found
    exact ⟨before,r,after,split,of_decide_eq_true ends,fun earlier among => by simpa using passed earlier among⟩

theorem collect_reflects (blind : ∀ reason, read (.error reason) = none) (replies : List Reply) :
    Reflects replies (messages read replies) (collect read replies) := by
  refine ⟨⟨?_,?_⟩,?_,?_⟩
  · rintro ⟨e,failed⟩
    by_contra harmless
    have answered := collect_answered blind fun r among fatal => harmless ⟨r,among,fatal⟩
    cases answered.symm.trans failed
  · intro fatal
    obtain ⟨before,r,after,rfl,⟨code,coded,final⟩,passed⟩ := first_fatal fatal
    exact ⟨_,collect_refused blind passed coded final⟩
  · rintro before r after code rfl passed coded final
    exact collect_refused blind passed coded final
  · intro harmless
    refine ⟨_,collect_answered blind harmless,rfl,?_⟩
    simp only [List.any_eq_true,decide_eq_true_eq]

end Collecting

def Content.linkMessage? : Content → Option LinkMessage
  | .link m => some m
  | _ => none

def Content.addressMessage? : Content → Option AddressMessage
  | .address m => some m
  | _ => none

def Content.routeMessage? : Content → Option RouteMessage
  | .route m => some m
  | _ => none

namespace AddressMessage

-- The address of a message, where its mark tells whose it is: that of the link itself goes before the other end's.
def address? (m : AddressMessage) : Option Address := m.own?.or m.given?

def concerns (index : Option Nat) (m : AddressMessage) : Bool := index.all (· == m.index)

def isValid (m : AddressMessage) : Bool := m.address?.any fun a => m.length ≤ a.family.width

structure Tells (m : AddressMessage) (a : LinkAddress) : Prop where
  index : a.index = m.index
  address : m.address? = some a.net.address
  length : a.net.length = m.length

theorem linkAddress_tells {m : AddressMessage} {a : LinkAddress} (told : m.linkAddress? = some a) : m.Tells a := by
  obtain ⟨ip,given,fits⟩ := Option.bind_eq_some_iff.mp told
  obtain ⟨net,made,same⟩ := Option.bind_eq_some_iff.mp fits
  unfold subnet? at made
  split at made
  · cases made
    cases same
    exact ⟨rfl,given,rfl⟩
  · cases made

theorem linkAddress_valid (m : AddressMessage) : m.linkAddress?.isSome = m.isValid := by
  cases given : m.own?.or m.given? with
  | none => simp [linkAddress?,isValid,address?,given]
  | some ip => by_cases fits : m.length ≤ ip.family.width <;> simp [linkAddress?,isValid,address?,given,subnet?,fits]

theorem linkAddress_concerns (index : Option Nat) (m : AddressMessage) :
    (m.linkAddress?.filter fun a => index.all (· == a.index)).isSome = (m.concerns index && m.isValid) := by
  rw [← linkAddress_valid]
  cases told : m.linkAddress? with
  | none => simp
  | some a =>
    simp only [Option.filter,concerns,(linkAddress_tells told).index,Option.isSome_some,Bool.and_true]
    cases index.all (· == m.index) <;> rfl

end AddressMessage

theorem filterMap_picked {f : μ → Option α} {picked : μ → Bool} {R : μ → α → Prop}
    (some_iff : ∀ m, (f m).isSome = picked m) (related : ∀ m a, f m = some a → R m a) (ms : List μ) :
    List.Forall₂ R (ms.filter picked) (ms.filterMap f) := by
  induction ms with
  | nil => exact .nil
  | cons m rest ih =>
    cases found : f m with
    | none =>
      have left : picked m = false := by rw [← some_iff,found]; rfl
      rw [List.filter_cons_of_neg (by simp [left]),List.filterMap_cons_none found]
      exact ih
    | some a =>
      have here : picked m = true := by rw [← some_iff,found]; rfl
      rw [List.filter_cons_of_pos here,List.filterMap_cons_some found]
      exact .cons (related m a found) ih

theorem messages_bind {kind : Content → Option μ} {read : Content → Option α} {f : μ → Option α}
    (reads : ∀ c, read c = (kind c).bind f) (replies : List Reply) :
    messages read replies = (messages kind replies).filterMap f := by
  rw [messages,messages,List.filterMap_filterMap]
  exact congrArg (List.filterMap · replies) (funext fun r => reads r.content)

theorem link_message (c : Content) : c.link? = c.linkMessage?.bind fun m => some m.link := by
  cases c <;> rfl

theorem route_message (c : Content) : c.route? = c.routeMessage?.bind fun m => some m.route := by
  cases c <;> rfl

theorem linkAddress_message (index : Option Nat) (c : Content) : c.linkAddress? index =
    c.addressMessage?.bind fun m => m.linkAddress?.filter fun a => index.all (· == a.index) := by
  cases c <;> rfl

-- Whatever is replied to a request for all links, addresses or routes, the listing reflects the whole stream: each
-- message of the kind asked for is listed once and in its place, an interruption shows wherever it occurs, and of other
-- refusals the first one is the failure.
theorem listings_reflect_replies :
    (∀ replies, Reflects replies ((messages Content.linkMessage? replies).map LinkMessage.link)
      (collect Content.link? replies)) ∧
    (∀ index replies, ∃ items, List.Forall₂ AddressMessage.Tells
        ((messages Content.addressMessage? replies).filter fun m => m.concerns index && m.isValid) items ∧
      Reflects replies items (collect (Content.linkAddress? index) replies)) ∧
    (∀ replies, Reflects replies ((messages Content.routeMessage? replies).map RouteMessage.route)
      (collect Content.route? replies)) ∧
    Socket.driver.links = (Socket.exchange (.listLinks (.ofAttributes [])) >>= fun replies =>
      Step.ofExcept (collect Content.link? replies)) ∧
    (∀ index, Socket.driver.addresses index = Socket.exchange .listAddresses >>= fun replies =>
      Step.ofExcept (collect (Content.linkAddress? index) replies)) ∧
    ∀ family, Socket.driver.routes family = Socket.exchange (.listRoutes family) >>= fun replies =>
      Step.ofExcept (collect Content.route? replies) := by
  refine ⟨fun replies => ?_,fun index replies => ?_,fun replies => ?_,rfl,fun _ => rfl,fun _ => rfl⟩
  · have told : Reflects replies (messages Content.link? replies) (collect Content.link? replies) :=
      collect_reflects (fun _ => rfl) replies
    rwa [messages_bind link_message,List.filterMap_eq_map'] at told
  · have told : Reflects replies (messages (Content.linkAddress? index) replies) (collect (Content.linkAddress? index) replies) :=
      collect_reflects (fun _ => rfl) replies
    rw [messages_bind (linkAddress_message index)] at told
    refine ⟨_,?_,told⟩
    refine filterMap_picked (AddressMessage.linkAddress_concerns index) (fun m a found => ?_) _
    exact AddressMessage.linkAddress_tells (Option.filter_eq_some_iff.mp found).1
  · have told : Reflects replies (messages Content.route? replies) (collect Content.route? replies) :=
      collect_reflects (fun _ => rfl) replies
    rwa [messages_bind route_message,List.filterMap_eq_map'] at told

end HostNet.Kernel
