import HostNet.Proofs.EncodedText
import HostNet.Proofs.HexDigits
import HostNet.Proofs.InstanceComments

namespace HostNet.Text

theorem byteCount_append (s rest : List Char) : byteCount (s ++ rest) = byteCount s + byteCount rest := by
  induction s with
  | nil => simp [byteCount]
  | cons c s ih => rw [List.cons_append,byteCount,byteCount,ih,Nat.add_assoc]

theorem byteCount_prefix {front s : List Char} (begins : front <+: s) : byteCount front ≤ byteCount s := by
  obtain ⟨rest,rfl⟩ := begins
  rw [byteCount_append]
  exact Nat.le_add_right _ _

theorem ofList_size (s : List Char) : (String.ofList s).utf8ByteSize = byteCount s := by
  induction s with
  | nil => rfl
  | cons c rest ih =>
    rw [← List.singleton_append,String.ofList_append,String.utf8ByteSize_append,ih]
    simp [byteCount]

theorem size_byteCount (s : String) : s.utf8ByteSize = byteCount s.toList := by
  rw [← ofList_size,String.ofList_toList]

theorem utf8_length (s : List Char) : (s.flatMap String.utf8EncodeChar).length = byteCount s := by
  induction s with
  | nil => rfl
  | cons c rest ih => rw [List.flatMap_cons,List.length_append,String.length_utf8EncodeChar,ih,byteCount]

theorem takeBytes_begins (limit : Nat) (s : List Char) : takeBytes limit s <+: s := by
  induction s generalizing limit with
  | nil => exact List.nil_prefix
  | cons c rest ih =>
    rw [takeBytes]
    split
    · exact (List.prefix_cons_inj c).mpr (ih _)
    · exact List.nil_prefix

-- Whatever else begins the text and has room begins what was taken.
theorem takeBytes_longest {limit : Nat} {front s : List Char} (begins : front <+: s) (fits : byteCount front ≤ limit) :
    front <+: takeBytes limit s := by
  obtain ⟨rest,rfl⟩ := begins
  rw [takeBytes_append limit front rest fits]
  exact List.prefix_append _ _

theorem takeBytes_whole {limit : Nat} {s : List Char} (fits : byteCount s ≤ limit) : takeBytes limit s = s :=
  (takeBytes_begins limit s).eq_of_length_le (takeBytes_longest (List.prefix_refl s) fits).length_le

-- No character takes more than four bytes, so less than four are left over where one has no room.
theorem takeBytes_close {limit : Nat} {s : List Char} (large : limit < byteCount s) :
    limit < byteCount (takeBytes limit s) + 4 := by
  induction s generalizing limit with
  | nil => simp [byteCount] at large
  | cons c rest ih =>
    have wide := c.utf8Size_le_four
    rw [byteCount] at large
    rw [takeBytes]
    split
    · have more : limit - c.utf8Size < byteCount rest := by omega
      have tail := ih more
      rw [byteCount]
      omega
    · omega

-- The last boundary between characters, looked for from a byte on backwards; none if it is looked for before the first.
def boundaryBefore (s : String) : Nat → Option Nat
  | 0 => if String.Pos.Raw.isValid s ⟨0⟩ then some 0 else none
  | n + 1 => if String.Pos.Raw.isValid s ⟨n + 1⟩ then some (n + 1) else boundaryBefore s n

-- A text that has too many bytes is cut at the last boundary, and what is left of its bytes is read as text again.
def cutBack (limit : Nat) (s : String) : Option String :=
  if s.utf8ByteSize ≤ limit then some s
  else (boundaryBefore s limit).bind fun kept => ofUtf8? (s.toUTF8.toList.take kept)

theorem boundary_iff (s : String) (n : Nat) :
    String.Pos.Raw.isValid s ⟨n⟩ = true ↔ ∃ front, front <+: s.toList ∧ byteCount front = n := by
  rw [String.Pos.Raw.isValid_eq_true_iff,String.Pos.Raw.isValid_iff_exists_append]
  constructor
  · rintro ⟨front,rest,rfl,place⟩
    refine ⟨front.toList,?_,?_⟩
    · rw [String.toList_append]
      exact List.prefix_append _ _
    · rw [← size_byteCount]
      exact (congrArg String.Pos.Raw.byteIdx place).symm
  · rintro ⟨front,⟨rest,split⟩,rfl⟩
    refine ⟨.ofList front,.ofList rest,?_,?_⟩
    · rw [← String.ofList_append,split,String.ofList_toList]
    · rw [← ofList_size]
      rfl

-- The search passes what is no boundary and stops at the first that is one.
theorem boundary_found {s : String} {front : List Char} {n : Nat} (begins : front <+: s.toList)
    (fits : byteCount front ≤ n)
    (longest : ∀ other, other <+: s.toList → byteCount other ≤ n → byteCount other ≤ byteCount front) :
    boundaryBefore s n = some (byteCount front) := by
  induction n with
  | zero =>
    have none : byteCount front = 0 := Nat.le_zero.mp fits
    rw [boundaryBefore,if_pos ((boundary_iff s 0).mpr ⟨front,begins,none⟩),none]
  | succ n ih =>
    rw [boundaryBefore]
    by_cases here : byteCount front = n + 1
    · rw [if_pos ((boundary_iff s (n + 1)).mpr ⟨front,begins,here⟩),here]
    · rw [if_neg]
      · exact ih (by omega) fun other begins' fits' => longest other begins' (by omega)
      · intro boundary
        obtain ⟨other,begins',size⟩ := (boundary_iff s (n + 1)).mp boundary
        have within := longest other begins' (by omega)
        omega

theorem utf8_front {s : String} {front : List Char} (begins : front <+: s.toList) :
    s.toUTF8.toList.take (byteCount front) = (String.ofList front).toUTF8.toList := by
  obtain ⟨rest,split⟩ := begins
  rw [utf8_chars,utf8_chars,String.toList_ofList,← split,List.flatMap_append,← utf8_length,List.take_left]

-- Cutting backwards from the limit gives what is taken forwards up to the limit, and it always gives something.
theorem cutBack_takeBytes (limit : Nat) (s : String) : cutBack limit s = some (.ofList (takeBytes limit s.toList)) := by
  rw [cutBack,size_byteCount]
  by_cases fits : byteCount s.toList ≤ limit
  · rw [if_pos fits,takeBytes_whole fits,String.ofList_toList]
  · have begins := takeBytes_begins limit s.toList
    have found : boundaryBefore s limit = some (byteCount (takeBytes limit s.toList)) :=
      boundary_found begins (byteCount_takeBytes_le _ _) fun other begins' fits' =>
        byteCount_prefix (takeBytes_longest begins' fits')
    rw [if_neg fits,found,Option.bind_some,utf8_front begins,ofUtf8_utf8]

-- The longest of the texts that begin another and have no more bytes than a limit allows.
structure LongestWithin (limit : Nat) (s front : String) : Prop where
  begins : front.toList <+: s.toList
  fits : front.utf8ByteSize ≤ limit
  longest : ∀ other : String, other.toList <+: s.toList → other.utf8ByteSize ≤ limit → other.toList <+: front.toList

theorem takeBytes_within (limit : Nat) (s : String) : LongestWithin limit s (.ofList (takeBytes limit s.toList)) := by
  constructor
  · rw [String.toList_ofList]
    exact takeBytes_begins limit s.toList
  · rw [ofList_size]
    exact byteCount_takeBytes_le limit s.toList
  · intro other begins fits
    rw [size_byteCount] at fits
    rw [String.toList_ofList]
    exact takeBytes_longest begins fits

end HostNet.Text

namespace HostNet.Masquerade
open Firewall.Nft (Ops Listed checksChain)

-- Two runs of sixteen digits with a dash between them.
def HashShaped (hash : String) : Prop :=
  ∃ first second : List Char, hash.toList = first ++ '-' :: second ∧ first.length = 16 ∧ second.length = 16 ∧
    ∀ c ∈ first ++ second, c ∈ Text.Hex.lowerDigits

theorem shortHash_lower (text : String) : ∀ c ∈ (shortHash text).toList, c ∈ Text.Hex.lowerDigits := by
  intro c member
  rw [shortHash_chars] at member
  exact Text.Hex.ofBytes_lower _ c (List.mem_of_mem_take member)

theorem instanceHash_shaped (identity : Identity) : HashShaped (instanceHash identity) := by
  refine ⟨_,_,instanceHash_chars identity,shortHash_length _,shortHash_length _,?_⟩
  exact List.forall_mem_append.mpr ⟨shortHash_lower _,shortHash_lower _⟩

theorem instanceHash_size (identity : Identity) : (instanceHash identity).utf8ByteSize = 33 := by
  rw [Text.size_byteCount,Text.byteCount_single _ (instanceHash_single identity),instanceHash_length]

theorem HashShaped.unquoted {hash : String} (shaped : HashShaped hash) : '"' ∉ hash.toList := by
  obtain ⟨first,second,chars,-,-,lower⟩ := shaped
  intro quote
  have digit : '"' ∈ first ++ second := by
    rw [chars,List.mem_append,List.mem_cons] at quote
    rcases quote with inside | dash | inside
    · exact List.mem_append_left _ inside
    · cases dash
    · exact List.mem_append_right _ inside
  exact absurd (lower _ digit) (by decide)

theorem unquoted_quote (s : String) : '"' ∉ (unquoted s).toList := by
  simp [unquoted]

-- The quotes of the fields are dropped, and nothing else in a comment has one.
theorem comment_unquoted (identity : Identity) : '"' ∉ (instanceComment identity).toList := by
  intro quote
  rw [instanceComment,String.toList_ofList] at quote
  have inside := (Text.takeBytes_begins _ _).subset quote
  simp only [fullComment,String.toList_append,List.mem_append] at inside
  rcases inside with (((((hash | sign) | network) | sign) | interface) | sign) | id
  · exact (instanceHash_shaped identity).unquoted hash
  · exact absurd sign (by decide)
  · exact unquoted_quote _ network
  · exact absurd sign (by decide)
  · exact unquoted_quote _ interface
  · exact absurd sign (by decide)
  · exact unquoted_quote _ id

-- A comment is the longest beginning of its full text that has at most 128 bytes, also when it is looked for backwards
-- from there. It keeps the whole hash, by which its rules and those of no other hash are found.
theorem comment_cut_exactly (identity : Identity) :
    Text.cutBack 128 (fullComment identity) = some (instanceComment identity) ∧
    Text.LongestWithin 128 (fullComment identity) (instanceComment identity) ∧
    (128 < (fullComment identity).utf8ByteSize → 125 ≤ (instanceComment identity).utf8ByteSize) ∧
    '"' ∉ (instanceComment identity).toList ∧
    (HashShaped (instanceHash identity) ∧ (instanceHash identity).utf8ByteSize = 33 ∧
      (instanceHash identity).toList <+: (instanceComment identity).toList) ∧
    ∀ {σ : Type} (ops : Ops σ) (s t : σ) (rules : List Listed), ops.listRules checksChain s = .ok rules t →
      ∃ found, Nft.ownRules ops (instanceHash identity) s = .ok found t ∧
        ∀ rule ∈ rules, ∀ other, rule.comment = some (instanceComment other) →
          (rule ∈ found ↔ instanceHash other = instanceHash identity) := by
  refine ⟨Text.cutBack_takeBytes _ _,Text.takeBytes_within _ _,?_,comment_unquoted identity,?_,?_⟩
  · intro large
    rw [Text.size_byteCount] at large
    have close := Text.takeBytes_close large
    rw [instanceComment,Text.ofList_size,commentLimit]
    omega
  · exact ⟨instanceHash_shaped identity,instanceHash_size identity,comment_begins identity⟩
  · intro σ ops s t rules listed
    refine ⟨_,Nft.ownRules_listed listed _,fun rule among other commented => ?_⟩
    rw [List.mem_filter,Nft.owned_comment commented]
    exact and_iff_right among

end HostNet.Masquerade
