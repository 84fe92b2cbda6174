import HostNet.Config.Mac
import HostNet.Proofs.HexDigits
import HostNet.Proofs.Pieces
import Mathlib.Data.List.Forall2

namespace HostNet.Config
open Text.Hex (Denotes)

-- Two digits, and the byte that they denote together.
def Octet (group : List Char) (b : UInt8) : Prop :=
  ∃ high low m n, group = [high,low] ∧ Denotes high m ∧ Denotes low n ∧ b.toNat = 16 * m + n

inductive Separator where
  | colon
  | dash
deriving DecidableEq, Repr

def Separator.sign : Separator → Char
  | .colon => ':'
  | .dash => '-'

-- Six groups with one and the same separator between them, each of which is an octet.
def Spells (s : String) (bytes : List UInt8) : Prop :=
  ∃ (separator : Separator) (groups : List (List Char)), s.toList = [separator.sign].intercalate groups ∧
    groups.length = 6 ∧ groups.Forall₂ Octet bytes

-- Bytes with two digits each, in either case, and a separator between them.
def macText (upper : Bool) (separator : Separator) (bytes : List UInt8) : String :=
  .ofList ([separator.sign].intercalate (bytes.map fun b =>
    if upper then (Text.Hex.ofBytes [b]).map Char.toUpper else Text.Hex.ofBytes [b]))

theorem macByte_octet {group : List Char} {b : UInt8} : macByte? group = some b ↔ Octet group b := by
  constructor
  · intro read
    match group with
    | [] | [_] | _ :: _ :: _ :: _ => cases read
    | [high,low] =>
      simp only [macByte?,Option.bind_eq_bind,Option.bind_eq_some_iff,Option.pure_def,Option.some.injEq] at read
      obtain ⟨m,first,n,second,rfl⟩ := read
      have first := Text.Hex.digit_iff.mp first
      have second := Text.Hex.digit_iff.mp second
      have large := first.small
      have small := second.small
      exact ⟨high,low,m,n,rfl,first,second,UInt8.toNat_ofNat_of_lt' (by change 16 * m + n < 256; omega)⟩
  · rintro ⟨high,low,m,n,rfl,first,second,value⟩
    rw [macByte?,Text.Hex.digit_iff.mpr first,Text.Hex.digit_iff.mpr second]
    change some (UInt8.ofNat (16 * m + n)) = some b
    rw [← value,UInt8.ofNat_toNat]

theorem mapM_each {α β : Type} (read : α → Option β) (items : List α) (results : List β) :
    items.mapM read = some results ↔ items.Forall₂ (fun item result => read item = some result) results := by
  induction items generalizing results with
  | nil => cases results <;> simp
  | cons item rest ih =>
    rw [List.mapM_cons]
    simp only [Option.bind_eq_bind,Option.bind_eq_some_iff,Option.pure_def,Option.some.injEq]
    constructor
    · rintro ⟨result,here,others,later,rfl⟩
      exact .cons here ((ih others).mp later)
    · intro each
      cases each with
      | cons here later => exact ⟨_,here,_,(ih _).mpr later,rfl⟩

theorem octets_read {groups : List (List Char)} {bytes : List UInt8} :
    groups.mapM macByte? = some bytes ↔ groups.Forall₂ Octet bytes := by
  rw [mapM_each]
  exact ⟨.imp fun _ _ => macByte_octet.mp,.imp fun _ _ => macByte_octet.mpr⟩

theorem macBytes_pieces (s : String) (bytes : List UInt8) : macBytes? s = some bytes ↔
    (Path.pieces (if s.toList.contains '-' then '-' else ':') s.toList).Forall₂ Octet bytes ∧ bytes.length = 6 := by
  rw [← octets_read,macBytes?,Option.bind_eq_bind,Option.bind_eq_some_iff]
  constructor
  · rintro ⟨found,read,counted⟩
    split at counted
    · cases counted
      exact ⟨read,‹_›⟩
    · cases counted
  · rintro ⟨read,counted⟩
    exact ⟨bytes,read,if_pos counted⟩

-- No separator is a digit.
theorem octet_unseparated {group : List Char} {b : UInt8} (octet : Octet group b) (separator : Separator) :
    separator.sign ∉ group := by
  obtain ⟨high,low,m,n,rfl,first,second,-⟩ := octet
  have undigited : Text.Hex.digit? separator.sign = none := by cases separator <;> decide
  have other {c : Char} {k : Nat} (denotes : Denotes c k) : separator.sign ≠ c := by
    rintro rfl
    cases undigited.symm.trans (Text.Hex.digit_iff.mpr denotes)
  simp [other first,other second]

theorem groups_unseparated {groups : List (List Char)} {bytes : List UInt8} (octets : groups.Forall₂ Octet bytes)
    (separator : Separator) : ∀ group ∈ groups, separator.sign ∉ group := by
  induction octets with
  | nil => exact fun _ none => nomatch none
  | cons here _ ih => exact List.forall_mem_cons.mpr ⟨octet_unseparated here separator,ih⟩

-- The separator that divides the text is the one that joined the groups: a dash is there only if dashes joined them.
theorem separator_found {groups : List (List Char)} {bytes : List UInt8} (octets : groups.Forall₂ Octet bytes)
    (several : 1 < groups.length) (separator : Separator) :
    (if ([separator.sign].intercalate groups).contains '-' then '-' else ':') = separator.sign := by
  cases separator with
  | dash => exact if_pos (List.contains_iff_mem.mpr (Path.separator_joined '-' groups several))
  | colon =>
    apply if_neg
    intro dashed
    rcases Path.mem_joined (List.contains_iff_mem.mp dashed) with same | ⟨group,among,inside⟩
    · cases same
    · exact groups_unseparated octets .dash group among inside

theorem read_spells {s : String} {bytes : List UInt8} (read : macBytes? s = some bytes) : Spells s bytes := by
  obtain ⟨octets,six⟩ := (macBytes_pieces s bytes).mp read
  have counted := octets.length_eq.trans six
  by_cases dashed : s.toList.contains '-' = true
  · rw [if_pos dashed] at octets counted
    exact ⟨.dash,_,(Path.pieces_joined '-' s.toList).symm,counted,octets⟩
  · rw [if_neg dashed] at octets counted
    exact ⟨.colon,_,(Path.pieces_joined ':' s.toList).symm,counted,octets⟩

theorem spelled_reads {s : String} {bytes : List UInt8} (spells : Spells s bytes) : macBytes? s = some bytes := by
  obtain ⟨separator,groups,joined,six,octets⟩ := spells
  apply (macBytes_pieces s bytes).mpr
  rw [joined,separator_found octets (by omega),
    Path.joined_pieces _ groups (groups_unseparated octets separator) (List.ne_nil_of_length_pos (by omega))]
  exact ⟨octets,octets.length_eq.symm.trans six⟩

theorem pair_octet (upper : Bool) (b : UInt8) :
    Octet (if upper then (Text.Hex.ofBytes [b]).map Char.toUpper else Text.Hex.ofBytes [b]) b := by
  have byte := b.toNat_lt
  have halves : b.toNat = 16 * (b.toNat / 16) + b.toNat % 16 := by omega
  have lower : ∀ n < 16, Denotes (Text.Hex.digit n) n := by decide
  have raised : ∀ n < 16, Denotes (Text.Hex.digit n).toUpper n := by decide
  cases upper with
  | false => exact ⟨_,_,_,_,rfl,lower (b.toNat / 16) (by omega),lower (b.toNat % 16) (by omega),halves⟩
  | true => exact ⟨_,_,_,_,rfl,raised (b.toNat / 16) (by omega),raised (b.toNat % 16) (by omega),halves⟩

theorem macText_spells (upper : Bool) (separator : Separator) {bytes : List UInt8} (six : bytes.length = 6) :
    Spells (macText upper separator bytes) bytes := by
  refine ⟨separator,_,String.toList_ofList,by rw [List.length_map,six],?_⟩
  rw [List.forall₂_map_left_iff,List.forall₂_same]
  exact fun b _ => pair_octet upper b

-- A hardware address is read if and only if it is six octets with one separator between them, and what is read are
-- their bytes. Six bytes in either case with either separator are therefore read back.
theorem mac_read_exactly (s : String) :
    (∀ bytes, macBytes? s = some bytes ↔ Spells s bytes) ∧
    (macBytes? s = none ↔ ¬∃ bytes, Spells s bytes) ∧
    ∀ (upper : Bool) (separator : Separator) (b₀ b₁ b₂ b₃ b₄ b₅ : UInt8),
      macBytes? (macText upper separator [b₀,b₁,b₂,b₃,b₄,b₅]) = some [b₀,b₁,b₂,b₃,b₄,b₅] := by
  have exactly (bytes : List UInt8) : macBytes? s = some bytes ↔ Spells s bytes := ⟨read_spells,spelled_reads⟩
  refine ⟨exactly,?_,fun upper separator _ _ _ _ _ _ => spelled_reads (macText_spells upper separator rfl)⟩
  rw [Option.eq_none_iff_forall_ne_some,not_exists]
  exact forall_congr' fun bytes => not_congr (exactly bytes)

end HostNet.Config
