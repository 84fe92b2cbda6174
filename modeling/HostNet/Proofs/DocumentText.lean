import HostNet.Document.Json.Reader
import HostNet.Document.Json.Writer
import HostNet.Proofs.AddressText
import Mathlib.Data.List.TakeWhile

namespace HostNet.Document.Json

theorem not_surrogate (c : Char) : ¬(0xd800 ≤ c.toNat ∧ c.toNat < 0xe000) := by
  rintro ⟨low,high⟩
  rcases c.valid with before | ⟨after,_⟩
  · exact absurd (Nat.lt_of_le_of_lt low before) (by decide)
  · exact absurd (Nat.lt_of_lt_of_le after (Nat.le_of_lt_succ high)) (by decide)

-- Characters are their own code units here, so none of them are put together.
theorem assemble_chars (cs : List Char) : assemble (cs.map Char.toNat) = some cs := by
  induction cs with
  | nil => rfl
  | cons c rest ih =>
    cases rest with
    | nil => simp [assemble,not_surrogate]
    | cons d rest =>
      have alone := not_surrogate c
      have first : ¬(0xd800 ≤ c.toNat ∧ c.toNat < 0xdc00 ∧ 0xdc00 ≤ d.toNat ∧ d.toNat < 0xe000) := by omega
      simp only [List.map_cons] at ih ⊢
      rw [assemble,if_neg first,if_neg alone,ih]
      simp

theorem hexDigit_digit : ∀ d < 16, hexDigit? (Text.Hex.digit d) = some d := by decide

-- A written character is read as its own code unit, escaped or not.
theorem escape_read (c : Char) (units : List Nat) (seen : List Token) (rest : List Char) :
    tokensFrom (.text units) seen (escape c ++ rest) = tokensFrom (.text (c.toNat :: units)) seen rest := by
  unfold escape
  split <;> try rfl
  · rename_i quote backslash _ _ _ _ _
    split
    · rename_i low
      have high_ := hexDigit_digit (c.toNat / 16) (by omega)
      have low_ := hexDigit_digit (c.toNat % 16) (by omega)
      have zero : hexDigit? '0' = some 0 := by decide
      have whole : c.toNat / 16 * 16 + c.toNat % 16 = c.toNat := by omega
      simp [tokensFrom,Mode.step?,high_,low_,zero,whole]
    · rename_i high
      have quote : c ≠ '"' := quote
      have backslash : c ≠ '\\' := backslash
      simp [tokensFrom,Mode.step?,quote,backslash,high]

theorem text_read (cs : List Char) (units : List Nat) (seen : List Token) (rest : List Char) :
    tokensFrom (.text units) seen (cs.flatMap escape ++ '"' :: rest) =
      tokensFrom .between (.text ((assemble (units.reverse ++ cs.map Char.toNat)).map String.ofList) :: seen) rest := by
  induction cs generalizing units with
  | nil => simp [tokensFrom,Mode.step?]
  | cons c cs ih => rw [List.flatMap_cons,List.append_assoc,escape_read,ih,List.reverse_cons,List.map_cons,
      List.append_assoc,List.singleton_append]

-- What may follow a value: the end, or a sign that no value goes on with.
def EndsValue (rest : List Char) : Prop := ∀ c, rest.head? = some c → c ∈ [',',']','\x7d','\n']

-- Text that is read as some tokens wherever it stands, if the text after it ends a value.
def Reads (text : List Char) (tokens : List Token) : Prop := ∀ seen rest, EndsValue rest →
  tokensFrom .between seen (text ++ rest) = tokensFrom .between (tokens.reverse ++ seen) rest

theorem EndsValue.cons (sign : c ∈ [',',']','\x7d','\n']) : EndsValue (c :: rest) := by
  intro d head
  cases head
  exact sign

theorem writeText_reads (s : String) (seen : List Token) (rest : List Char) :
    tokensFrom .between seen (writeText (some s) ++ rest) = tokensFrom .between (.text (some s) :: seen) rest := by
  have began : tokensFrom .between seen (writeText (some s) ++ rest) =
      tokensFrom (.text []) seen (s.toList.flatMap escape ++ '"' :: rest) := by
    simp [writeText,tokensFrom,Mode.step?,begin?]
  rw [began,text_read]
  simp [assemble_chars]

-- A numeral or a word is complete at the sign after it.
theorem finished {mode : Mode} {done : List Token} (complete : mode.finish? = some done)
    (open_ : (∃ chars, mode = .numeral chars) ∨ ∃ chars, mode = .word chars)
    (ends : EndsValue rest) (seen : List Token) :
    tokensFrom mode seen rest = tokensFrom .between (done.reverse ++ seen) rest := by
  cases rest with
  | nil =>
    have nothing : Mode.between.finish? = some [] := rfl
    simp [tokensFrom,complete,nothing]
  | cons c rest =>
    have sign := ends c rfl
    have fresh : mode.step? c = (begin? c).map fun p => (done ++ p.1,p.2) := by
      rcases open_ with ⟨chars,rfl⟩ | ⟨chars,rfl⟩
      all_goals
        simp only [List.mem_cons,List.not_mem_nil,or_false] at sign
        rcases sign with rfl | rfl | rfl | rfl <;> simp [Mode.step?,complete,begin?]
    rw [tokensFrom,fresh,tokensFrom,Mode.step?]
    cases begin? c with
    | none => rfl
    | some p => simp

theorem begin_digit {c : Char} (digit : c.isDigit = true) : begin? c = some ([],.numeral [c]) := by
  unfold begin?
  split <;> simp_all

-- What goes on with what is being read is added to it.
theorem run_read {mode : List Char → Mode} {run : List Char}
    (goes : ∀ c ∈ run, ∀ chars, (mode chars).step? c = some ([],mode (c :: chars))) (chars : List Char)
    (seen : List Token) (rest : List Char) :
    tokensFrom (mode chars) seen (run ++ rest) = tokensFrom (mode (run.reverse ++ chars)) seen rest := by
  induction run generalizing chars with
  | nil => rfl
  | cons c run ih =>
    obtain ⟨here,others⟩ := List.forall_mem_cons.mp goes
    rw [List.cons_append,tokensFrom,here]
    simp [ih others]

theorem digits_read (digits : List Char) (all : ∀ c ∈ digits, c.isDigit = true) (chars : List Char)
    (seen : List Token) (rest : List Char) : tokensFrom (.numeral chars) seen (digits ++ rest) =
      tokensFrom (.numeral (digits.reverse ++ chars)) seen rest :=
  run_read (fun c among chars => by simp [Mode.step?,all c among]) chars seen rest

theorem numeral_reads {digits : List Char} {d : Document} (start : c = '-' ∨ c.isDigit = true)
    (all : ∀ c ∈ digits, c.isDigit = true) (value : numeral? (c :: digits) = some d) :
    Reads (c :: digits) [.scalar d] := by
  intro seen rest ends
  have begun : begin? c = some ([],.numeral [c]) := by
    rcases start with rfl | digit
    · rfl
    · exact begin_digit digit
  have complete : (Mode.numeral (digits.reverse ++ [c])).finish? = some [.scalar d] := by
    simp [Mode.finish?,value]
  rw [List.cons_append,tokensFrom,Mode.step?,begun]
  simp only [List.reverse_nil,List.nil_append]
  rw [digits_read digits all,finished complete (.inl ⟨_,rfl⟩) ends]

theorem letters_read (letters : List Char) (all : ∀ c ∈ letters, c.isLower = true) (chars : List Char)
    (seen : List Token) (rest : List Char) : tokensFrom (.word chars) seen (letters ++ rest) =
      tokensFrom (.word (letters.reverse ++ chars)) seen rest :=
  run_read (fun c among chars => by simp [Mode.step?,all c among]) chars seen rest

theorem word_reads {letters : List Char} {d : Document} (begun : begin? c = some ([],.word [c]))
    (all : letters.all Char.isLower = true) (value : word? (c :: letters) = some d) :
    Reads (c :: letters) [.scalar d] := by
  intro seen rest ends
  have complete : (Mode.word (letters.reverse ++ [c])).finish? = some [.scalar d] := by
    simp [Mode.finish?,value]
  rw [List.cons_append,tokensFrom,Mode.step?,begun]
  simp only [List.reverse_nil,List.nil_append]
  rw [letters_read letters (List.all_eq_true.mp all),finished complete (.inr ⟨_,rfl⟩) ends]

theorem decimal_digits (n : Nat) : ∀ c ∈ Nat.toDigits 10 n, c.isDigit = true := by
  intro c member
  exact Nat.isDigit_of_mem_toDigits (by decide) (by decide) member

theorem decimal_value (n : Nat) : ofDigits (Nat.toDigits 10 n) = n := by
  have folded := @Nat.ofDigitChars_ten_toDigits n
  rw [Nat.ofDigitChars_eq_foldl] at folded
  simp only [Nat.mul_comm 10] at folded
  exact folded

theorem span_digits {digits : List Char} (all : ∀ c ∈ digits, c.isDigit = true) :
    digits.span Char.isDigit = (digits,[]) := by
  rw [List.span_eq_takeWhile_dropWhile,List.takeWhile_eq_self_iff.mpr all,List.dropWhile_eq_nil_iff.mpr all]

theorem decimal_canonical (n : Nat) :
    ((Nat.toDigits 10 n).isEmpty || ((Nat.toDigits 10 n).head? == some '0' && (Nat.toDigits 10 n).length != 1)) =
      false := by
  have filled : (Nat.toDigits 10 n).isEmpty = false := by simp [Nat.toDigits_ne_nil]
  rw [filled,Bool.false_or]
  cases zero : (Nat.toDigits 10 n).head? == some '0' with
  | false => rfl
  | true =>
    rw [Address.leading_zero (by decide) n (eq_of_beq zero),Nat.toDigits_zero]
    rfl

theorem decimal_numeral (n : Nat) (small : exceedsDouble n 0 = false) :
    numeral? (Nat.toDigits 10 n) = some (.integer n) := by
  have unsigned : ∀ rest, Nat.toDigits 10 n ≠ '-' :: rest := by
    intro rest signed
    exact absurd (decimal_digits n '-' (by rw [signed]; exact List.mem_cons_self)) (by decide)
  unfold numeral?
  split
  rename_i negative digits signs
  split at signs
  · rename_i rest signed
    exact absurd signed (unsigned rest)
  · cases signs
    rw [span_digits (decimal_digits n)]
    simp [decimal_canonical n,decimal_value,small]

theorem signed_numeral (n : Nat) (positive : 0 < n) (small : exceedsDouble n 0 = false) :
    numeral? ('-' :: Nat.toDigits 10 n) = some (.integer (-n)) := by
  have nonzero : n ≠ 0 := Nat.ne_of_gt positive
  unfold numeral?
  simp only [span_digits (decimal_digits n)]
  simp [decimal_canonical n,decimal_value,small,nonzero]

theorem integer_reads (n : Int) (small : exceedsDouble n.natAbs 0 = false) :
    Reads (toString n).toList [.scalar (.integer n)] := by
  cases n with
  | ofNat n =>
    have text : (toString (Int.ofNat n)).toList = Nat.toDigits 10 n := by
      rw [← Nat.toList_repr]
      rfl
    rw [text]
    have value := decimal_numeral n small
    have digits := decimal_digits n
    cases written : Nat.toDigits 10 n with
    | nil => exact absurd written Nat.toDigits_ne_nil
    | cons c rest =>
      rw [written] at value digits
      obtain ⟨first,others⟩ := List.forall_mem_cons.mp digits
      exact numeral_reads (.inr first) others value
  | negSucc n =>
    have text : (toString (Int.negSucc n)).toList = '-' :: Nat.toDigits 10 (n + 1) := by
      rw [← Nat.toList_repr]
      simp [toString,Int.repr]
    rw [text]
    exact numeral_reads (.inl rfl) (decimal_digits (n + 1)) (signed_numeral (n + 1) (Nat.succ_pos n) small)

-- Documents that are written as themselves: every number is an integer that the reader takes for one, and
-- every text has characters.
inductive Plain : Document → Prop where
  | null : Plain .null
  | bool (b : Bool) : Plain (.bool b)
  | integer (small : exceedsDouble n.natAbs 0 = false) : Plain (.integer n)
  | text (s : String) : Plain (.text (some s))
  | list (items_ : ∀ d ∈ items, Plain d) : Plain (.list items)
  | object (keys : ∀ m ∈ members, m.1.isSome = true) (values : ∀ m ∈ members, Plain m.2) : Plain (.object members)

mutual
def tokens : Document → List Token
  | .list items => .listOpen :: itemTokens items ++ [.listClose]
  | .object members => .objectOpen :: memberTokens members ++ [.objectClose]
  | .text s => [.text s]
  | d => [.scalar d]

def itemTokens : List Document → List Token
  | [] => []
  | [d] => tokens d
  | d :: rest => tokens d ++ .comma :: itemTokens rest

def memberTokens : List (Option String × Document) → List Token
  | [] => []
  | [(key,d)] => .text key :: .colon :: tokens d
  | (key,d) :: rest => .text key :: .colon :: tokens d ++ .comma :: memberTokens rest
end

-- Writing several things with a sign between each and the next.
structure Separated (sign : α) (together : List β → List α) (one : β → List α) : Prop where
  empty : together [] = []
  single b : together [b] = one b
  more b next rest : together (b :: next :: rest) = one b ++ sign :: together (next :: rest)

theorem items_separated : Separated ',' writeItems write :=
  ⟨rfl,fun _ => rfl,fun _ _ _ => rfl⟩

theorem itemLines_separated (level : Nat) :
    Separated ',' (writeItemLines level) fun d => newLine level ++ writeLines level d :=
  ⟨rfl,fun _ => rfl,fun _ _ _ => rfl⟩

theorem itemTokens_separated : Separated .comma itemTokens tokens :=
  ⟨rfl,fun _ => rfl,fun _ _ _ => rfl⟩

theorem members_separated : Separated ',' writeMembers fun m => writeText m.1 ++ ':' :: write m.2 :=
  ⟨rfl,fun _ => rfl,fun _ _ _ => rfl⟩

theorem memberLines_separated (level : Nat) : Separated ',' (writeMemberLines level)
    fun m => newLine level ++ writeText m.1 ++ [':',' '] ++ writeLines level m.2 :=
  ⟨rfl,fun _ => rfl,fun _ _ _ => rfl⟩

theorem memberTokens_separated : Separated .comma memberTokens fun m => .text m.1 :: .colon :: tokens m.2 :=
  ⟨rfl,fun _ => rfl,fun _ _ _ => rfl⟩

namespace Reads

theorem nil : Reads [] [] := by
  intro seen rest ends
  rfl

theorem sign_cons (c : Char) (sign : List Token) (begun : begin? c = some (sign,.between)) (reads : Reads cs ts) :
    Reads (c :: cs) (sign ++ ts) := by
  intro seen rest ends
  rw [List.cons_append,tokensFrom,Mode.step?,begun]
  simp only
  rw [reads _ rest ends]
  simp

theorem append_sign (c : Char) (sign : List Token) (begun : begin? c = some (sign,.between))
    (ends : c ∈ [',',']','\x7d','\n']) (first : Reads cs ts) (second : Reads ds us) :
    Reads (cs ++ c :: ds) (ts ++ (sign ++ us)) := by
  intro seen rest end_
  have signed := second.sign_cons c sign begun (ts.reverse ++ seen) rest end_
  rw [List.append_assoc,List.cons_append,first seen _ (EndsValue.cons ends)]
  simpa using signed

theorem writeText_append (key : String) (reads : Reads cs ts) :
    Reads (writeText (some key) ++ cs) (.text (some key) :: ts) := by
  intro seen rest ends
  rw [List.append_assoc,writeText_reads,reads _ rest ends]
  simp

theorem blanks_append (n : Nat) (reads : Reads cs ts) : Reads (List.replicate n ' ' ++ cs) ts := by
  induction n with
  | zero => exact reads
  | succ n ih => exact ih.sign_cons ' ' [] rfl

theorem newLine_append (level : Nat) (reads : Reads cs ts) : Reads (newLine level ++ cs) ts :=
  (reads.blanks_append (2 * level)).sign_cons '\n' [] rfl

theorem separated {f : List α → List Char} {t : List α → List Token} (written : Separated ',' f g)
    (read : Separated .comma t u) (all : ∀ a ∈ items, Reads (g a) (u a)) : Reads (f items) (t items) := by
  induction items with
  | nil =>
    rw [written.empty,read.empty]
    exact nil
  | cons a items ih =>
    obtain ⟨first,others⟩ := List.forall_mem_cons.mp all
    cases items with
    | nil =>
      rw [written.single,read.single]
      exact first
    | cons b items =>
      rw [written.more,read.more]
      exact first.append_sign ',' [.comma] rfl (by simp) (ih others)

theorem enclosed (level : Nat) (o c : Char) (opening closing : List Token) (begun : begin? o = some (opening,.between))
    (closed : begin? c = some (closing,.between)) (inside : Reads cs ts) :
    Reads (o :: cs ++ newLine level ++ [c]) (opening ++ (ts ++ closing)) := by
  have last := (nil.sign_cons c closing closed).blanks_append (2 * level)
  have wrapped := (inside.append_sign '\n' [] rfl (by simp) last).sign_cons o opening begun
  simpa [newLine] using wrapped

end Reads

theorem member_reads {m : Option String × Document} (named : m.1.isSome = true)
    (value : Reads (write m.2) (tokens m.2)) :
    Reads (writeText m.1 ++ ':' :: write m.2) (.text m.1 :: .colon :: tokens m.2) := by
  obtain ⟨key,isKey⟩ := Option.isSome_iff_exists.mp named
  rw [isKey]
  exact (value.sign_cons ':' [.colon] rfl).writeText_append key

theorem memberLine_reads {m : Option String × Document} (level : Nat) (named : m.1.isSome = true)
    (value : Reads (writeLines level m.2) (tokens m.2)) :
    Reads (newLine level ++ writeText m.1 ++ [':',' '] ++ writeLines level m.2)
      (.text m.1 :: .colon :: tokens m.2) := by
  obtain ⟨key,isKey⟩ := Option.isSome_iff_exists.mp named
  have inside := ((value.sign_cons ' ' [] rfl).sign_cons ':' [.colon] rfl).writeText_append key
  rw [isKey]
  simpa using inside.newLine_append level

theorem null_reads : Reads (writeScalar .null) [.scalar .null] := by
  have spelled : "null".toList = ['n','u','l','l'] := by decide
  rw [writeScalar,spelled]
  exact word_reads rfl rfl (by simp [word?])

theorem bool_reads (b : Bool) : Reads (writeScalar (.bool b)) [.scalar (.bool b)] := by
  have yes : "true".toList = ['t','r','u','e'] := by decide
  have no : "false".toList = ['f','a','l','s','e'] := by decide
  cases b with
  | false =>
    rw [writeScalar,no]
    exact word_reads rfl rfl (by simp [word?])
  | true =>
    rw [writeScalar,yes]
    exact word_reads rfl rfl (by simp [word?])

theorem write_reads (plain : Plain d) : Reads (write d) (tokens d) := by
  induction plain with
  | null => exact null_reads
  | bool b => exact bool_reads b
  | integer small => exact integer_reads _ small
  | text s => exact fun seen rest _ => writeText_reads s seen rest
  | list _ ih =>
    have inside := Reads.separated items_separated itemTokens_separated ih
    exact (inside.append_sign ']' [.listClose] rfl (by simp) .nil).sign_cons '[' [.listOpen] rfl
  | object keys _ ih =>
    have inside := Reads.separated members_separated memberTokens_separated
      fun m member => member_reads (keys m member) (ih m member)
    exact (inside.append_sign '\x7d' [.objectClose] rfl (by simp) .nil).sign_cons '\x7b' [.objectOpen] rfl

theorem writeLines_reads (plain : Plain d) (level : Nat) : Reads (writeLines level d) (tokens d) := by
  induction plain generalizing level with
  | null => exact null_reads
  | bool b => exact bool_reads b
  | integer small => exact integer_reads _ small
  | text s => exact fun seen rest _ => writeText_reads s seen rest
  | @list items _ ih =>
    have inside := Reads.separated (itemLines_separated (level + 1)) itemTokens_separated
      fun d member => (ih d member (level + 1)).newLine_append (level + 1)
    cases items with
    | nil => exact (Reads.nil.sign_cons ']' [.listClose] rfl).sign_cons '[' [.listOpen] rfl
    | cons d items => exact inside.enclosed level '[' ']' [.listOpen] [.listClose] rfl rfl
  | @object members keys _ ih =>
    have inside := Reads.separated (memberLines_separated (level + 1)) memberTokens_separated
      fun m member => memberLine_reads (level + 1) (keys m member) (ih m member (level + 1))
    cases members with
    | nil => exact (Reads.nil.sign_cons '\x7d' [.objectClose] rfl).sign_cons '\x7b' [.objectOpen] rfl
    | cons m members => exact inside.enclosed level '\x7b' '\x7d' [.objectOpen] [.objectClose] rfl rfl

-- The reader takes the tokens of a value for that value, whatever is open around it and whatever comes next.
def ReadBack (d : Document) : Prop := ∀ frames rest,
  readFrom frames .value (tokens d ++ rest) = readFrom frames (.done d) rest

theorem first_item (d : Document) (frames : List Frame) (rest : List Token) :
    readFrom frames .firstItem (tokens d ++ rest) = readFrom (.list [] :: frames) .value (tokens d ++ rest) := by
  cases d <;> rfl

theorem items_back (all : ∀ e ∈ d :: items, ReadBack e) (before : List Document)
    (frames : List Frame) (rest : List Token) :
    readFrom (.list before :: frames) .value (itemTokens (d :: items) ++ .listClose :: rest) =
      readFrom frames (.done (.list (before.reverse ++ d :: items))) rest := by
  induction items generalizing d before with
  | nil =>
    obtain ⟨first,_⟩ := List.forall_mem_cons.mp all
    rw [itemTokens_separated.single,first]
    simp [readFrom,advance?]
  | cons e items ih =>
    obtain ⟨first,others⟩ := List.forall_mem_cons.mp all
    have later := ih others (d :: before)
    rw [itemTokens_separated.more,List.append_assoc,first]
    simp only [List.cons_append,readFrom,advance?,Option.bind_eq_bind,Option.bind_some]
    rw [later]
    simp

theorem members_back (all : ∀ e ∈ m :: members, ReadBack e.2) (before : List (Option String × Document))
    (frames : List Frame) (rest : List Token) :
    readFrom frames (.key before) (memberTokens (m :: members) ++ .objectClose :: rest) =
      readFrom frames (.done (.object (before.reverse ++ m :: members))) rest := by
  induction members generalizing m before with
  | nil =>
    obtain ⟨first,_⟩ := List.forall_mem_cons.mp all
    rw [memberTokens_separated.single]
    simp only [List.cons_append,readFrom,advance?,Option.bind_eq_bind,Option.bind_some]
    rw [first]
    simp [readFrom,advance?]
  | cons n members ih =>
    obtain ⟨first,others⟩ := List.forall_mem_cons.mp all
    have later := ih others (m :: before)
    rw [memberTokens_separated.more]
    simp only [List.append_assoc,List.cons_append,readFrom,advance?,Option.bind_eq_bind,Option.bind_some]
    rw [first]
    simp only [readFrom,advance?,Option.bind_eq_bind,Option.bind_some]
    rw [later]
    simp

theorem plain_back (plain : Plain d) : ReadBack d := by
  induction plain with
  | null => exact fun _ _ => rfl
  | bool b => exact fun _ _ => rfl
  | integer small => exact fun _ _ => rfl
  | text s => exact fun _ _ => rfl
  | @list items _ ih =>
    intro frames rest
    cases items with
    | nil => rfl
    | cons d items =>
      have inside := items_back ih [] frames rest
      have began : readFrom (.list [] :: frames) .value (itemTokens (d :: items) ++ .listClose :: rest) =
          readFrom frames .value (tokens (.list (d :: items)) ++ rest) := by
        cases items <;> simp [tokens,itemTokens,readFrom,advance?,startValue?,first_item]
      exact began.symm.trans inside
  | @object members _ _ ih =>
    intro frames rest
    cases members with
    | nil => rfl
    | cons m members =>
      have inside := members_back ih [] frames rest
      have began : readFrom frames (.key []) (memberTokens (m :: members) ++ .objectClose :: rest) =
          readFrom frames .value (tokens (.object (m :: members)) ++ rest) := by
        cases members <;> simp [tokens,memberTokens,readFrom,advance?,startValue?]
      exact began.symm.trans inside

theorem read_text (plain : Plain d) (reads : Reads cs (tokens d)) : read? (String.ofList cs) = some d := by
  have ends : EndsValue [] := fun _ head => by cases head
  have spelled := reads [] [] ends
  have back := plain_back plain [] []
  simp only [List.append_nil] at spelled back
  have all : tokens? (String.ofList cs) = some (tokens d) := by
    simp [tokens?,spelled,tokensFrom,Mode.finish?]
  simp [read?,all,back,readFrom]

-- A plain document is read back from its text, in either form.
theorem read_written (plain : Plain d) : read? d.toJson = some d ∧ read? d.toJsonLines = some d :=
  ⟨read_text plain (write_reads plain),read_text plain (writeLines_reads plain 0)⟩

end HostNet.Document.Json
