import HostNet.Proofs.AddressText
import HostNet.Proofs.CommentLimits
import HostNet.Proofs.Pieces

namespace HostNet.Address

-- What addresses are written in.
def Legible (c : Char) : Prop := c = '.' ∨ c = ':' ∨ ∃ d, Text.Hex.digit? c = some d

theorem joined_legible {separator : List Char} {parts : List (List Char)} (sign : ∀ c ∈ separator, Legible c)
    (legible : ∀ part ∈ parts, ∀ c ∈ part, Legible c) : ∀ c ∈ joined separator parts, Legible c := by
  induction parts using joined.induct with
  | case1 => exact fun _ none => nomatch none
  | case2 part => exact legible part List.mem_cons_self
  | case3 part rest more ih =>
    obtain ⟨here,others⟩ := List.forall_mem_cons.mp legible
    rw [joined.eq_3 _ _ _ more]
    exact List.forall_mem_append.mpr ⟨List.forall_mem_append.mpr ⟨here,sign⟩,ih others⟩

theorem toDigits_legible {radix : Nat} (large : 1 < radix) (small : radix ≤ 16) (n : Nat) :
    ∀ c ∈ Nat.toDigits radix n, Legible c := by
  intro c among
  obtain ⟨d,-,known⟩ := digits_legible large small n c among
  exact .inr (.inr ⟨d,known⟩)

theorem dottedText_legible (octets : List Nat) : ∀ c ∈ dottedText octets, Legible c := by
  apply joined_legible
  · simp [Legible]
  · intro part among
    obtain ⟨n,-,rfl⟩ := List.mem_map.mp among
    rw [Nat.toString_eq_repr,Nat.toList_repr]
    exact toDigits_legible (by decide) (by decide) n

theorem groupsText_legible (groups : List Nat) : ∀ c ∈ groupsText groups, Legible c := by
  apply joined_legible
  · simp [Legible]
  · intro part among
    obtain ⟨n,-,rfl⟩ := List.mem_map.mp among
    exact toDigits_legible (by decide) (by decide) n

theorem chars_legible (a : Address) : ∀ c ∈ a.chars, Legible c := by
  unfold chars
  split
  · exact dottedText_legible a.octets
  · split
    · refine List.forall_mem_append.mpr ⟨?_,dottedText_legible a.octets⟩
      have hex : Text.Hex.digit? 'f' = some 15 := by decide
      simp [Legible,hex]
    · dsimp only
      split
      · have colons : ∀ c ∈ [':',':'], Legible c := by simp [Legible]
        exact List.forall_mem_append.mpr
          ⟨List.forall_mem_append.mpr ⟨groupsText_legible _,colons⟩,groupsText_legible _⟩
      · exact groupsText_legible a.groups

end HostNet.Address

namespace HostNet.Firewall.Nft

-- A quote opens a string, and the next one closes it, whatever stands between them.
def crossed (quoted : Bool) (c : Char) : Bool := quoted != (c == '"')

-- Divides a script at the newlines outside of strings.
def cut : Bool → List Char → List (List Char)
  | _, [] => [[]]
  | quoted, c :: rest =>
    if quoted = false ∧ c = '\n' then [] :: cut false rest
    else (cut (crossed quoted c) rest).modifyHead (c :: ·)

def commandsOf (script : String) : List String := (cut false script.toList).map String.ofList

-- The strings of a text; none if the last of them is not closed. The string that is being read stands in reverse.
def stringsFrom : Option (List Char) → List Char → Option (List String)
  | none, [] => some []
  | some _, [] => none
  | none, c :: rest => stringsFrom (if c = '"' then some [] else none) rest
  | some seen, c :: rest =>
    if c = '"' then (stringsFrom none rest).map (.ofList seen.reverse :: ·) else stringsFrom (some (c :: seen)) rest

def stringsOf (text : String) : Option (List String) := stringsFrom none text.toList

-- Whether a text ends in a string. There is no answer if it has a newline outside of strings.
def ends : Bool → List Char → Option Bool
  | quoted, [] => some quoted
  | quoted, c :: rest => if quoted = false ∧ c = '\n' then none else ends (crossed quoted c) rest

-- A part of a command after which the command goes on outside of strings.
def Whole (s : String) : Prop := ends false s.toList = some false

def Unquoted (s : String) : Prop := '"' ∉ s.toList

def Plain (s : String) : Prop := '"' ∉ s.toList ∧ '\n' ∉ s.toList

instance (s : String) : Decidable (Whole s) := inferInstanceAs (Decidable (_ = _))
instance (s : String) : Decidable (Unquoted s) := inferInstanceAs (Decidable (¬_))
instance (s : String) : Decidable (Plain s) := inferInstanceAs (Decidable (_ ∧ _))

theorem ends_append (quoted : Bool) (s rest : List Char) :
    ends quoted (s ++ rest) = (ends quoted s).bind (ends · rest) := by
  induction s generalizing quoted with
  | nil => rfl
  | cons c s ih =>
    rw [List.cons_append,ends,ends]
    split
    · rfl
    · exact ih _

theorem Whole.append {s t : String} (first : Whole s) (second : Whole t) : Whole (s ++ t) := by
  rw [Whole,String.toList_append,ends_append,first]
  exact second

-- Inside of a string nothing but a quote ends it.
theorem ends_unquoted (quoted : Bool) (s : List Char) (unquoted : '"' ∉ s) (unbroken : quoted = true ∨ '\n' ∉ s) :
    ends quoted s = some quoted := by
  induction s with
  | nil => rfl
  | cons c rest ih =>
    obtain ⟨other,later⟩ := not_or.mp (mt List.mem_cons.mpr unquoted)
    have stays : crossed quoted c = quoted := by
      rw [crossed,beq_false_of_ne (Ne.symm other)]
      exact Bool.bne_false quoted
    rw [ends,stays]
    rcases unbroken with open_ | unbroken
    · rw [if_neg (by simp [open_])]
      exact ih later (.inl open_)
    · obtain ⟨line,further⟩ := not_or.mp (mt List.mem_cons.mpr unbroken)
      rw [if_neg fun newline => line newline.2.symm]
      exact ih later (.inr further)

theorem Plain.append {s t : String} (one : Plain s) (two : Plain t) : Plain (s ++ t) := by
  simp only [Plain,String.toList_append,List.mem_append,not_or]
  exact ⟨⟨one.1,two.1⟩,one.2,two.2⟩

theorem Plain.whole {s : String} (plain : Plain s) : Whole s := ends_unquoted false _ plain.1 (.inr plain.2)

theorem commentText_whole {comment : String} (unquoted : Unquoted comment) : Whole (commentText comment) := by
  have opened : ends false "comment \"".toList = some true := by decide
  have closed : ends true "\"".toList = some false := by decide
  rw [Whole,commentText,String.toList_append,String.toList_append,ends_append,ends_append,opened,Option.bind_some,
    ends_unquoted true _ unquoted (.inl rfl)]
  exact closed

-- A whole text before a newline is divided from what follows.
theorem cut_whole {quoted : Bool} {s : List Char} (whole : ends quoted s = some false) (rest : List Char) :
    cut quoted (s ++ '\n' :: rest) = s :: cut false rest := by
  induction s generalizing quoted with
  | nil =>
    cases whole
    rfl
  | cons c s ih =>
    rw [ends] at whole
    split at whole
    · cases whole
    · rename_i goes
      rw [List.cons_append,cut,if_neg goes,ih whole]
      rfl

theorem commandsOf_script {t : Transaction} (whole : ∀ change ∈ t, Whole change.command) :
    commandsOf t.script = t.map Change.command ++ [""] := by
  have divided : cut false t.script.toList = t.map (·.command.toList) ++ [[]] := by
    induction t with
    | nil => rfl
    | cons change later ih =>
      obtain ⟨here,others⟩ := List.forall_mem_cons.mp whole
      have script : (Transaction.script (change :: later)).toList =
          change.command.toList ++ '\n' :: (Transaction.script later).toList := by
        simp [Transaction.script,String.toList_append]
      rw [script,cut_whole here,ih others]
      rfl
  rw [commandsOf,divided]
  simp

-- A word that stands between blanks and in which no string begins.
def Solid (s : String) : Prop := Plain s ∧ ' ' ∉ s.toList

instance (s : String) : Decidable (Solid s) := inferInstanceAs (Decidable (_ ∧ _))

-- Up to the first blank is the first word.
theorem Solid.first_word {x y s t : String} (one : Solid x) (two : Solid y)
    (same : x ++ (" " ++ s) = y ++ (" " ++ t)) : x = y ∧ s = t := by
  have chars : x.toList ++ ' ' :: s.toList = y.toList ++ ' ' :: t.toList := by
    simpa [String.toList_append] using congrArg String.toList same
  obtain ⟨first,rest⟩ := Path.first_piece one.2 two.2 chars
  exact ⟨String.toList_injective first,String.toList_injective rest⟩

theorem legible_solid {s : String} (legible : ∀ c ∈ s.toList, Address.Legible c ∨ c = '/') : Solid s := by
  have absent (c : Char) (foreign : c ≠ '.' ∧ c ≠ ':' ∧ Text.Hex.digit? c = none ∧ c ≠ '/') : c ∉ s.toList := by
    obtain ⟨dot,colon,digit,slash⟩ := foreign
    intro among
    rcases legible c among with (same | same | ⟨d,known⟩) | same
    · exact dot same
    · exact colon same
    · cases digit.symm.trans known
    · exact slash same
  exact ⟨⟨absent '"' (by decide),absent '\n' (by decide)⟩,absent ' ' (by decide)⟩

theorem digits_solid (n : Nat) : Solid (toString n) := by
  apply legible_solid
  rw [Nat.toString_eq_repr,Nat.toList_repr]
  exact fun c among => .inl (Address.toDigits_legible (by decide) (by decide) n c among)

theorem digits_injective {m n : Nat} (same : toString m = toString n) : m = n := by
  have digits : Nat.toDigits 10 m = Nat.toDigits 10 n := by
    rw [← Nat.toList_repr,← Nat.toList_repr,← Nat.toString_eq_repr,← Nat.toString_eq_repr,same]
  rw [← @Nat.ofDigitChars_ten_toDigits m,digits,Nat.ofDigitChars_ten_toDigits]

theorem address_solid (a : Address) : Solid a.text := by
  apply legible_solid
  rw [Address.text,String.toList_ofList]
  exact fun c among => .inl (a.chars_legible c among)

theorem subnet_solid (net : Subnet) : Solid net.text := by
  apply legible_solid
  rw [Subnet.text_chars,Nat.toString_eq_repr,Nat.toList_repr]
  intro c among
  rcases List.mem_append.mp among with address | length
  · exact .inl (net.address.chars_legible c address)
  · rcases List.mem_cons.mp length with slash | digit
    · exact .inr slash
    · exact .inl (Address.toDigits_legible (by decide) (by decide) net.length c digit)

-- Names and rules are plain, and comments have no quote.
def Change.Tame : Change → Prop
  | .addTable comment => ∀ c ∈ comment, Unquoted c
  | .addChain name hook comment =>
    Plain name ∧ (∀ h ∈ hook, Plain h.type ∧ Plain h.hook ∧ Plain h.priority) ∧ ∀ c ∈ comment, Unquoted c
  | .flushChain name => Plain name
  | .addRule chain rule comment => Plain chain ∧ Plain rule.text ∧ ∀ c ∈ comment, Unquoted c
  | .deleteRule chain _ => Plain chain

theorem chainSpec_whole {hook : Option Hook} {comment : Option String}
    (hooked : ∀ h ∈ hook, Plain h.type ∧ Plain h.hook ∧ Plain h.priority) (unquoted : ∀ c ∈ comment, Unquoted c) :
    Whole (chainSpec hook comment) := by
  unfold chainSpec
  apply Whole.append
  · cases hook with
    | none => decide
    | some h =>
      obtain ⟨type,place,priority⟩ := hooked h rfl
      have first : Whole " type " := by decide
      have second : Whole " hook " := by decide
      have third : Whole " priority " := by decide
      have last : Whole " ;" := by decide
      have placed := ((first.append type.whole).append second).append place.whole
      exact ((placed.append third).append priority.whole).append last
  · cases comment with
    | none => decide
    | some c =>
      have first : Whole " " := by decide
      have last : Whole " ;" := by decide
      exact (first.append (commentText_whole (unquoted c rfl))).append last

theorem command_whole {change : Change} (tame : change.Tame) : Whole change.command := by
  have site : Whole target := by decide
  have space : Whole " " := by decide
  cases change with
  | addTable comment =>
    have start : Whole "add table " := by decide
    cases comment with
    | none => exact start.append site
    | some c =>
      have before : Whole " \x7b " := by decide
      have after : Whole " ; \x7d" := by decide
      exact (((start.append site).append before).append (commentText_whole (tame c rfl))).append after
  | addChain name hook comment =>
    obtain ⟨named,hooked,unquoted⟩ := tame
    have start : Whole "add chain " := by decide
    refine (((start.append site).append space).append named.whole).append ?_
    split
    · decide
    · have before : Whole " \x7b" := by decide
      have after : Whole " \x7d" := by decide
      exact (before.append (chainSpec_whole hooked unquoted)).append after
  | flushChain name =>
    have start : Whole "flush chain " := by decide
    exact ((start.append site).append space).append (Plain.whole tame)
  | addRule chain rule comment =>
    obtain ⟨named,ruled,unquoted⟩ := tame
    have start : Whole "add rule " := by decide
    have bare := ((((start.append site).append space).append named.whole).append space).append ruled.whole
    cases comment with
    | none => exact bare
    | some c => exact (bare.append space).append (commentText_whole (unquoted c rfl))
  | deleteRule chain handle =>
    have start : Whole "delete rule " := by decide
    have between : Whole " handle " := by decide
    have named := ((start.append site).append space).append (Plain.whole tame)
    exact (named.append between).append (digits_solid handle).1.whole

theorem stringsFrom_plain {s : List Char} (unquoted : '"' ∉ s) (rest : List Char) :
    stringsFrom none (s ++ rest) = stringsFrom none rest := by
  induction s with
  | nil => rfl
  | cons c s ih =>
    obtain ⟨other,later⟩ := not_or.mp (mt List.mem_cons.mpr unquoted)
    rw [List.cons_append,stringsFrom,if_neg (Ne.symm other)]
    exact ih later

theorem stringsFrom_string {s : List Char} (unquoted : '"' ∉ s) (seen rest : List Char) :
    stringsFrom (some seen) (s ++ '"' :: rest) =
      (stringsFrom none rest).map (.ofList (seen.reverse ++ s) :: ·) := by
  induction s generalizing seen with
  | nil =>
    rw [List.nil_append,stringsFrom,if_pos rfl,List.append_nil]
  | cons c s ih =>
    obtain ⟨other,later⟩ := not_or.mp (mt List.mem_cons.mpr unquoted)
    rw [List.cons_append,stringsFrom,if_neg (Ne.symm other),ih later,List.reverse_cons,List.append_assoc]
    rfl

theorem deletion_command (chain : String) (handle : Nat) : (Change.deleteRule chain handle).command =
    "delete rule " ++ target ++ " " ++ chain ++ " handle " ++ toString handle := rfl

theorem rule_command (chain : String) (rule : Rule) (comment : String) :
    (Change.addRule chain rule (some comment)).command =
      "add rule " ++ target ++ " " ++ chain ++ " " ++ rule.text ++ " " ++ commentText comment := rfl

theorem rule_strings {chain : String} {rule : Rule} {comment : String} (named : Plain chain) (ruled : Plain rule.text)
    (unquoted : Unquoted comment) : stringsOf (Change.addRule chain rule (some comment)).command = some [comment] := by
  have start : Plain "add rule " := by decide
  have site : Plain target := by decide
  have space : Plain " " := by decide
  have word : Plain "comment " := by decide
  have bare := ((((start.append site).append space).append named).append space).append ruled
  have before := ((bare.append space).append word).1
  have command : (Change.addRule chain rule (some comment)).command.toList =
      ("add rule " ++ target ++ " " ++ chain ++ " " ++ rule.text ++ " " ++ "comment ").toList ++
        '"' :: (comment.toList ++ ['"']) := by
    simp [rule_command,commentText]
  rw [stringsOf,command,stringsFrom_plain before,stringsFrom,if_pos rfl,stringsFrom_string unquoted]
  simp [stringsFrom]

theorem masquerade_plain (source : Address) (inside : Subnet) : Plain (Rule.masquerade source inside).text := by
  have word (f : Family) : Plain (familyWord f) := by cases f <;> decide
  have origin : Plain " saddr == " := by decide
  have blank : Plain " " := by decide
  have outside : Plain " daddr != " := by decide
  have last : Plain " masquerade" := by decide
  have start := ((word source.family).append origin).append (address_solid source).1
  have destination := ((start.append blank).append (word source.family)).append outside
  exact (destination.append (subnet_solid inside).1).append last

theorem returnTo_plain (net : Subnet) : Plain (Rule.returnTo net).text := by
  have word : Plain (familyWord net.family) := by cases net.family <;> decide
  have destination : Plain " daddr == " := by decide
  have last : Plain "  return" := by decide
  exact ((word.append destination).append (subnet_solid net).1).append last

theorem deletion_same {chain chain' : String} {handle handle' : Nat} (solid : Solid chain) (solid' : Solid chain')
    (same : (Change.deleteRule chain handle).command = (Change.deleteRule chain' handle').command) :
    Change.deleteRule chain handle = Change.deleteRule chain' handle' := by
  have command (name : String) (n : Nat) : (Change.deleteRule name n).command =
      "delete rule " ++ target ++ " " ++ (name ++ (" " ++ ("handle " ++ toString n))) := by
    have parts : " handle " = " " ++ "handle " := by decide
    simp only [deletion_command,parts,String.append_assoc]
  rw [command,command,String.append_right_inj] at same
  obtain ⟨names,handles⟩ := solid.first_word solid' same
  rw [String.append_right_inj] at handles
  rw [names,digits_injective handles]

theorem rule_same {chain : String} {source source' : Address} {inside inside' : Subnet} {comment comment' : String}
    (same : (Change.addRule chain (.masquerade source inside) (some comment)).command =
      (Change.addRule chain (.masquerade source' inside') (some comment')).command) :
    Change.addRule chain (.masquerade source inside) (some comment) =
      Change.addRule chain (.masquerade source' inside') (some comment') := by
  have command (source : Address) (inside : Subnet) (comment : String) :
      (Change.addRule chain (.masquerade source inside) (some comment)).command =
        "add rule " ++ target ++ " " ++ chain ++ " " ++ (familyWord source.family ++ (" " ++ ("saddr == " ++
          (source.text ++ (" " ++ (familyWord source.family ++ (" " ++ ("daddr != " ++ (inside.text ++ (" " ++
            ("masquerade comment \"" ++ (comment ++ "\"")))))))))))) := by
    have origin : " saddr == " = " " ++ "saddr == " := by decide
    have outside : " daddr != " = " " ++ "daddr != " := by decide
    have verb : " masquerade" = " " ++ "masquerade" := by decide
    have last : "masquerade comment \"" = "masquerade" ++ (" " ++ "comment \"") := by decide
    simp only [rule_command,Rule.text,commentText,origin,outside,verb,last,String.append_assoc]
  have family (f : Family) : Solid (familyWord f) := by cases f <;> decide
  rw [command,command,String.append_right_inj] at same
  obtain ⟨-,same⟩ := (family _).first_word (family _) same
  rw [String.append_right_inj] at same
  obtain ⟨sources,same⟩ := (address_solid _).first_word (address_solid _) same
  obtain ⟨-,same⟩ := (family _).first_word (family _) same
  rw [String.append_right_inj] at same
  obtain ⟨insides,same⟩ := (subnet_solid _).first_word (subnet_solid _) same
  rw [String.append_right_inj,String.append_left_inj] at same
  rw [Address.text_injective sources,Subnet.text_injective insides,same]

end HostNet.Firewall.Nft

namespace HostNet.Masquerade.Nft
open Firewall.Nft

theorem frame_tame : ∀ change ∈ frame, change.Tame := by
  have hooked : Plain "nat" ∧ Plain "postrouting" ∧ Plain "srcnat" := by decide
  have checks : Plain checksChain := by decide
  have posts : Plain postroutingChain := by decide
  have jump : Plain (Rule.goto checksChain).text := by decide
  simp only [frame,List.forall_mem_cons,Change.Tame,Option.mem_def,Option.some.injEq,forall_eq',reduceCtorEq,
    List.not_mem_nil,false_implies,implies_true,true_and,and_true]
  refine ⟨?table,⟨checks,?traffic⟩,⟨posts,hooked⟩,posts,⟨posts,returnTo_plain _⟩,⟨posts,returnTo_plain _⟩,?jump⟩
  case table => decide
  case traffic => decide
  case jump => exact ⟨posts,jump⟩

theorem installTransaction_tame (nets : List Subnet) (identity : Identity) {stale : List Listed}
    (named : ∀ r ∈ stale, Solid r.chain) : ∀ change ∈ installTransaction nets identity stale, change.Tame := by
  rw [installTransaction,List.forall_mem_append,List.forall_mem_append]
  refine ⟨⟨frame_tame,?_⟩,?_⟩
  · intro change deleted
    obtain ⟨r,among,rfl⟩ := List.mem_map.mp deleted
    exact (named r among).1
  · intro change added
    obtain ⟨net,-,rfl⟩ := List.mem_map.mp added
    have name : Plain checksChain := by decide
    refine ⟨name,masquerade_plain _ _,?_⟩
    intro comment given
    obtain rfl := Option.mem_some_iff.mp given
    exact comment_unquoted identity

-- The changes of an installation in which it differs from others.
inductive Own : Change → Prop where
  | deletion (solid : Solid chain) : Own (.deleteRule chain handle)
  | rule : Own (.addRule checksChain (.masquerade source inside) (some comment))

theorem installTransaction_own (nets : List Subnet) (identity : Identity) {stale : List Listed}
    (named : ∀ r ∈ stale, Solid r.chain) :
    ∃ changes, installTransaction nets identity stale = frame ++ changes ∧ ∀ change ∈ changes, Own change := by
  refine ⟨_,List.append_assoc _ _ _,List.forall_mem_append.mpr ⟨?_,?_⟩⟩
  · intro change deleted
    obtain ⟨r,among,rfl⟩ := List.mem_map.mp deleted
    exact .deletion (named r among)
  · intro change added
    obtain ⟨net,-,rfl⟩ := List.mem_map.mp added
    exact .rule

theorem own_same {one two : Change} (own : Own one) (own' : Own two) (same : one.command = two.command) :
    one = two := by
  -- Deletions and rules begin with different words.
  have verbs (chain : String) (handle : Nat) (rule : Rule) (comment : String) :
      (Change.deleteRule chain handle).command ≠ (Change.addRule checksChain rule (some comment)).command := by
    intro same
    have initials := congrArg (·.toList.head?) same
    simp [deletion_command,rule_command] at initials
  rcases own with solid | _
  · rcases own' with solid' | _
    · exact deletion_same solid solid' same
    · exact absurd same (verbs _ _ _ _)
  · rcases own' with solid' | _
    · exact absurd same.symm (verbs _ _ _ _)
    · exact rule_same same

theorem commands_same {these those : List Change} (own : ∀ change ∈ these, Own change)
    (own' : ∀ change ∈ those, Own change) (same : these.map Change.command = those.map Change.command) :
    these = those := by
  induction these generalizing those with
  | nil => exact (List.map_eq_nil_iff.mp same.symm).symm
  | cons change later ih =>
    cases those with
    | nil => cases same
    | cons change' later' =>
      obtain ⟨here,others⟩ := List.forall_mem_cons.mp own
      obtain ⟨here',others'⟩ := List.forall_mem_cons.mp own'
      obtain ⟨first,rest⟩ := List.cons.inj same
      rw [own_same here here' first,ih others others' rest]

theorem checks_rule {nets : List Subnet} {identity : Identity} {stale : List Listed} {rule : Rule}
    {comment : Option String} (among : .addRule checksChain rule comment ∈ installTransaction nets identity stale) :
    Plain rule.text ∧ comment = some (instanceComment identity) := by
  have other : checksChain ≠ postroutingChain := by decide
  simp only [installTransaction,frame,deletions,List.mem_append,List.mem_cons,List.mem_map,Change.addRule.injEq,
    other,reduceCtorEq,false_and,and_false,List.not_mem_nil,false_or,exists_false] at among
  obtain ⟨net,-,-,rfl,rfl⟩ := among
  exact ⟨masquerade_plain _ _,rfl⟩

-- Commands end at the newlines outside of strings. Whatever an identity says, a script has the commands of its changes.
-- Each of an instance's rules has one string, which is its comment. So the script tells which changes it makes.
theorem scripts_unbroken (nets : List Subnet) (identity : Identity) (stale : List Listed)
    (named : ∀ r ∈ stale, Solid r.chain) :
    commandsOf (Transaction.script (installTransaction nets identity stale)) =
      (installTransaction nets identity stale).map Change.command ++ [""] ∧
    (∀ rule comment, .addRule checksChain rule comment ∈ installTransaction nets identity stale →
      stringsOf (Change.addRule checksChain rule comment).command = some [instanceComment identity]) ∧
    ∀ nets' identity' stale', (∀ r ∈ stale', Solid r.chain) →
      Transaction.script (installTransaction nets identity stale) =
        Transaction.script (installTransaction nets' identity' stale') →
      installTransaction nets identity stale = installTransaction nets' identity' stale' := by
  have cut := commandsOf_script fun change among =>
    command_whole (installTransaction_tame nets identity named change among)
  refine ⟨cut,?_,?_⟩
  · intro rule comment among
    obtain ⟨ruled,rfl⟩ := checks_rule among
    exact rule_strings (by decide) ruled (comment_unquoted identity)
  · intro nets' identity' stale' named' same
    have cut' := commandsOf_script fun change among =>
      command_whole (installTransaction_tame nets' identity' named' change among)
    rw [same,cut'] at cut
    have commands := List.append_cancel_right cut
    obtain ⟨changes,parts,own⟩ := installTransaction_own nets identity named
    obtain ⟨changes',parts',own'⟩ := installTransaction_own nets' identity' named'
    rw [parts,parts',List.map_append,List.map_append] at commands
    rw [parts,parts',commands_same own own' (List.append_cancel_left commands).symm]

theorem keywords_unbroken :
    let net : Subnet := .ofAddress (.ofNat .v4 0x0A160001) 24
    let identity : Identity := ⟨"pods\" ; \nflush ruleset","eth0\\","\"\n\x7d"⟩
    let t := installTransaction [net] identity [⟨checksChain,7,none⟩]
    commandsOf (Transaction.script t) = t.map Change.command ++ [""] ∧ t.length = 9 ∧
      stringsOf (Change.addRule checksChain (ruleFor net) (some (instanceComment identity))).command =
        some [instanceComment identity] := by
  intro net identity t
  have named : ∀ r ∈ ([⟨checksChain,7,none⟩] : List Listed), Solid r.chain := by decide
  obtain ⟨cut,strings,-⟩ := scripts_unbroken [net] identity [⟨checksChain,7,none⟩] named
  refine ⟨cut,rfl,strings _ _ ?_⟩
  exact List.mem_append_right _ List.mem_cons_self

end HostNet.Masquerade.Nft
