import HostNet.Firewall.Iptables.Command
import HostNet.Firewall.Iptables.Memory
import HostNet.Proofs.Pieces

namespace HostNet.Text

-- What is read as one word where it stands between blanks.
structure Word (name : String) : Prop where
  filled : name.toList ≠ []
  whole : ∀ c ∈ name.toList, isBlank c = false

theorem word_iff (name : String) :
    (!name.toList.isEmpty && name.toList.all fun c => !isBlank c) = true ↔ Word name := by
  rw [Bool.and_eq_true,Bool.not_eq_true',List.isEmpty_eq_false_iff,List.all_eq_true]
  simp only [Bool.not_eq_true']
  constructor
  · rintro ⟨filled,whole⟩
    exact ⟨filled,whole⟩
  · intro word
    exact ⟨word.filled,word.whole⟩

instance (name : String) : Decidable (Word name) := decidable_of_iff _ (word_iff name)

theorem wordsFrom_append (seen word rest : List Char) (whole : ∀ c ∈ word, isBlank c = false) :
    wordsFrom seen (word ++ rest) = wordsFrom (word.reverse ++ seen) rest := by
  induction word generalizing seen with
  | nil => rfl
  | cons c more ih =>
    have later := ih (c :: seen) fun d member => whole d (List.mem_cons_of_mem _ member)
    rw [List.cons_append,wordsFrom,whole c (by simp),if_neg Bool.false_ne_true,later,List.reverse_cons,
      List.append_assoc]
    rfl

theorem words_single {name : String} (word : Word name) : words name.toList = [name] := by
  have cut := wordsFrom_append [] name.toList [] word.whole
  rw [List.append_nil,List.append_nil,wordsFrom,if_neg (by simpa using word.filled),List.reverse_reverse] at cut
  rw [words,cut,List.map_singleton,String.ofList_toList]

theorem words_cons {name : String} (word : Word name) (rest : List Char) :
    words (name.toList ++ ' ' :: rest) = name :: words rest := by
  have blank : isBlank ' ' = true := by decide
  have cut := wordsFrom_append [] name.toList (' ' :: rest) word.whole
  rw [List.append_nil,wordsFrom,if_pos blank,if_neg (by simpa using word.filled),List.reverse_reverse] at cut
  rw [words,cut,List.map_cons,String.ofList_toList,words]

theorem Word.unbroken {name : String} (word : Word name) : '\n' ∉ name.toList := by
  intro member
  have blank : isBlank '\n' = true := by decide
  exact Bool.false_ne_true ((word.whole '\n' member).symm.trans blank)

end HostNet.Text

namespace HostNet.Firewall.Iptables.Command
open Text (Word)

-- What is left open about the tool: which chains are built in and with what policy, the order of its lines, and how it
-- words rules and refusals. That something is not there it says with the code and the words that are known for it.
structure Manner where
  policy? : String → String → Option String
  written : Rule → String
  arranged : List String → List String
  noChain : String → Finished
  noRule : Rule → Finished
  refused : List String → Finished
  policy_line : ∀ table chain policy, policy? table chain = some policy → '\n' ∉ policy.toList
  written_line : ∀ rule, '\n' ∉ (written rule).toList
  arranged_perm : ∀ lines, (arranged lines).Perm lines
  noChain_said : ∀ chain, (noChain chain).code = some 1 ∧
    Text.occursIn "No chain/target/match by that name".toList (noChain chain).errors.toList = true
  noRule_said : ∀ rule, (noRule rule).code = some 1 ∧
    Text.occursIn "Bad rule (does a matching rule exist in that chain?)".toList (noRule rule).errors.toList = true
  refused_said : ∀ arguments, (refused arguments).code ≠ some 0 ∧ isAbsent (refused arguments) = false

namespace Manner
variable (w : Manner)

def chainLine (table chain : String) : String :=
  match w.policy? table chain with
  | some policy => "-P " ++ chain ++ " " ++ policy
  | none => "-N " ++ chain

def ruleLine (chain : String) (rule : Rule) : String := "-A " ++ chain ++ " " ++ w.written rule

def lines (table : String) (chains : Chains) : List String :=
  chains.map (fun c => w.chainLine table c.1) ++ chains.flatMap fun c => c.2.map (w.ruleLine c.1)

def listing (table : String) (chains : Chains) : String :=
  String.join ((w.arranged (w.lines table chains)).map (· ++ "\n"))

end Manner

-- Chains whose names are read as they were written.
def Legible (chains : Chains) : Prop := ∀ c ∈ chains, Word c.1

instance (chains : Chains) : Decidable (Legible chains) := inferInstanceAs (Decidable (∀ c ∈ chains, Word c.1))

variable {w : Manner} {table : String} {chains : Chains}

theorem declared_chainLine (w : Manner) (table : String) {chain : String} (word : Word chain) :
    declared? (w.chainLine table chain).toList = some chain := by
  have added : Word "-P" ∧ Word "-N" := by decide
  unfold Manner.chainLine declared?
  cases w.policy? table chain with
  | some policy =>
    have split : ("-P " ++ chain ++ " " ++ policy).toList =
        "-P".toList ++ ' ' :: (chain.toList ++ ' ' :: policy.toList) := by simp
    simp only [split,Text.words_cons added.1,Text.words_cons word]
    rfl
  | none =>
    have split : ("-N " ++ chain).toList = "-N".toList ++ ' ' :: chain.toList := by simp
    simp only [split,Text.words_cons added.2,Text.words_single word]
    rfl

theorem declared_ruleLine (w : Manner) (chain : String) (rule : Rule) :
    declared? (w.ruleLine chain rule).toList = none := by
  have split : (w.ruleLine chain rule).toList = "-A".toList ++ ' ' :: (chain ++ " " ++ w.written rule).toList := by
    simp [Manner.ruleLine]
  unfold declared?
  rw [split,Text.words_cons (by decide : Word "-A")]
  cases Text.words (chain ++ " " ++ w.written rule).toList <;> rfl

theorem lines_unbroken (w : Manner) (table : String) (legible : Legible chains) :
    ∀ line ∈ w.lines table chains, '\n' ∉ line.toList := by
  intro line member
  rcases List.mem_append.mp member with declared | ruled
  · obtain ⟨c,known,rfl⟩ := List.mem_map.mp declared
    have own := (legible c known).unbroken
    unfold Manner.chainLine
    cases held : w.policy? table c.1 with
    | some policy => simp [own,w.policy_line table c.1 policy held]
    | none => simp [own]
  · obtain ⟨c,known,among⟩ := List.mem_flatMap.mp ruled
    obtain ⟨rule,_,rfl⟩ := List.mem_map.mp among
    simp [Manner.ruleLine,(legible c known).unbroken,w.written_line rule]

theorem pieces_lines (lines : List String) (unbroken : ∀ line ∈ lines, '\n' ∉ line.toList) :
    Path.pieces '\n' (String.join (lines.map (· ++ "\n"))).toList = lines.map String.toList ++ [[]] := by
  induction lines with
  | nil => rfl
  | cons line rest ih =>
    have split : (String.join ((line :: rest).map (· ++ "\n"))).toList =
        line.toList ++ '\n' :: (String.join (rest.map (· ++ "\n"))).toList := by
      rw [List.map_cons,String.join_cons,String.toList_append,String.toList_append,List.append_assoc]
      rfl
    rw [split,Path.pieces_append,Path.pieces_single '\n' _ (unbroken line (by simp)),
      ih fun other member => unbroken other (List.mem_cons_of_mem _ member)]
    rfl

-- The listing shows each chain, and nothing else is taken for one.
theorem listing_read (w : Manner) (table : String) (legible : Legible chains) (chain : String) :
    chain ∈ (Path.pieces '\n' (w.listing table chains).toList).filterMap declared? ↔
      chain ∈ chains.map Prod.fst := by
  have perm := w.arranged_perm (w.lines table chains)
  have unbroken : ∀ line ∈ w.arranged (w.lines table chains), '\n' ∉ line.toList :=
    fun line member => lines_unbroken w table legible line (perm.mem_iff.mp member)
  rw [Manner.listing,pieces_lines _ unbroken,List.filterMap_append,List.mem_append]
  have nothing : [([] : List Char)].filterMap declared? = [] := rfl
  rw [nothing,or_iff_left List.not_mem_nil]
  simp only [List.mem_filterMap,List.mem_map]
  constructor
  · rintro ⟨_,⟨line,member,rfl⟩,shown⟩
    rcases List.mem_append.mp (perm.mem_iff.mp member) with declared | ruled
    · obtain ⟨c,known,rfl⟩ := List.mem_map.mp declared
      rw [declared_chainLine w table (legible c known)] at shown
      exact ⟨c,known,Option.some.inj shown⟩
    · obtain ⟨c,_,among⟩ := List.mem_flatMap.mp ruled
      obtain ⟨rule,_,rfl⟩ := List.mem_map.mp among
      rw [declared_ruleLine] at shown
      cases shown
  · rintro ⟨c,known,rfl⟩
    refine ⟨_,⟨w.chainLine table c.1,perm.mem_iff.mpr (List.mem_append_left _ ?_),rfl⟩,
      declared_chainLine w table (legible c known)⟩
    exact List.mem_map_of_mem known

end HostNet.Firewall.Iptables.Command
