import HostNet.Proofs.ChainTables
import HostNet.Proofs.CorrespondingSteps
import HostNet.Proofs.ListedChains

namespace HostNet.Firewall.Iptables.Command
open Step (Agree Corresponds Unrelated Keeps)
open Text (Word)

def answered (output : String) : Finished := ⟨output,"",some 0⟩

-- What the tool answers to the arguments after the table's name, and the chains that it leaves.
def execute (w : Manner) (table : String) (chains : Chains) : List String → Finished × Chains
  | ["-S"] => (answered (w.listing table chains),chains)
  | ["-N",chain] =>
    match chains.find? chain with
    | some _ => (w.refused ["-N",chain],chains)
    | none => (answered "",chains.put chain [])
  | "-C" :: chain :: rule =>
    match chains.find? chain with
    | some rules => (if rules.contains rule then answered "" else w.noRule rule,chains)
    | none => (w.noChain chain,chains)
  | "-A" :: chain :: rule =>
    match chains.find? chain with
    | some rules => (answered "",chains.put chain (rules ++ [rule]))
    | none => (w.noChain chain,chains)
  | "-D" :: chain :: rule =>
    match chains.find? chain with
    | some rules =>
      if rules.contains rule then (answered "",chains.put chain (rules.erase rule)) else (w.noRule rule,chains)
    | none => (w.noChain chain,chains)
  | ["-F",chain] =>
    match chains.find? chain with
    | some _ => (answered "",chains.put chain [])
    | none => (w.noChain chain,chains)
  | ["-X",chain] =>
    match chains.find? chain with
    | some [] => (answered "",chains.drop chain)
    | some _ => (w.refused ["-X",chain],chains)
    | none => (w.noChain chain,chains)
  | arguments => (w.refused arguments,chains)

def family? (name : String) : Option Family := [Family.v4,.v6].find? fun family => program family == name

-- A tool that keeps its tables in memory. While it is broken it refuses everything.
def tool (w : Manner) : Runner Memory := fun c m =>
  match m.failure,family? c.program,c.arguments with
  | none,some family,"--wait" :: "-t" :: table :: arguments =>
    let (f,chains) := execute w table (m.tables family table) arguments
    .ok f (m.put family table chains)
  | _,_,arguments => .ok (w.refused arguments) m

-- Failures that masquerading takes for the same.
def SameKind (e f : ToolError) : Prop := e.isNotFound = f.isNotFound

def SameNames (names others : List String) : Prop := ∀ chain, chain ∈ names ↔ chain ∈ others

variable {w : Manner} {m : Memory} {family : Family} {table chain : String} {rule : Rule} {arguments : List String}

section Answers
variable {f : Finished} {chains : Chains}

theorem tool_working (family : Family) (working : m.failure = none)
    (answer : execute w table (m.tables family table) arguments = (f,chains)) :
    tool w ⟨program family,"--wait" :: "-t" :: table :: arguments,none⟩ m = .ok f (m.put family table chains) := by
  have known : family? (program family) = some family := by cases family <;> decide
  simp only [tool,working,known,answer]

theorem tool_failing (w : Manner) (family : Family) (table : String) (arguments : List String)
    (failing : m.failure = some message) :
    tool w ⟨program family,"--wait" :: "-t" :: table :: arguments,none⟩ m =
      .ok (w.refused ("--wait" :: "-t" :: table :: arguments)) m := by
  simp only [tool,failing]

variable {n : Memory}

theorem run_done (ran : tool w ⟨program family,"--wait" :: arguments,none⟩ m = .ok f n) (done : f.code = some 0) :
    run (tool w) family arguments m = .ok f n := by
  refine (Step.bind_ok (Step.mapError_ok ran)).trans ?_
  simp only [Finished.success,done,beq_self_eq_true,if_true]
  rfl

theorem run_absent (ran : tool w ⟨program family,"--wait" :: arguments,none⟩ m = .ok f n) (absent : isAbsent f = true) :
    run (tool w) family arguments m = .error (.notFound (Text.trim f.errors)) n := by
  have failed : f.success = false := by
    have code := beq_iff_eq.mp (Bool.and_eq_true_iff.mp absent).1
    simp [Finished.success,code]
  refine (Step.bind_ok (Step.mapError_ok ran)).trans ?_
  simp only [failed,absent,Bool.false_eq_true,if_false,if_true]
  rfl

theorem run_refused (ran : tool w ⟨program family,"--wait" :: arguments,none⟩ m = .ok (w.refused more) n) :
    ∃ message, run (tool w) family arguments m = .error (.failed message) n := by
  obtain ⟨failed,other⟩ := w.refused_said more
  have unsuccessful : (w.refused more).success = false := by simpa [Finished.success] using failed
  unfold run
  rw [Step.bind_ok (Step.mapError_ok ran)]
  simp only [unsuccessful,other,Bool.false_eq_true,if_false]
  exact ⟨_,rfl⟩

theorem isAbsent_said {message : String} (known : message ∈ absentMessages) (code : f.code = some 1)
    (said : Text.occursIn message.toList f.errors.toList = true) : isAbsent f = true := by
  rw [isAbsent,code,Bool.and_eq_true]
  exact ⟨rfl,List.any_eq_true.mpr ⟨message,known,said⟩⟩

theorem noChain_absent (w : Manner) (chain : String) : isAbsent (w.noChain chain) = true :=
  isAbsent_said (by decide) (w.noChain_said chain).1 (w.noChain_said chain).2

theorem noRule_absent (w : Manner) (rule : Rule) : isAbsent (w.noRule rule) = true :=
  isAbsent_said (by decide) (w.noRule_said rule).1 (w.noRule_said rule).2

end Answers

-- What a request does to its table in memory, and what a command does to it.
inductive Follows (w : Manner) (chains : Chains) : Finished × Chains → Except ToolError Chains → Prop where
  | done (output : String) (changed : Chains) : Follows w chains (answered output,changed) (.ok changed)
  | noChain (chain : String) (message : String) : Follows w chains (w.noChain chain,chains) (.error (.notFound message))
  | noRule (rule : Rule) (message : String) : Follows w chains (w.noRule rule,chains) (.error (.notFound message))
  | refused (arguments : List String) (message : String) :
    Follows w chains (w.refused arguments,chains) (.error (.failed message))

theorem perform_ok (ran : run (tool w) family arguments m = .ok f n) :
    perform (tool w) family arguments m = .ok () n := (Step.bind_ok ran).trans rfl

theorem perform_error (ran : run (tool w) family arguments m = .error e n) :
    perform (tool w) family arguments m = .error e n := Step.bind_error ran

-- A request that is one command.
theorem perform_agrees {g : Chains → Except ToolError Chains} (family : Family)
    (follows : Follows w (m.tables family table) (execute w table (m.tables family table) arguments)
      (g (m.tables family table))) :
    Agree Unrelated SameKind ((perform (tool w) family ("-t" :: table :: arguments)).outcome m).1
        ((Memory.change family table g).outcome m).1 ∧
      ((perform (tool w) family ("-t" :: table :: arguments)).outcome m).2 =
        ((Memory.change family table g).outcome m).2 := by
  cases failing : m.failure with
  | some message =>
    obtain ⟨_,ran⟩ := run_refused (tool_failing w family table arguments failing)
    rw [Step.outcome_error (perform_error ran),Step.outcome_error (Memory.change_failing failing g)]
    exact ⟨.error rfl,rfl⟩
  | none =>
    cases answer : execute w table (m.tables family table) arguments with
    | mk f chains =>
      have ran := tool_working family failing answer
      rw [answer] at follows
      cases told : g (m.tables family table) with
      | ok changed =>
        rw [told] at follows
        cases follows with
        | done output =>
          rw [Step.outcome_ok (perform_ok (run_done ran rfl)),Step.outcome_ok (Memory.change_working failing told)]
          exact ⟨.ok trivial,rfl⟩
      | error e =>
        rw [Step.outcome_error (Memory.change_refused failing told)]
        rw [told] at follows
        cases follows with
        | noChain chain =>
          rw [Step.outcome_error (perform_error (run_absent ran (noChain_absent w chain))),Memory.put_same]
          exact ⟨.error rfl,rfl⟩
        | noRule rule =>
          rw [Step.outcome_error (perform_error (run_absent ran (noRule_absent w rule))),Memory.put_same]
          exact ⟨.error rfl,rfl⟩
        | refused more =>
          obtain ⟨_,ran⟩ := run_refused ran
          rw [Step.outcome_error (perform_error ran),Memory.put_same]
          exact ⟨.error rfl,rfl⟩

theorem perform_corresponds {g : Chains → Except ToolError Chains}
    (follows : ∀ chains, Follows w chains (execute w table chains arguments) (g chains)) :
    Corresponds Eq Unrelated SameKind (perform (tool w) family ("-t" :: table :: arguments))
      (Memory.change family table g) := by
  rintro m _ rfl
  exact perform_agrees family (follows _)

theorem newChain_corresponds (w : Manner) (family : Family) (table chain : String) :
    Corresponds Eq Unrelated SameKind (newChain (tool w) family table chain) (Memory.newChain family table chain) := by
  refine perform_corresponds fun chains => ?_
  simp only [execute]
  cases chains.find? chain with
  | none => exact .done _ _
  | some rules => exact .refused _ _

theorem delete_corresponds (w : Manner) (family : Family) (table chain : String) (rule : Rule) :
    Corresponds Eq Unrelated SameKind (delete (tool w) family table chain rule)
      (Memory.delete family table chain rule) := by
  refine perform_corresponds fun chains => ?_
  change Follows w chains (execute w table chains ("-D" :: chain :: rule)) _
  simp only [execute]
  cases chains.find? chain with
  | none => exact .noChain _ _
  | some rules =>
    by_cases there : rules.contains rule = true
    · simp only [there,if_true]
      exact .done _ _
    · simp only [if_neg there]
      exact .noRule _ _

theorem deleteChain_corresponds (w : Manner) (family : Family) (table chain : String) :
    Corresponds Eq Unrelated SameKind (deleteChain (tool w) family table chain)
      (Memory.deleteChain family table chain) := by
  refine perform_corresponds fun chains => ?_
  simp only [execute]
  cases chains.find? chain with
  | none => exact .noChain _ _
  | some rules =>
    cases rules with
    | nil => exact .done _ _
    | cons rule rest => exact .refused _ _

section Appending

theorem appendUnique_held (ran : run (tool w) family ("-t" :: table :: "-C" :: chain :: rule) m = .ok f n) :
    appendUnique (tool w) family table chain rule m = .ok () n := (Step.bind_ok (Step.attempt_ok ran)).trans rfl

theorem appendUnique_missing
    (ran : run (tool w) family ("-t" :: table :: "-C" :: chain :: rule) m = .error (.notFound message) n) :
    appendUnique (tool w) family table chain rule m =
      perform (tool w) family ("-t" :: table :: "-A" :: chain :: rule) n :=
  (Step.bind_ok (Step.attempt_error ran)).trans rfl

theorem appendUnique_refused
    (ran : run (tool w) family ("-t" :: table :: "-C" :: chain :: rule) m = .error (.failed message) n) :
    appendUnique (tool w) family table chain rule m = .error (.failed message) n :=
  (Step.bind_ok (Step.attempt_error ran)).trans rfl

end Appending

-- The rule is looked for first, and where it is not found it is appended, which fails if there is no chain.
theorem appendUnique_corresponds (w : Manner) (family : Family) (table chain : String) (rule : Rule) :
    Corresponds Eq Unrelated SameKind (appendUnique (tool w) family table chain rule)
      (Memory.appendUnique family table chain rule) := by
  rintro m _ rfl
  have appending {told : Finished} (working : m.failure = none) (absent : isAbsent told = true)
      (looked : execute w table (m.tables family table) ("-C" :: chain :: rule) = (told,m.tables family table)) :
      (appendUnique (tool w) family table chain rule).outcome m =
        (perform (tool w) family ("-t" :: table :: "-A" :: chain :: rule)).outcome m := by
    have ran := run_absent (tool_working family working looked) absent
    rw [Memory.put_same] at ran
    rw [Step.outcome,Step.outcome,appendUnique_missing ran]
  cases failing : m.failure with
  | some message =>
    obtain ⟨_,ran⟩ := run_refused (tool_failing w family table ("-C" :: chain :: rule) failing)
    rw [Step.outcome_error (appendUnique_refused ran),Memory.appendUnique,
      Step.outcome_error (Memory.change_failing failing _)]
    exact ⟨.error rfl,rfl⟩
  | none =>
    cases held : (m.tables family table).find? chain with
    | none =>
      rw [appending failing (noChain_absent w chain) (by simp only [execute,held])]
      refine perform_agrees family ?_
      simp only [execute,held]
      exact .noChain _ _
    | some rules =>
      by_cases there : rules.contains rule = true
      · have looked : execute w table (m.tables family table) ("-C" :: chain :: rule) =
            (answered "",m.tables family table) := by simp only [execute,held,there,if_true]
        have ran := run_done (tool_working family failing looked) rfl
        have kept : Memory.appendUnique family table chain rule m =
            .ok () (m.put family table (m.tables family table)) :=
          Memory.change_working failing (by rw [held]; simp only [there,if_true])
        rw [Step.outcome_ok (appendUnique_held ran),Step.outcome_ok kept]
        exact ⟨.ok trivial,rfl⟩
      · rw [appending failing (noRule_absent w rule) (by simp only [execute,held,if_neg there])]
        refine perform_agrees family ?_
        simp only [execute,held,if_neg there]
        exact .done _ _

-- Tables in which all chains have names that are read as they were written.
def Named (m : Memory) : Prop := ∀ family table, Legible (m.tables family table)

section Names
variable {chains : Chains} {rules : List Rule}

theorem initial_named : Named Memory.initial := by
  intro family table
  have builtIn : Legible (Chains.builtIn natTable) := by decide
  change Legible (Chains.builtIn table)
  by_cases nat : table = natTable
  · rw [nat]
    exact builtIn
  · rw [Chains.builtIn,if_neg nat]
    exact List.forall_mem_nil _

theorem put_legible (legible : Legible chains) (word : Word chain) (rules : List Rule) :
    Legible (chains.put chain rules) := by
  induction chains with
  | nil => simpa [Chains.put,Legible] using word
  | cons c rest ih =>
    obtain ⟨own,others⟩ := List.forall_mem_cons.mp legible
    unfold Chains.put
    split
    · exact List.forall_mem_cons.mpr ⟨word,others⟩
    · split
      · exact List.forall_mem_cons.mpr ⟨word,legible⟩
      · exact List.forall_mem_cons.mpr ⟨own,ih others⟩

theorem drop_legible (legible : Legible chains) (chain : String) : Legible (chains.drop chain) :=
  fun c member => legible c (List.mem_of_mem_filter member)

theorem held_legible (legible : Legible chains) (held : chains.find? chain = some rules) : Word chain := by
  have listed := Chains.names_contain chains chain
  rw [held,Option.isSome_some,List.contains_iff_mem] at listed
  obtain ⟨c,known,rfl⟩ := List.mem_map.mp listed
  exact legible c known

theorem put_named (named : Named m) (family : Family) (table : String) (legible : Legible chains) :
    Named (m.put family table chains) := by
  intro f t
  unfold Memory.put
  dsimp only
  split
  · exact legible
  · exact named f t

theorem change_named {g : Chains → Except ToolError Chains}
    (kept : ∀ chains changed, Legible chains → g chains = .ok changed → Legible changed) :
    Keeps Named (Memory.change family table g) := by
  intro m named
  cases failing : m.failure with
  | some message => rw [Step.outcome_error (Memory.change_failing failing g)]; exact named
  | none =>
    cases told : g (m.tables family table) with
    | error e => rw [Step.outcome_error (Memory.change_refused failing told)]; exact named
    | ok changed =>
      rw [Step.outcome_ok (Memory.change_working failing told)]
      exact put_named named family table (kept _ changed (named family table) told)

theorem newChain_named (family : Family) (table : String) (word : Word chain) :
    Keeps Named (Memory.newChain family table chain) := by
  refine change_named fun chains changed legible told => ?_
  cases held : chains.find? chain with
  | some rules => rw [held] at told; cases told
  | none =>
    rw [held] at told
    cases told
    exact put_legible legible word []

theorem appendUnique_named (family : Family) (table chain : String) (rule : Rule) :
    Keeps Named (Memory.appendUnique family table chain rule) := by
  refine change_named fun chains changed legible told => ?_
  cases held : chains.find? chain with
  | none => rw [held] at told; cases told
  | some rules =>
    rw [held] at told
    cases told
    split
    · exact legible
    · exact put_legible legible (held_legible legible held) _

theorem delete_named (family : Family) (table chain : String) (rule : Rule) :
    Keeps Named (Memory.delete family table chain rule) := by
  refine change_named fun chains changed legible told => ?_
  cases held : chains.find? chain with
  | none => rw [held] at told; cases told
  | some rules =>
    by_cases there : rules.contains rule = true
    · simp only [held,there,if_true] at told
      cases told
      exact put_legible legible (held_legible legible held) _
    · simp only [held,if_neg there] at told
      cases told

theorem deleteChain_named (family : Family) (table chain : String) :
    Keeps Named (Memory.deleteChain family table chain) := by
  refine change_named fun chains changed legible told => ?_
  rcases held : chains.find? chain with _ | _ | ⟨_,_⟩ <;> rw [held] at told <;> cases told
  exact drop_legible legible chain

theorem corresponds_named {A : α → β → Prop} {E : ε → ε' → Prop} {x : Step Memory ε α} {y : Step Memory ε' β}
    (same : Corresponds Eq A E x y) (kept : Keeps Named y) : Corresponds (fun m n => m = n ∧ Named n) A E x y := by
  rintro m _ ⟨rfl,named⟩
  obtain ⟨told,after⟩ := same m m rfl
  exact ⟨told,after,kept m named⟩

end Names

section Listing

theorem listed_working (w : Manner) (family : Family) (table : String) (working : m.failure = none) :
    listChains (tool w) family table m =
      .ok ((Path.pieces '\n' (w.listing table (m.tables family table)).toList).filterMap declared?) m := by
  have answer : execute w table (m.tables family table) ["-S"] =
      (answered (w.listing table (m.tables family table)),m.tables family table) := rfl
  have ran := run_done (tool_working family working answer) rfl
  rw [Memory.put_same] at ran
  exact (Step.bind_ok ran).trans rfl

theorem listed_failing (w : Manner) (family : Family) (table : String) (failing : m.failure = some message) :
    ∃ said, listChains (tool w) family table m = .error (.failed said) m := by
  obtain ⟨said,ran⟩ := run_refused (tool_failing w family table ["-S"] failing)
  exact ⟨said,Step.bind_error ran⟩

theorem listChains_corresponds (w : Manner) (family : Family) (table : String) :
    Corresponds (fun m n => m = n ∧ Named n) SameNames SameKind (listChains (tool w) family table)
      (Memory.listChains family table) := by
  rintro m _ ⟨rfl,named⟩
  cases failing : m.failure with
  | some message =>
    obtain ⟨_,ran⟩ := listed_failing w family table failing
    rw [Step.outcome_error ran,Step.outcome_error (Memory.listChains_failing failing)]
    exact ⟨.error rfl,rfl,named⟩
  | none =>
    rw [Step.outcome_ok (listed_working w family table failing),Step.outcome_ok (Memory.listChains_working failing)]
    exact ⟨.ok (listing_read w table (named family table)),rfl,named⟩

-- Whether the listing shows the chain decides which command is given; with either it is there without rules.
theorem clearChain_done (w : Manner) (family : Family) (table chain : String) (working : m.failure = none)
    (named : Named m) : clearChain (tool w) family table chain m =
      .ok () (m.put family table ((m.tables family table).put chain [])) := by
  have shown :
      ((Path.pieces '\n' (w.listing table (m.tables family table)).toList).filterMap declared?).contains chain =
        ((m.tables family table).find? chain).isSome := by
    rw [← Chains.names_contain,Bool.eq_iff_iff,List.contains_iff_mem,List.contains_iff_mem]
    exact listing_read w table (named family table) chain
  refine (Step.bind_ok (listed_working w family table working)).trans ?_
  rw [shown]
  cases held : (m.tables family table).find? chain with
  | some rules =>
    have answer : execute w table (m.tables family table) ["-F",chain] =
        (answered "",(m.tables family table).put chain []) := by simp only [execute,held]
    exact perform_ok (run_done (tool_working family working answer) rfl)
  | none =>
    have answer : execute w table (m.tables family table) ["-N",chain] =
        (answered "",(m.tables family table).put chain []) := by simp only [execute,held]
    exact perform_ok (run_done (tool_working family working answer) rfl)

theorem clearChain_corresponds (w : Manner) (family : Family) (table : String) (word : Word chain) :
    Corresponds (fun m n => m = n ∧ Named n) Unrelated SameKind (clearChain (tool w) family table chain)
      (Memory.clearChain family table chain) := by
  rintro m _ ⟨rfl,named⟩
  cases failing : m.failure with
  | some message =>
    obtain ⟨_,ran⟩ := listed_failing w family table failing
    have stopped : clearChain (tool w) family table chain m = .error _ m := Step.bind_error ran
    have refused : Memory.clearChain family table chain m = .error (.failed message) m :=
      Memory.change_failing failing _
    rw [Step.outcome_error stopped,Step.outcome_error refused]
    exact ⟨.error rfl,rfl,named⟩
  | none =>
    have cleared : Memory.clearChain family table chain m =
        .ok () (m.put family table ((m.tables family table).put chain [])) := Memory.change_working failing rfl
    rw [Step.outcome_ok (clearChain_done w family table chain failing named),Step.outcome_ok cleared]
    exact ⟨.ok trivial,rfl,put_named named family table (put_legible (named family table) word [])⟩

end Listing

end HostNet.Firewall.Iptables.Command
