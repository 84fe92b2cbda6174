import HostNet.Proofs.EncodedText
import HostNet.Proofs.ParameterFiles
import Mathlib.Data.List.DropRight
import Mathlib.Data.List.Forall2

namespace HostNet.Text

-- A text is what another is without the blanks at its end.
structure Trimmed (value text : String) : Prop where
  blanks : ∃ tail, value.toList = text.toList ++ tail ∧ ∀ c ∈ tail, isBlank c = true
  visible : ∀ c, text.toList.getLast? = some c → isBlank c = false

theorem trimEnd_trimmed (value : String) : Trimmed value (trimEnd value) := by
  have dropped : (trimEnd value).toList = value.toList.rdropWhile isBlank := String.toList_ofList
  constructor
  · refine ⟨value.toList.rtakeWhile isBlank,?_,fun c => List.mem_rtakeWhile_imp⟩
    rw [dropped,List.rdropWhile_append_rtakeWhile]
  · intro c last
    rw [dropped] at last
    obtain ⟨filled,rfl⟩ := List.mem_getLast?_eq_getLast last
    exact Bool.eq_false_iff.mpr (List.rdropWhile_last_not isBlank _ filled)

end HostNet.Text

namespace HostNet.Sysctl

-- Of the dots and slashes of a name the first one is the given one.
def LedBy (separator : Char) (name : List Char) : Prop :=
  ∃ before after, name = before ++ separator :: after ∧ ∀ c ∈ before, c ≠ '.' ∧ c ≠ '/'

-- A name is dotted unless its first separator is a slash.
def Dotted (name : String) : Prop := ¬LedBy '/' name.toList

-- What stands in one spelling where the other has a character.
inductive Exchanged : Char → Char → Prop where
  | dot : Exchanged '.' '/'
  | slash : Exchanged '/' '.'
  | other (plain : c ≠ '.' ∧ c ≠ '/') : Exchanged c c

-- One name is the other with all dots and slashes exchanged.
def Respelled (one other : String) : Prop := List.Forall₂ Exchanged one.toList other.toList

section Characters
variable {c d : Char} {name : List Char}

theorem exchange_plain (plain : c ≠ '.' ∧ c ≠ '/') : exchange c = c := by
  rw [exchange,if_neg plain.1,if_neg plain.2]

theorem exchange_twice : Function.Involutive exchange := by
  intro c
  by_cases dot : c = '.'
  · subst dot; rfl
  · by_cases slash : c = '/'
    · subst slash; rfl
    · rw [exchange_plain ⟨dot,slash⟩,exchange_plain ⟨dot,slash⟩]

theorem exchanged_iff : Exchanged c d ↔ exchange c = d := by
  constructor
  · intro exchanged
    cases exchanged with
    | dot => rfl
    | slash => rfl
    | other plain => exact exchange_plain plain
  · rintro rfl
    by_cases dot : c = '.'
    · subst dot; exact .dot
    · by_cases slash : c = '/'
      · subst slash; exact .slash
      · rw [exchange_plain ⟨dot,slash⟩]; exact .other ⟨dot,slash⟩

theorem exchange_names : Function.Involutive (List.map exchange) := by
  intro name
  rw [List.map_map,exchange_twice.comp_self,List.map_id]

theorem respelled_iff {one other : String} : Respelled one other ↔ other.toList = one.toList.map exchange := by
  have same : Exchanged = fun c d => exchange c = d := by
    funext c d
    exact propext exchanged_iff
  rw [Respelled,same,← List.forall₂_map_left_iff,List.forall₂_eq_eq_eq]
  exact eq_comm

end Characters

section Leading
variable {separator : Char} {name : List Char}

theorem led_iff (sign : separator = '.' ∨ separator = '/') :
    LedBy separator name ↔ name.find? (fun c => c = '.' || c = '/') = some separator := by
  rw [List.find?_eq_some_iff_append]
  simp [LedBy,sign]

-- Separators lead to separators, and what is before the first one stays as it is.
theorem LedBy.exchanged (led : LedBy separator name) : LedBy (exchange separator) (name.map exchange) := by
  obtain ⟨before,after,rfl,plain⟩ := led
  refine ⟨before.map exchange,after.map exchange,List.map_append,?_⟩
  intro c member
  obtain ⟨d,among,rfl⟩ := List.mem_map.mp member
  rw [exchange_plain (plain d among)]
  exact plain d among

theorem led_cases (name : List Char) :
    (∀ c ∈ name, c ≠ '.' ∧ c ≠ '/') ∨ LedBy '.' name ∨ LedBy '/' name := by
  cases found : name.find? fun c => c = '.' || c = '/' with
  | none =>
    refine .inl fun c member => ?_
    simpa using List.find?_eq_none.mp found c member
  | some c =>
    have sign : c = '.' ∨ c = '/' := by simpa using List.find?_some found
    rcases sign with rfl | rfl
    · exact .inr (.inl ((led_iff (.inl rfl)).mpr found))
    · exact .inr (.inr ((led_iff (.inr rfl)).mpr found))

theorem led_once (first : LedBy '.' name) (second : LedBy '/' name) : False := by
  have same := ((led_iff (.inl rfl)).mp first).symm.trans ((led_iff (.inr rfl)).mp second)
  exact absurd (Option.some.inj same) (by decide)

theorem exchange_absent (plain : ∀ c ∈ name, c ≠ '.' ∧ c ≠ '/') : name.map exchange = name :=
  (List.map_congr_left fun c member => exchange_plain (plain c member)).trans (List.map_id name)

theorem keyChars_plain (plain : ∀ c ∈ name, c ≠ '.' ∧ c ≠ '/') : keyChars name = name := by
  have absent : name.find? (fun c => c = '.' || c = '/') = none := by simpa using plain
  rw [keyChars,absent]

theorem keyChars_slashed (led : LedBy '/' name) : keyChars name = name := by
  rw [keyChars,(led_iff (.inr rfl)).mp led]
  rfl

theorem keyChars_dotted (dotted : ¬LedBy '/' name) : keyChars name = name.map exchange := by
  rcases led_cases name with plain | led | led
  · rw [keyChars_plain plain,exchange_absent plain]
  · rw [keyChars,(led_iff (.inl rfl)).mp led]
    rfl
  · exact absurd led dotted

theorem keyChars_again (name : List Char) : keyChars (keyChars name) = keyChars name := by
  rcases led_cases name with plain | led | led
  · rw [keyChars_plain plain,keyChars_plain plain]
  · rw [keyChars_dotted fun other => led_once led other]
    exact keyChars_slashed led.exchanged
  · rw [keyChars_slashed led,keyChars_slashed led]

end Leading

theorem key_chars (name : String) : (key name).toList = keyChars name.toList := String.toList_ofList

theorem key_again (name : String) : key (key name) = key name := by
  rw [key,key_chars,keyChars_again]
  rfl

theorem key_slashed {k : String} (led : LedBy '/' k.toList) : key k = k := by
  rw [key,keyChars_slashed led,String.ofList_toList]

theorem key_dotted {d k : String} (dotted : Dotted d) : key d = k ↔ Respelled d k := by
  rw [respelled_iff,← keyChars_dotted dotted,← key_chars,String.toList_inj,eq_comm]

-- The other spelling of a path is dotted.
theorem Respelled.dotted {d k : String} (respelled : Respelled k d) (led : LedBy '/' k.toList) : Dotted d := by
  rw [Dotted,respelled_iff.mp respelled]
  exact led_once led.exchanged

theorem Respelled.symm {d k : String} (respelled : Respelled k d) : Respelled d k := by
  rw [respelled_iff] at respelled ⊢
  rw [respelled,exchange_names]

theorem respelled_once (k : String) : ∃! d, Respelled k d := by
  refine ⟨.ofList (k.toList.map exchange),respelled_iff.mpr String.toList_ofList,?_⟩
  intro d respelled
  rw [← respelled_iff.mp respelled,String.ofList_toList]

theorem key_respelled {d k : String} (led : LedBy '/' k.toList) (respelled : Respelled k d) : key d = k :=
  (key_dotted (respelled.dotted led)).mpr respelled.symm

theorem dotted_unique {one other : String} (first : Dotted one) (second : Dotted other) (same : key one = key other) :
    one = other := by
  have chars := respelled_iff.mp ((key_dotted first).mp same)
  have chars' := respelled_iff.mp ((key_dotted second).mp rfl)
  exact String.toList_injective (exchange_names.injective (chars.symm.trans chars'))

section Files
variable {files files' : Files} {root name other value : String}

theorem path_same (same : key other = key name) : path root other = path root name :=
  congrArg (Path.join root) same

-- What was written under a name is read under each that has the same key.
theorem set_read (same : key other = key name) (ran : set root name value files = .ok () files') :
    files'.read (path root other) = .ok value := by
  obtain ⟨place,writable,rfl⟩ := set_ok.mp ran
  rw [path_same same]
  exact Files.read_ok.mpr ⟨place,_,writable.written,Text.ofUtf8_utf8 value⟩

theorem get_read (read : files.read (path root name) = .ok value) :
    ∃ text, get root name files = .ok text files ∧ Text.Trimmed value text := by
  refine ⟨_,?_,Text.trimEnd_trimmed value⟩
  unfold get
  rw [read]

end Files

-- Both spellings of a parameter name one file: a path is its own key, and the key of its other spelling. What is written
-- under either is read under either, and no two dotted names have one key.
theorem spellings_agree :
    (∀ name, key (key name) = key name) ∧
    (∀ k, ∃! d, Respelled k d) ∧
    (∀ k d, LedBy '/' k.toList → Respelled k d → key k = k ∧ key d = k ∧
      ∀ root, path root d = path root k ∧ get root d = get root k ∧ set root d = set root k ∧
        ∀ one ∈ [k,d], ∀ other ∈ [k,d], ∀ value files files', set root one value files = .ok () files' →
          files'.read (path root other) = .ok value ∧
          ∃ text, get root other files' = .ok text files' ∧ Text.Trimmed value text) ∧
    ∀ one other, Dotted one → Dotted other → key one = key other → one = other := by
  refine ⟨key_again,respelled_once,?_,fun _ _ => dotted_unique⟩
  intro k d led respelled
  have own := key_slashed led
  have same : key d = key k := (key_respelled led respelled).trans own.symm
  have keys : ∀ name ∈ [k,d], key name = key k := by simp [same]
  refine ⟨own,key_respelled led respelled,fun root => ⟨?path,?get,?set,?written⟩⟩
  case path => exact path_same same
  case get =>
    unfold get
    rw [path_same same,same]
  case set =>
    unfold set
    rw [path_same same,same]
  case written =>
    intro one first other second value files files' ran
    have read := set_read ((keys other second).trans (keys one first).symm) ran
    exact ⟨read,get_read read⟩

-- The reverse path filter of an interface with a dot in its name.
def filterKey : String := "net/ipv4/conf/eth0.100/rp_filter"

def filterName : String := "net.ipv4.conf.eth0/100.rp_filter"

-- Here the interface and the number after the dot are parts of their own.
def partedName : String := "net.ipv4.conf.eth0.100.rp_filter"

def filterPlace : List String := ["net","ipv4","conf","eth0.100","rp_filter"]

def filterTree : Files :=
  ⟨[(filterPlace.take 1,.directory),(filterPlace.take 2,.directory),(filterPlace.take 3,.directory),
    (filterPlace.take 4,.directory),(filterPlace,.file "1\n".toUTF8.toList)]⟩

def loosened : Files := filterTree.put filterPlace (.file "2\n".toUTF8.toList)

theorem filter_loosened : LedBy '/' filterKey.toList ∧ Respelled filterKey filterName ∧
    set "/" filterName "2\n" filterTree = .ok () loosened ∧
    (∃ text, get "/" filterKey loosened = .ok text loosened ∧ Text.Trimmed "2\n" text) ∧
    Dotted filterName ∧ Dotted partedName ∧ key filterName ≠ key partedName := by
  have led : LedBy '/' filterKey.toList := (led_iff (.inr rfl)).mpr (by decide)
  have respelled : Respelled filterKey filterName := respelled_iff.mpr (by decide)
  have ran : set "/" filterName "2\n" filterTree = .ok () loosened :=
    set_ok.mpr ⟨filterPlace,⟨by decide +kernel,by decide +kernel,by decide +kernel,by decide +kernel⟩,rfl⟩
  have dotted : Dotted filterName ∧ Dotted partedName := by
    unfold Dotted
    rw [led_iff (.inr rfl),led_iff (.inr rfl)]
    decide
  have unlike : key filterName ≠ key partedName := fun same =>
    absurd (spellings_agree.2.2.2 filterName partedName dotted.1 dotted.2 same) (by decide)
  obtain ⟨-,-,same⟩ := spellings_agree.2.2.1 filterKey filterName led respelled
  obtain ⟨-,told⟩ := (same "/").2.2.2 filterName (by simp) filterKey (by simp) _ _ _ ran
  exact ⟨led,respelled,ran,told,dotted.1,dotted.2,unlike⟩

end HostNet.Sysctl
