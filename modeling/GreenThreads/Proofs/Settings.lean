import GreenThreads.Config
import GreenThreads.Proofs.SizeTexts
import Mathlib.Tactic.SplitIfs

/-!
# Configurations from settings

What a kernel thread is configured with depends on two settings alone. A malformed stack size is
reported before a malformed guard page, and both before a size out of bounds. Every configuration
that is allowed can be written down in the settings.
-/

namespace GreenThreads.Config

/-- The words that stand for each choice of a guard page. -/
def guardWords : Bool → List (List Char)
  | true => ["1".toList, "true".toList, "yes".toList, "on".toList]
  | false => ["0".toList, "false".toList, "no".toList, "off".toList]

/-- A guard page text is one of the words in any case, between blanks. -/
inductive Chooses : List Char → Bool → Prop
  | intro {before word after : List Char} {guardPage : Bool} (hbefore : Text.Blanks before)
      (hword : word.map Char.toLower ∈ guardWords guardPage)
      (hafter : Text.Blanks after) : Chooses (before ++ word ++ after) guardPage

/-- The value of a setting whose texts denote values: its default if it is not set. -/
inductive Holds {α : Type} (denotes : List Char → α → Prop) (default : α) :
    Option String → α → Prop
  | unset : Holds denotes default none default
  | set {text : String} {value : α} (hdenotes : denotes text.toList value) :
      Holds denotes default (some text) value

/-- A setting is malformed if it is set to a text that denotes nothing. -/
def Malformed {α : Type} (denotes : List Char → α → Prop) (setting? : Option String) : Prop :=
  ∃ text, setting? = some text ∧ ∀ value, ¬denotes text.toList value

/-- What the two settings are answered with. Stacks take two megabytes if nothing else is set, and
from sixteen kilobytes to one gigabyte. -/
inductive Answers (size? guard? : Option String) : Except SchedulerError Config → Prop
  | badSize (hsize : Malformed Size.Denotes size?) :
      Answers size? guard? (.error (.invalidEnvironment "COOP_THREADS_STACK_SIZE"))
  | badGuard {size : Nat} (hsize : Holds Size.Denotes 2097152 size? size)
      (hguard : Malformed Chooses guard?) :
      Answers size? guard? (.error (.invalidEnvironment "COOP_THREADS_GUARD_PAGE"))
  | tooSmall {size : Nat} {guardPage : Bool} (hsize : Holds Size.Denotes 2097152 size? size)
      (hguard : Holds Chooses true guard? guardPage) (hsmall : size < 16384) :
      Answers size? guard? (.error (.stackTooSmall size 16384))
  | tooLarge {size : Nat} {guardPage : Bool} (hsize : Holds Size.Denotes 2097152 size? size)
      (hguard : Holds Chooses true guard? guardPage) (hlarge : 1073741824 < size) :
      Answers size? guard? (.error (.stackTooLarge size 1073741824))
  | accepted {size : Nat} {guardPage : Bool} (hsize : Holds Size.Denotes 2097152 size? size)
      (hguard : Holds Chooses true guard? guardPage) (hge : 16384 ≤ size)
      (hle : size ≤ 1073741824) :
      Answers size? guard? (.ok { stackSize := size, guardPage })

/-- Blanks are in no case, and no blank stands in a guard word. -/
theorem trimmed_of_mem_guardWords {word : List Char} {guardPage : Bool}
    (h : word.map Char.toLower ∈ guardWords guardPage) : Text.Trimmed word := by
  apply Text.trimmed_of_forall
  intro c hc
  apply Bool.eq_false_iff.2
  intro hblank
  have hwords : ∀ guardPage, ∀ lower ∈ guardWords guardPage, ¬lower.any Text.isBlank := by decide
  have hlower : Text.isBlank c.toLower = true := by
    rw [Text.toLower_of_isBlank hblank]
    exact hblank
  exact hwords guardPage _ h (List.any_eq_true.2 ⟨_, List.mem_map_of_mem hc, hlower⟩)

theorem readGuard?_eq (text : List Char) :
    readGuard? text =
      if (Text.trim text).map Char.toLower ∈ guardWords true then some true
      else if (Text.trim text).map Char.toLower ∈ guardWords false then some false
      else none := rfl

theorem readGuard?_eq_some_iff {text : List Char} {guardPage : Bool} :
    readGuard? text = some guardPage ↔
      (Text.trim text).map Char.toLower ∈ guardWords guardPage := by
  have hapart : ∀ word ∈ guardWords false, word ∉ guardWords true := by decide
  rw [readGuard?_eq]
  cases guardPage with
  | true =>
    by_cases htrue : (Text.trim text).map Char.toLower ∈ guardWords true
    · simp [htrue]
    · by_cases hfalse : (Text.trim text).map Char.toLower ∈ guardWords false <;>
        simp [htrue, hfalse]
  | false =>
    by_cases hfalse : (Text.trim text).map Char.toLower ∈ guardWords false
    · simp [hapart _ hfalse, hfalse]
    · simp [hfalse]

theorem chooses_iff {text : List Char} {guardPage : Bool} :
    Chooses text guardPage ↔
      (Text.trim text).map Char.toLower ∈ guardWords guardPage := by
  constructor
  · rintro ⟨hbefore, hword, hafter⟩
    rw [Text.trim_append_append hbefore (trimmed_of_mem_guardWords hword) hafter]
    exact hword
  · intro hword
    obtain ⟨before, after, hbefore, hafter, htext⟩ := Text.exists_trim text
    have hchooses := Chooses.intro hbefore hword hafter
    rwa [← htext] at hchooses

section Setting

variable {α : Type} {name : String} {default : α} {read? : List Char → Option α}
  {denotes : List Char → α → Prop} {setting? : Option String}

theorem setting_eq_ok_iff (hread : ∀ text value, read? text = some value ↔ denotes text value)
    {value : α} :
    setting name default read? setting? = .ok value ↔ Holds denotes default setting? value := by
  constructor
  · intro h
    cases setting? with
    | none =>
      obtain rfl := Except.ok.inj h
      exact .unset
    | some text =>
      cases hvalue : read? text.toList with
      | none => simp [setting, hvalue] at h
      | some found =>
        simp only [setting, hvalue, Except.ok.injEq] at h
        exact .set ((hread _ _).1 (h ▸ hvalue))
  · rintro (_ | hdenotes)
    · rfl
    · rw [setting, (hread _ _).2 hdenotes]

theorem setting_eq_error_iff (hread : ∀ text value, read? text = some value ↔ denotes text value)
    {error : SchedulerError} :
    setting name default read? setting? = .error error ↔
      Malformed denotes setting? ∧ error = .invalidEnvironment name := by
  have hnone (text : List Char) : read? text = none ↔ ∀ value, ¬denotes text value := by
    simp only [Option.eq_none_iff_forall_ne_some, ne_eq, hread]
  constructor
  · intro h
    cases setting? with
    | none => simp [setting] at h
    | some text =>
      cases hvalue : read? text.toList with
      | none =>
        simp only [setting, hvalue, Except.error.injEq] at h
        exact ⟨⟨text, rfl, (hnone _).1 hvalue⟩, h.symm⟩
      | some found => simp [setting, hvalue] at h
  · rintro ⟨⟨text, rfl, hbad⟩, rfl⟩
    rw [setting, (hnone _).2 hbad]

end Setting

section Read

variable {lookup : String → Option String}

theorem size_eq_ok_iff {size : Nat} :
    setting stackSizeVariable defaultStackSize Size.read? (lookup stackSizeVariable) = .ok size ↔
      Holds Size.Denotes 2097152 (lookup stackSizeVariable) size :=
  setting_eq_ok_iff fun _ _ => ⟨Size.denotes_of_read?, Size.read?_of_denotes⟩

theorem guardPage_eq_ok_iff {guardPage : Bool} :
    setting guardPageVariable true readGuard? (lookup guardPageVariable) = .ok guardPage ↔
      Holds Chooses true (lookup guardPageVariable) guardPage :=
  setting_eq_ok_iff fun _ _ => readGuard?_eq_some_iff.trans chooses_iff.symm

theorem size_eq_error_iff {error : SchedulerError} :
    setting stackSizeVariable defaultStackSize Size.read? (lookup stackSizeVariable) =
        .error error ↔
      Malformed Size.Denotes (lookup stackSizeVariable) ∧
        error = .invalidEnvironment stackSizeVariable :=
  setting_eq_error_iff fun _ _ => ⟨Size.denotes_of_read?, Size.read?_of_denotes⟩

theorem guardPage_eq_error_iff {error : SchedulerError} :
    setting guardPageVariable true readGuard? (lookup guardPageVariable) = .error error ↔
      Malformed Chooses (lookup guardPageVariable) ∧
        error = .invalidEnvironment guardPageVariable :=
  setting_eq_error_iff fun _ _ => readGuard?_eq_some_iff.trans chooses_iff.symm

theorem read_of_settings {size : Nat} {guardPage : Bool}
    (hsize : Holds Size.Denotes 2097152 (lookup stackSizeVariable) size)
    (hguard : Holds Chooses true (lookup guardPageVariable) guardPage) :
    read lookup =
      if size < 16384 then .error (.stackTooSmall size 16384)
      else if 1073741824 < size then .error (.stackTooLarge size 1073741824)
      else .ok { stackSize := size, guardPage } := by
  have hvalidate : validate { stackSize := size, guardPage } =
      if size < 16384 then .error (.stackTooSmall size 16384)
      else if 1073741824 < size then .error (.stackTooLarge size 1073741824)
      else .ok () := rfl
  calc
    read lookup = (validate { stackSize := size, guardPage }).bind fun _ =>
        .ok { stackSize := size, guardPage } := by
      simp only [read, size_eq_ok_iff.2 hsize, guardPage_eq_ok_iff.2 hguard]
      rfl
    _ = _ := by
      rw [hvalidate]
      split_ifs <;> rfl

theorem answers_read (lookup : String → Option String) :
    Answers (lookup stackSizeVariable) (lookup guardPageVariable) (read lookup) := by
  cases hsize :
    setting stackSizeVariable defaultStackSize Size.read? (lookup stackSizeVariable) with
  | error error =>
    obtain ⟨hbad, rfl⟩ := size_eq_error_iff.1 hsize
    simp only [read, hsize]
    exact .badSize hbad
  | ok size =>
    cases hguard : setting guardPageVariable true readGuard? (lookup guardPageVariable) with
    | error error =>
      obtain ⟨hbad, rfl⟩ := guardPage_eq_error_iff.1 hguard
      simp only [read, hsize, hguard]
      exact .badGuard (size_eq_ok_iff.1 hsize) hbad
    | ok guardPage =>
      rw [size_eq_ok_iff] at hsize
      rw [guardPage_eq_ok_iff] at hguard
      rw [read_of_settings hsize hguard]
      split
      · exact .tooSmall hsize hguard ‹_›
      · split
        · exact .tooLarge hsize hguard ‹_›
        · exact .accepted hsize hguard (by omega) (by omega)

theorem read_eq_of_answers {result : Except SchedulerError Config}
    (h : Answers (lookup stackSizeVariable) (lookup guardPageVariable) result) :
    read lookup = result := by
  cases h with
  | badSize hbad =>
    have hsize := size_eq_error_iff.2 ⟨hbad, rfl⟩
    simp only [read, hsize]
    rfl
  | badGuard hsize hbad =>
    have hguard := guardPage_eq_error_iff.2 ⟨hbad, rfl⟩
    simp only [read, size_eq_ok_iff.2 hsize, hguard]
    rfl
  | tooSmall hsize hguard hsmall => rw [read_of_settings hsize hguard, if_pos hsmall]
  | tooLarge hsize hguard hlarge =>
    rw [read_of_settings hsize hguard, if_neg (by omega), if_pos hlarge]
  | accepted hsize hguard hge hle =>
    rw [read_of_settings hsize hguard, if_neg (by omega), if_neg (by omega)]

/-- Both settings as a configuration that is allowed spells them. -/
theorem answers_of_spells {config : Config} {size guard : String}
    (hvalid : config.validate = .ok ()) (hsize : Size.Spells size.toList config.stackSize)
    (hguard : Chooses guard.toList config.guardPage) :
    Answers (some size) (some guard) (.ok config) := by
  obtain ⟨hge, hle⟩ := validate_eq_ok_iff.1 hvalid
  have hword : config.stackSize < UInt64.size := Nat.lt_of_le_of_lt hle (by decide)
  exact .accepted (.set (Size.denotes_of_spells hsize hword)) (.set hguard) hge hle

end Read

/-- Reading a configuration answers every pair of settings as specified and looks at nothing else.
What it gives is allowed, and every configuration that is allowed is read from any of its
spellings. -/
theorem read_specified (lookup : String → Option String) :
    (∀ result, read lookup = result ↔
        Answers (lookup "COOP_THREADS_STACK_SIZE") (lookup "COOP_THREADS_GUARD_PAGE") result) ∧
      (∀ other : String → Option String,
        other "COOP_THREADS_STACK_SIZE" = lookup "COOP_THREADS_STACK_SIZE" →
        other "COOP_THREADS_GUARD_PAGE" = lookup "COOP_THREADS_GUARD_PAGE" →
        read other = read lookup) ∧
      (∀ config, read lookup = .ok config → config.validate = .ok ()) ∧
      ∀ (config : Config) (size guard : String), config.validate = .ok () →
        lookup "COOP_THREADS_STACK_SIZE" = some size →
        Size.Spells size.toList config.stackSize →
        lookup "COOP_THREADS_GUARD_PAGE" = some guard →
        Chooses guard.toList config.guardPage → read lookup = .ok config := by
  refine ⟨fun result => ⟨?_, read_eq_of_answers⟩, ?_, ?_, ?_⟩
  · rintro rfl
    exact answers_read lookup
  · intro other hsize hguard
    apply read_eq_of_answers
    rw [stackSizeVariable, guardPageVariable, hsize, hguard]
    exact answers_read lookup
  · intro config hread
    have hanswers := answers_read lookup
    rw [hread] at hanswers
    cases hanswers with
    | accepted hsize hguard hge hle => exact validate_eq_ok_iff.2 ⟨hge, hle⟩
  · intro config size guard hvalid hsizeSet hsize hguardSet hguard
    apply read_eq_of_answers
    rw [stackSizeVariable, guardPageVariable, hsizeSet, hguardSet]
    exact answers_of_spells hvalid hsize hguard

/-- A size in kilobytes after a blank, and the word `off` in mixed case before one. -/
theorem read_specified_kilobytes :
    (read fun name => if name = "COOP_THREADS_STACK_SIZE" then some " 64K" else some "oFF\t") =
      .ok { stackSize := 65536, guardPage := false } := by
  let lookup (name : String) : Option String :=
    if name = "COOP_THREADS_STACK_SIZE" then some " 64K" else some "oFF\t"
  obtain ⟨-, -, -, hspelled⟩ := read_specified lookup
  have hsize :
      Size.Spells ([' '] ++ ((Text.decimal (65536 / 1024)).toList ++ ['K']) ++ []) 65536 :=
    .scaled (by decide) (by decide) (by decide) (by decide)
  have hguard : Chooses ([] ++ ['o', 'F', 'F'] ++ ['\t']) false :=
    .intro (by decide) (by decide) (by decide)
  have hsizeText : " 64K".toList =
      [' '] ++ ((Text.decimal (65536 / 1024)).toList ++ ['K']) ++ [] := by decide
  have hguardText : "oFF\t".toList = [] ++ ['o', 'F', 'F'] ++ ['\t'] := by decide
  exact hspelled { stackSize := 65536, guardPage := false } " 64K" "oFF\t" rfl rfl
    (hsizeText ▸ hsize) rfl (hguardText ▸ hguard)

end GreenThreads.Config
