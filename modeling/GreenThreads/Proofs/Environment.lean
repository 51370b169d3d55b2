import GreenThreads.Proofs.Settings

/-!
# Configurations from an environment of bytes

A variable that is set to the bytes of a text gives the value that the text denotes, and one that is
not set gives its default. One whose bytes are no text is taken for one that is not set: it is the
only malformed value that is not reported.
-/

namespace GreenThreads.Config

/-- The bytes of a variable are those of a text, if it is set. -/
def IsText (bytes? : Option ByteArray) : Prop :=
  ∀ bytes ∈ bytes?, bytes.IsValidUTF8

section Value

variable {α : Type} (denotes : List Char → α → Prop) (default : α)

/-- The value of a variable that is set to the bytes of a text which denotes it, or the default of
one that is not set. -/
inductive Carries : Option ByteArray → α → Prop
  | unset : Carries none default
  | set {text : String} {value : α} (hdenotes : denotes text.toList value) :
      Carries (some text.toByteArray) value

/-- The value that a variable is read as. -/
inductive Takes : Option ByteArray → α → Prop
  | carried {bytes? : Option ByteArray} {value : α}
      (hcarries : Carries denotes default bytes? value) : Takes bytes? value
  | stray {bytes : ByteArray} (hstray : ¬bytes.IsValidUTF8) : Takes (some bytes) default

end Value

theorem fromUTF8?_toByteArray (text : String) : String.fromUTF8? text.toByteArray = some text := by
  rw [String.fromUTF8?, dif_pos text.isValidUTF8]
  rfl

section Bytes

variable {α : Type} {denotes : List Char → α → Prop} {default value : α}
  {bytes? : Option ByteArray}

theorem carries_iff :
    Carries denotes default bytes? value ↔ Takes denotes default bytes? value ∧ IsText bytes? := by
  constructor
  · intro h
    refine ⟨.carried h, ?_⟩
    cases h with
    | unset => simp [IsText]
    | @set text _ _ => simpa [IsText] using text.isValidUTF8
  · rintro ⟨hcarries | hstray, htext⟩
    · exact hcarries
    · exact absurd (htext _ rfl) hstray

theorem takes_iff_holds :
    Takes denotes default bytes? value ↔
      Holds denotes default (bytes?.bind String.fromUTF8?) value := by
  constructor
  · rintro ((_ | hdenotes) | hstray)
    · exact .unset
    · rw [Option.bind_some, fromUTF8?_toByteArray]
      exact .set hdenotes
    · rw [Option.bind_some, String.fromUTF8?, dif_neg hstray]
      exact .unset
  · intro h
    cases bytes? with
    | none =>
      cases h with
      | unset => exact .carried .unset
    | some bytes =>
      rw [Option.bind_some, String.fromUTF8?] at h
      by_cases hvalid : bytes.IsValidUTF8
      · rw [dif_pos hvalid] at h
        cases h with
        | set hdenotes => exact .carried (.set hdenotes)
      · rw [dif_neg hvalid] at h
        cases h with
        | unset => exact .stray hvalid

end Bytes

theorem read_eq_ok_iff {lookup : String → Option String} {config : Config} :
    read lookup = .ok config ↔
      Holds Size.Denotes 2097152 (lookup stackSizeVariable) config.stackSize ∧
        Holds Chooses true (lookup guardPageVariable) config.guardPage ∧
        16384 ≤ config.stackSize ∧ config.stackSize ≤ 1073741824 := by
  constructor
  · intro hread
    have hanswers := answers_read lookup
    rw [hread] at hanswers
    cases hanswers with
    | accepted hsize hguard hge hle => exact ⟨hsize, hguard, hge, hle⟩
  · rintro ⟨hsize, hguard, hge, hle⟩
    exact read_eq_of_answers (.accepted hsize hguard hge hle)

theorem ofEnvironment_eq_ok_iff {environment : String → Option ByteArray} {config : Config} :
    ofEnvironment environment = .ok config ↔
      Takes Size.Denotes 2097152 (environment "COOP_THREADS_STACK_SIZE") config.stackSize ∧
        Takes Chooses true (environment "COOP_THREADS_GUARD_PAGE") config.guardPage ∧
        16384 ≤ config.stackSize ∧ config.stackSize ≤ 1073741824 := by
  rw [ofEnvironment, read_eq_ok_iff, takes_iff_holds, takes_iff_holds]
  rfl

/-- A configuration is read from an environment exactly if each variable is read as its value and
the stack size is allowed. The values are those that the variables carry exactly if the bytes of
both variables are text. -/
theorem environment_taken (environment : String → Option ByteArray) (config : Config) :
    (ofEnvironment environment = .ok config ↔
        Takes Size.Denotes 2097152 (environment "COOP_THREADS_STACK_SIZE") config.stackSize ∧
          Takes Chooses true (environment "COOP_THREADS_GUARD_PAGE") config.guardPage ∧
          16384 ≤ config.stackSize ∧ config.stackSize ≤ 1073741824) ∧
      (ofEnvironment environment = .ok config ∧
          IsText (environment "COOP_THREADS_STACK_SIZE") ∧
          IsText (environment "COOP_THREADS_GUARD_PAGE") ↔
        Carries Size.Denotes 2097152 (environment "COOP_THREADS_STACK_SIZE") config.stackSize ∧
          Carries Chooses true (environment "COOP_THREADS_GUARD_PAGE") config.guardPage ∧
          16384 ≤ config.stackSize ∧ config.stackSize ≤ 1073741824) := by
  refine ⟨ofEnvironment_eq_ok_iff, ?_⟩
  rw [ofEnvironment_eq_ok_iff, carries_iff, carries_iff]
  constructor
  · rintro ⟨⟨hsize, hguard, hbounds⟩, hsizeText, hguardText⟩
    exact ⟨⟨hsize, hsizeText⟩, ⟨hguard, hguardText⟩, hbounds⟩
  · rintro ⟨⟨hsize, hsizeText⟩, ⟨hguard, hguardText⟩, hbounds⟩
    exact ⟨⟨hsize, hguard, hbounds⟩, hsizeText, hguardText⟩

/-- Not every configuration holds what the variables carry: a single byte that no text has is set
for the stack size, and the default is used without notice. -/
theorem environment_stray :
    ¬∀ (environment : String → Option ByteArray) (config : Config),
      ofEnvironment environment = .ok config →
        Carries Size.Denotes 2097152 (environment "COOP_THREADS_STACK_SIZE") config.stackSize ∧
          Carries Chooses true (environment "COOP_THREADS_GUARD_PAGE") config.guardPage := by
  intro hcarries
  let stray : ByteArray := ⟨#[0xFF]⟩
  let environment (name : String) : Option ByteArray :=
    if name = "COOP_THREADS_STACK_SIZE" then some stray else none
  have hstray : ¬stray.IsValidUTF8 := by decide
  have hread : ofEnvironment environment = .ok { stackSize := 2097152, guardPage := true } :=
    ofEnvironment_eq_ok_iff.2
      ⟨.stray hstray, .carried .unset, by decide, by decide⟩
  obtain ⟨hsize, -⟩ := hcarries environment _ hread
  exact hstray ((carries_iff.1 hsize).2 stray rfl)

end GreenThreads.Config
