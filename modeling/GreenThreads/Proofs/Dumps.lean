import GreenThreads.RunQueue
import Mathlib.Data.List.Basic
import Mathlib.Data.List.Forall2

/-!
# Dumps tell threads apart

A dump is a text of lines, eleven for each thread. Its lines can be told from the text, the threads
from the lines, and what is shown of a thread from its lines, so that two queues have the same dump
only if they show the same threads.
-/

namespace GreenThreads

namespace Text

/-- The value of a digit, up to the last one of base sixteen. -/
def digitOf (c : Char) : Nat :=
  (List.range 16).findIdx fun digit => digit.digitChar == c

/-- The number that digits denote, the most significant one first. -/
def numberOf (base : Nat) (digits : List Char) : Nat :=
  digits.foldl (fun number c => base * number + digitOf c) 0

theorem digitOf_digitChar {digit : Nat} (h : digit < 16) : digitOf digit.digitChar = digit := by
  have hdigits : ∀ digit : Fin 16, digitOf digit.val.digitChar = digit.val := by decide
  exact hdigits ⟨digit, h⟩

section Base

variable {base : Nat} (hbase : 1 < base)

include hbase

theorem numberOf_toDigits (hle : base ≤ 16) (number : Nat) :
    numberOf base (Nat.toDigits base number) = number := by
  induction number using Nat.strongRecOn with
  | ind number ih =>
    rw [Nat.toDigits_eq_if hbase]
    split
    · have hdigit : digitOf number.digitChar = number := digitOf_digitChar (by omega)
      simp [numberOf, hdigit]
    · have hlt : number % base < base := Nat.mod_lt _ (by omega)
      have hfront : numberOf base (Nat.toDigits base (number / base)) = number / base :=
        ih _ (Nat.div_lt_self (by omega) hbase)
      rw [numberOf] at hfront ⊢
      rw [List.foldl_append, hfront, List.foldl_cons, List.foldl_nil,
        digitOf_digitChar (Nat.lt_of_lt_of_le hlt hle), Nat.div_add_mod]

theorem toDigits_inj (hle : base ≤ 16) {first second : Nat}
    (h : Nat.toDigits base first = Nat.toDigits base second) : first = second := by
  rw [← numberOf_toDigits hbase hle first, h, numberOf_toDigits hbase hle]

theorem not_mem_toDigits {c : Char} (hc : ∀ digit, Nat.digitChar digit ≠ c) (number : Nat) :
    c ∉ Nat.toDigits base number := by
  induction number using Nat.strongRecOn with
  | ind number ih =>
    rw [Nat.toDigits_eq_if hbase]
    split
    · simpa using (hc number).symm
    · simpa [(hc _).symm] using ih _ (Nat.div_lt_self (by omega) hbase)

end Base

/-- What stands before the first mark, and after it, can be told from a text. -/
theorem append_cons_inj {mark : Char} {first second front back : List Char}
    (hfirst : mark ∉ first) (hsecond : mark ∉ second)
    (h : first ++ mark :: front = second ++ mark :: back) : first = second ∧ front = back := by
  -- One of the two fronts continues the other by a gap. A gap that is not empty would begin with
  -- the mark, and so bring it into the longer front.
  rcases List.append_eq_append_iff.1 h with ⟨gap, rfl, hgap⟩ | ⟨gap, rfl, hgap⟩
  · cases gap with
    | nil => simpa using hgap
    | cons c rest =>
      obtain ⟨rfl, -⟩ := List.cons.inj hgap
      exact absurd (List.mem_append_right _ List.mem_cons_self) hsecond
  · cases gap with
    | nil => simpa [eq_comm] using hgap
    | cons c rest =>
      obtain ⟨rfl, -⟩ := List.cons.inj hgap
      exact absurd (List.mem_append_right _ List.mem_cons_self) hfirst

theorem hexadecimal_inj {first second : Nat} (h : hexadecimal first = hexadecimal second) :
    first = second := by
  rw [hexadecimal, hexadecimal, String.append_right_inj, String.ofList_inj] at h
  exact toDigits_inj (by decide) (by decide) h

/-- Whether a text has no line break in it. -/
def IsLine (text : String) : Prop :=
  '\n' ∉ text.toList

instance (text : String) : Decidable (IsLine text) :=
  inferInstanceAs (Decidable (_ ∉ _))

theorem IsLine.append {first second : String} (hfirst : IsLine first) (hsecond : IsLine second) :
    IsLine (first ++ second) := by
  rw [IsLine, String.toList_append, List.mem_append]
  exact fun h => h.elim hfirst hsecond

theorem isLine_decimal (number : Nat) : IsLine (decimal number) := by
  rw [IsLine, decimal, String.toList_ofList]
  exact not_mem_toDigits (by decide) (fun _ => Nat.digitChar_ne _ (by decide)) number

theorem isLine_hexadecimal (number : Nat) : IsLine (hexadecimal number) := by
  refine IsLine.append (by decide) ?_
  rw [IsLine, String.toList_ofList]
  exact not_mem_toDigits (by decide) (fun _ => Nat.digitChar_ne _ (by decide)) number

/-- The text of some lines, each ended by a line break. -/
def unlines (lines : List String) : String :=
  String.join (lines.map fun line => line ++ "\n")

theorem unlines_append (first second : List String) :
    unlines (first ++ second) = unlines first ++ unlines second := by
  rw [unlines, List.map_append, String.join_append, unlines, unlines]

theorem toList_unlines_cons (line : String) (lines : List String) :
    (unlines (line :: lines)).toList = line.toList ++ '\n' :: (unlines lines).toList := by
  simp [unlines]

theorem unlines_cons_ne (line : String) (lines : List String) :
    unlines (line :: lines) ≠ unlines [] := by
  intro h
  have hlists := congrArg String.toList h
  rw [toList_unlines_cons] at hlists
  exact List.append_ne_nil_of_right_ne_nil _ (List.cons_ne_nil _ _) hlists

/-- The lines of a text can be told from it. -/
theorem unlines_inj {first second : List String} (hfirst : ∀ line ∈ first, IsLine line)
    (hsecond : ∀ line ∈ second, IsLine line) (h : unlines first = unlines second) :
    first = second := by
  induction first generalizing second with
  | nil =>
    cases second with
    | nil => rfl
    | cons other others => exact absurd h.symm (unlines_cons_ne other others)
  | cons line lines ih =>
    cases second with
    | nil => exact absurd h (unlines_cons_ne line lines)
    | cons other others =>
      rw [List.forall_mem_cons] at hfirst hsecond
      have hlists := congrArg String.toList h
      rw [toList_unlines_cons, toList_unlines_cons] at hlists
      obtain ⟨hline, hlines⟩ := append_cons_inj hfirst.1 hsecond.1 hlists
      rw [String.toList_inj.1 hline, ih hfirst.2 hsecond.2 (String.toList_inj.1 hlines)]

end Text

/-- A list can be told from its parts put together, if all parts have the same length. -/
theorem forall₂_of_flatMap_eq {α β : Type} {parts : α → List β} {size : Nat} (hpos : 0 < size)
    (hsize : ∀ item, (parts item).length = size) {first second : List α}
    (h : first.flatMap parts = second.flatMap parts) :
    List.Forall₂ (fun one other => parts one = parts other) first second := by
  have hcons (item : α) (items : List α) : (item :: items).flatMap parts ≠ [] := by
    intro hnil
    have hlength := congrArg List.length hnil
    rw [List.flatMap_cons, List.length_append, hsize, List.length_nil] at hlength
    omega
  induction first generalizing second with
  | nil =>
    cases second with
    | nil => exact .nil
    | cons other others => exact absurd h.symm (hcons other others)
  | cons item items ih =>
    cases second with
    | nil => exact absurd h (hcons item items)
    | cons other others =>
      rw [List.flatMap_cons, List.flatMap_cons] at h
      obtain ⟨hitem, hitems⟩ := List.append_inj h (by rw [hsize, hsize])
      exact .cons hitem (ih hitems)

namespace X86.Context

def registerLine (register : String × Nat) : String :=
  "\t" ++ register.1 ++ ": " ++ Text.hexadecimal register.2

def lines (context : Context) : List String :=
  context.registers.map registerLine

theorem dump_eq_unlines (context : Context) : context.dump = Text.unlines context.lines := by
  rw [dump, Text.unlines, lines, List.map_map]
  rfl

theorem registerLine_inj {name : String} {first second : Nat}
    (h : registerLine (name, first) = registerLine (name, second)) : first = second := by
  rw [registerLine, registerLine, String.append_right_inj] at h
  exact Text.hexadecimal_inj h

theorem isLine_of_mem_lines {context : Context} {line : String} (h : line ∈ context.lines) :
    Text.IsLine line := by
  obtain ⟨register, hregister, rfl⟩ := List.mem_map.1 h
  have hnames : ∀ name ∈ context.registers.map Prod.fst, Text.IsLine name := by
    change ∀ name ∈ ["RSP", "R15", "R14", "R13", "R12", "RBX", "RBP", "MXCSR", "x87"], _
    decide
  have hname : Text.IsLine register.1 := hnames _ (List.mem_map_of_mem hregister)
  have htab : Text.IsLine "\t" := by decide
  have hcolon : Text.IsLine ": " := by decide
  exact ((htab.append hname).append hcolon).append (Text.isLine_hexadecimal _)

theorem eq_of_lines_eq {first second : Context} (h : first.lines = second.lines) :
    first = second := by
  -- The widths differ: seven registers have 64 bits, the control words 32 and 16.
  simp only [lines, registers, List.map_cons, List.map_nil, List.cons.injEq, and_true] at h
  obtain ⟨hrsp, hr15, hr14, hr13, hr12, hrbx, hrbp, hmxcsr, hx87⟩ := h
  have hword {one other : UInt64} {name : String}
      (h : registerLine (name, one.toNat) = registerLine (name, other.toNat)) : one = other :=
    UInt64.toNat_inj.1 (registerLine_inj h)
  cases first
  cases second
  simp only [mk.injEq]
  exact ⟨hword hrsp, hword hr15, hword hr14, hword hr13, hword hr12, hword hrbx, hword hrbp,
    UInt32.toNat_inj.1 (registerLine_inj hmxcsr), UInt16.toNat_inj.1 (registerLine_inj hx87)⟩

end X86.Context

theorem ThreadState.name_inj {first second : ThreadState} (h : first.name = second.name) :
    first = second := by
  revert h
  cases first <;> cases second <;> decide

namespace Thread

def idLine (thread : Thread) : String :=
  "Thread " ++ Text.decimal thread.id ++ ": " ++ thread.state.name

/-- What a dump gives for the top of a stack, or for its absence. -/
def placeText : Option Nat → String
  | some top => Text.hexadecimal top
  | none => "(kernel thread)"

def stackLine (thread : Thread) : String :=
  "\tStack: " ++ placeText (thread.stack.map Stack.top)

def lines (thread : Thread) : List String :=
  thread.idLine :: thread.stackLine :: thread.context.lines

theorem length_lines (thread : Thread) : thread.lines.length = 11 := rfl

theorem dump_eq_unlines (thread : Thread) : thread.dump = Text.unlines thread.lines := by
  simp only [dump, X86.Context.dump_eq_unlines, lines, idLine, stackLine, Text.unlines,
    List.map_cons, String.join_cons, String.append_assoc]
  cases thread.stack <;> rfl

theorem isLine_idLine (thread : Thread) : Text.IsLine thread.idLine := by
  have hname : Text.IsLine thread.state.name := by
    cases thread.state <;> decide
  have hword : Text.IsLine "Thread " := by decide
  have hcolon : Text.IsLine ": " := by decide
  exact ((hword.append (Text.isLine_decimal _)).append hcolon).append hname

theorem isLine_stackLine (thread : Thread) : Text.IsLine thread.stackLine := by
  refine Text.IsLine.append (by decide) ?_
  cases thread.stack with
  | none => decide
  | some stack => exact Text.isLine_hexadecimal _

theorem isLine_of_mem_lines {thread : Thread} {line : String} (h : line ∈ thread.lines) :
    Text.IsLine line := by
  rcases List.mem_cons.1 h with rfl | h
  · exact thread.isLine_idLine
  · rcases List.mem_cons.1 h with rfl | h
    · exact thread.isLine_stackLine
    · exact X86.Context.isLine_of_mem_lines h

/-- The digits of an id end at the colon. -/
theorem id_state_of_idLine_eq {first second : Thread} (h : first.idLine = second.idLine) :
    first.id = second.id ∧ first.state = second.state := by
  have hlist (thread : Thread) : thread.idLine.toList =
      ("Thread ".toList ++ Nat.toDigits 10 thread.id) ++
        ':' :: ' ' :: thread.state.name.toList := by
    simp [idLine, Text.decimal]
  have hmark (thread : Thread) : ':' ∉ "Thread ".toList ++ Nat.toDigits 10 thread.id := by
    have hdigits : ':' ∉ Nat.toDigits 10 thread.id :=
      Text.not_mem_toDigits (by decide) (fun _ => Nat.digitChar_ne _ (by decide)) _
    simpa using hdigits
  have hlists := congrArg String.toList h
  rw [hlist, hlist] at hlists
  obtain ⟨hfront, hback⟩ := Text.append_cons_inj (hmark first) (hmark second) hlists
  obtain ⟨-, hname⟩ := List.cons.inj hback
  exact ⟨Text.toDigits_inj (by decide) (by decide) (List.append_cancel_left hfront),
    ThreadState.name_inj (String.toList_inj.1 hname)⟩

theorem hexadecimal_ne_placeText_none (number : Nat) :
    Text.hexadecimal number ≠ placeText none := by
  intro h
  have hlists := congrArg String.toList h
  simp [Text.hexadecimal, placeText] at hlists

theorem placeText_inj {first second : Option Nat} (h : placeText first = placeText second) :
    first = second := by
  cases first with
  | none =>
    cases second with
    | none => rfl
    | some other => exact absurd h.symm (hexadecimal_ne_placeText_none other)
  | some top =>
    cases second with
    | none => exact absurd h (hexadecimal_ne_placeText_none top)
    | some other => rw [Text.hexadecimal_inj h]

/-- A dump shows the same of two threads. -/
structure ShownAlike (first second : Thread) : Prop where
  id_eq : first.id = second.id
  state_eq : first.state = second.state
  top_eq : first.stack.map Stack.top = second.stack.map Stack.top
  context_eq : first.context = second.context

theorem lines_eq_iff {first second : Thread} :
    first.lines = second.lines ↔ first.ShownAlike second := by
  constructor
  · intro h
    obtain ⟨hidLine, hrest⟩ := List.cons.inj h
    obtain ⟨hstackLine, hregisters⟩ := List.cons.inj hrest
    obtain ⟨hid, hstate⟩ := id_state_of_idLine_eq hidLine
    rw [stackLine, stackLine, String.append_right_inj] at hstackLine
    exact ⟨hid, hstate, placeText_inj hstackLine, X86.Context.eq_of_lines_eq hregisters⟩
  · rintro ⟨hid, hstate, htop, hcontext⟩
    rw [lines, lines, idLine, idLine, stackLine, stackLine, hid, hstate, htop, hcontext]

end Thread

namespace RunQueue

theorem dump_eq_unlines (queue : RunQueue) :
    queue.dump = Text.unlines (queue.threads.flatMap Thread.lines) := by
  cases queue with
  | mk threads =>
    induction threads with
    | nil => rfl
    | cons thread threads ih =>
      simp only [dump, List.map_cons, String.join_cons, List.flatMap_cons,
        Text.unlines_append] at ih ⊢
      rw [ih, thread.dump_eq_unlines]

theorem isLine_of_mem_flatMap_lines {threads : List Thread} :
    ∀ line ∈ threads.flatMap Thread.lines, Text.IsLine line := by
  intro line hline
  obtain ⟨thread, -, hthread⟩ := List.mem_flatMap.1 hline
  exact Thread.isLine_of_mem_lines hthread

/-- Two queues have the same dump exactly if they have equally many threads and those in the same
places have the same id, the same state, the same top of the stack or none, and the same saved
registers. -/
theorem dump_unambiguous (first second : List Thread) :
    dump ⟨first⟩ = dump ⟨second⟩ ↔ List.Forall₂ Thread.ShownAlike first second := by
  rw [dump_eq_unlines, dump_eq_unlines]
  constructor
  · intro h
    have hlines := Text.unlines_inj isLine_of_mem_flatMap_lines isLine_of_mem_flatMap_lines h
    have hpairs := forall₂_of_flatMap_eq (by decide) Thread.length_lines hlines
    exact hpairs.imp fun _ _ => Thread.lines_eq_iff.1
  · intro h
    have hlines : first.flatMap Thread.lines = second.flatMap Thread.lines := by
      induction h with
      | nil => rfl
      | cons hthread _ ih =>
        rw [List.flatMap_cons, List.flatMap_cons, ih, Thread.lines_eq_iff.2 hthread]
    rw [hlines]

end RunQueue

end GreenThreads
