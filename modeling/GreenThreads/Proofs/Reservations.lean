import GreenThreads.Fault
import GreenThreads.Memory.AddressSpace
import GreenThreads.Proofs.WordArithmetic
import GreenThreads.Stack
import Mathlib.Order.Bounds.Defs

/-!
# Reservations

A stack is reserved and released by what is demanded of the memory manager, and all that is kept of
it are three words. They are computed by sums that are refused where they leave the words, and by
clearing bits. Nothing is demanded if a sum is refused, and otherwise the words are the numbers that
the stack is laid out by.
-/

namespace GreenThreads

theorem isLeast_roundUpToPages (size : Nat) :
    IsLeast {length | 4096 ∣ length ∧ size ≤ length} (roundUpToPages size) := by
  refine ⟨⟨Nat.dvd_mul_left _ _, ?_⟩, ?_⟩
  · simp only [roundUpToPages, pageSize]
    omega
  · rintro length ⟨⟨pages, rfl⟩, hle⟩
    simp only [roundUpToPages, pageSize]
    omega

theorem Stack.Layout.map_reserved_of? (size : Nat) (guardPage : Bool) :
    (of? size guardPage).map reserved =
      if roundUpToPages size + guardSize guardPage < UInt64.size then
        some (roundUpToPages size + guardSize guardPage)
      else none := by
  by_cases h : roundUpToPages size + guardSize guardPage < UInt64.size
  · rw [of?, dif_pos h, if_pos h]
    rfl
  · rw [of?, dif_neg h, if_neg h]
    rfl

/-- The base and the length of a reservation, and how much of it the guard page takes. -/
structure Reservation where
  base : UInt64
  reserved : UInt64
  guard : UInt64

namespace Reservation

open AddressSpace (Demand)

def size (reservation : Reservation) : UInt64 :=
  reservation.reserved - reservation.guard

def bottom (reservation : Reservation) : UInt64 :=
  reservation.base + reservation.guard

def top (reservation : Reservation) : UInt64 :=
  reservation.base + reservation.reserved

def release (reservation : Reservation) : Demand :=
  .unmap reservation.base.toNat reservation.reserved.toNat

/-- The lengths of the reservation and of its guard page, if they are words. -/
def lengths? (size : UInt64) (guardPage : Bool) : Option (UInt64 × UInt64) := do
  let page := UInt64.ofNat pageSize
  let padded ← Word.add? size (page - 1)
  let guard := if guardPage then page else 0
  let reserved ← Word.add? (Word.clearBelow page padded) guard
  return (reserved, guard)

/-- The demands that an allocation has made, and how it ended. -/
structure Allocation where
  demands : List Demand
  outcome : Except Fault Reservation

/-- Maps a stretch, and bars its lowest page if a guard page is asked for. If that cannot be done,
the stretch is unmapped again. -/
def allocate (map : Mapper) (bars : Bool) (size : UInt64) (guardPage : Bool) : Allocation :=
  let refused (demands : List Demand) : Allocation :=
    { demands, outcome := .error (.stackUnavailable size.toNat) }
  match lengths? size guardPage with
  | none => refused []
  | some (reserved, guard) =>
    match map reserved.toNat with
    | none => refused [.map reserved.toNat none]
    | some base =>
      let mapped := Demand.map reserved.toNat (some base)
      if guardPage && !bars then
        refused [mapped, .bar base guard.toNat false, .unmap base reserved.toNat]
      else
        let demands := if guardPage then [mapped, .bar base guard.toNat true] else [mapped]
        if base = 0 then refused demands
        else { demands, outcome := .ok { base := UInt64.ofNat base, reserved, guard } }

section Lengths

variable {size reserved guard : UInt64} {guardPage : Bool}

theorem toNat_guard (guardPage : Bool) :
    (if guardPage then UInt64.ofNat pageSize else 0).toNat = Stack.Layout.guardSize guardPage := by
  cases guardPage <;> rfl

/-- To pad a size and to clear the bits below a page is to round it up, unless the padded size is no
word. -/
theorem toNat_clearBelow_padded {padded : UInt64}
    (h : Word.add? size (UInt64.ofNat pageSize - 1) = some padded) :
    (Word.clearBelow (UInt64.ofNat pageSize) padded).toNat = roundUpToPages size.toNat := by
  have hunit : (UInt64.ofNat pageSize).toNat = 2 ^ 12 := rfl
  rw [Word.toNat_clearBelow padded hunit, Word.add?_eq_some_iff.1 h]
  rfl

theorem lengths?_of_some {padded : UInt64}
    (h : Word.add? size (UInt64.ofNat pageSize - 1) = some padded) :
    lengths? size guardPage =
      (Word.add? (Word.clearBelow (UInt64.ofNat pageSize) padded)
        (if guardPage then UInt64.ofNat pageSize else 0)).map fun reserved =>
          (reserved, if guardPage then UInt64.ofNat pageSize else 0) := by
  simp only [lengths?, h, Option.bind_eq_bind, Option.bind_some]
  rw [Option.map_eq_bind]
  rfl

/-- The sums are refused exactly if the length of the whole reservation is no word. -/
theorem lengths?_eq_none_iff :
    lengths? size guardPage = none ↔
      UInt64.size ≤ roundUpToPages size.toNat + Stack.Layout.guardSize guardPage := by
  cases hpadded : Word.add? size (UInt64.ofNat pageSize - 1) with
  | none =>
    have hlong : UInt64.size ≤ size.toNat + 4095 := Word.add?_eq_none_iff.1 hpadded
    have hnone : lengths? size guardPage = none := by
      simp only [lengths?, hpadded, Option.bind_eq_bind, Option.bind_none]
    refine iff_of_true hnone (Nat.le_trans ?_ (Nat.le_add_right _ _))
    simp only [UInt64.size, roundUpToPages, pageSize] at hlong ⊢
    omega
  | some padded =>
    rw [lengths?_of_some hpadded, Option.map_eq_none_iff, Word.add?_eq_none_iff,
      toNat_clearBelow_padded hpadded, toNat_guard]

theorem toNat_of_lengths? (h : lengths? size guardPage = some (reserved, guard)) :
    reserved.toNat = roundUpToPages size.toNat + Stack.Layout.guardSize guardPage ∧
      guard.toNat = Stack.Layout.guardSize guardPage := by
  cases hpadded : Word.add? size (UInt64.ofNat pageSize - 1) with
  | none =>
    simp only [lengths?, hpadded, Option.bind_eq_bind, Option.bind_none, reduceCtorEq] at h
  | some padded =>
    rw [lengths?_of_some hpadded] at h
    obtain ⟨sum, hsum, hpair⟩ := Option.map_eq_some_iff.1 h
    obtain ⟨rfl, rfl⟩ := Prod.mk.inj hpair
    rw [Word.add?_eq_some_iff.1 hsum, toNat_clearBelow_padded hpadded, toNat_guard]
    exact ⟨rfl, rfl⟩

theorem exists_lengths?
    (h : roundUpToPages size.toNat + Stack.Layout.guardSize guardPage < UInt64.size) :
    ∃ reserved guard, lengths? size guardPage = some (reserved, guard) ∧
      reserved.toNat = roundUpToPages size.toNat + Stack.Layout.guardSize guardPage := by
  have hsome : lengths? size guardPage ≠ none := by
    rw [Ne, lengths?_eq_none_iff]
    exact Nat.not_le.2 h
  obtain ⟨⟨reserved, guard⟩, hlengths⟩ := Option.ne_none_iff_exists'.1 hsome
  exact ⟨reserved, guard, hlengths, (toNat_of_lengths? hlengths).1⟩

end Lengths

/-- The words of a reservation are the numbers that a stack is laid out by. -/
structure Describes (reservation : Reservation) (stack : Stack) : Prop where
  base_eq : reservation.base.toNat = stack.base
  reserved_eq : reservation.reserved.toNat = stack.layout.reserved
  guard_eq : reservation.guard.toNat = stack.layout.guard

namespace Describes

variable {reservation : Reservation} {stack : Stack} (h : reservation.Describes stack)

include h

theorem toNat_size : reservation.size.toNat = stack.size := by
  have hle : reservation.guard ≤ reservation.reserved := by
    rw [UInt64.le_iff_toNat_le, h.guard_eq, h.reserved_eq]
    exact Nat.le_add_left _ _
  rw [size, UInt64.toNat_sub_of_le _ _ hle, h.reserved_eq, h.guard_eq]
  exact Nat.add_sub_cancel _ _

theorem toNat_bottom : reservation.bottom.toNat = stack.bottom := by
  have hlt : stack.base + stack.layout.guard < UInt64.size := by
    have := stack.limit_lt
    rw [Stack.Layout.reserved] at this
    omega
  rw [bottom, UInt64.toNat_add, h.base_eq, h.guard_eq]
  exact Nat.mod_eq_of_lt hlt

theorem toNat_top : reservation.top.toNat = stack.top := by
  rw [top, UInt64.toNat_add, h.base_eq, h.reserved_eq]
  exact Nat.mod_eq_of_lt stack.limit_lt

theorem top_sub_bottom :
    reservation.top.toNat - reservation.bottom.toNat = reservation.size.toNat := by
  rw [h.toNat_top, h.toNat_bottom, h.toNat_size, stack.top_sub_bottom]

theorem dvd_top : 16 ∣ reservation.top.toNat := by
  have hbase := stack.base_aligned
  have hsize := stack.layout.size_aligned
  have hguard := stack.layout.guard_eq
  rw [h.toNat_top]
  simp only [Stack.top, Stack.Layout.reserved]
  simp only [pageSize] at hbase hsize hguard
  omega

end Describes

section Allocation

variable {map : Mapper} {bars : Bool} {size reserved guard : UInt64} {guardPage : Bool} {base : Nat}

theorem allocate_of_none (h : lengths? size guardPage = none) :
    allocate map bars size guardPage = ⟨[], .error (.stackUnavailable size.toNat)⟩ := by
  simp only [allocate, h]

/-- Whatever the memory manager answers, one mapping is demanded. -/
theorem mapped?_allocate (h : lengths? size guardPage = some (reserved, guard)) :
    (allocate map bars size guardPage).demands.filterMap Demand.mapped? = [reserved.toNat] := by
  simp only [allocate, h]
  cases map reserved.toNat with
  | none => rfl
  | some base =>
    by_cases hbase : base = 0
    · cases guardPage <;> cases bars <;> simp [hbase, Demand.mapped?]
    · cases guardPage <;> cases bars <;> simp [hbase, Demand.mapped?]

/-- An allocation is refused before anything is demanded exactly if a sum is refused. -/
theorem allocate_eq_refused_iff :
    allocate map bars size guardPage = ⟨[], .error (.stackUnavailable size.toNat)⟩ ↔
      lengths? size guardPage = none := by
  constructor
  · intro hrefused
    cases hlengths : lengths? size guardPage with
    | none => rfl
    | some lengths =>
      have hone : (allocate map bars size guardPage).demands.filterMap Demand.mapped? =
          [lengths.1.toNat] := mapped?_allocate hlengths
      rw [hrefused] at hone
      contradiction
  · exact allocate_of_none

theorem allocate_of_answer (h : lengths? size guardPage = some (reserved, guard))
    (hanswer : map reserved.toNat = some base) (hpos : 0 < base)
    (hbars : guardPage = true → bars = true) :
    allocate map bars size guardPage =
      { demands := .map reserved.toNat (some base) ::
          if guardPage then [.bar base guard.toNat true] else []
        outcome := .ok { base := UInt64.ofNat base, reserved, guard } } := by
  have hbase : base ≠ 0 := Nat.ne_of_gt hpos
  cases guardPage with
  | false => simp [allocate, h, hanswer, hbase]
  | true => simp [allocate, h, hanswer, hbase, hbars rfl]

/-- What is mapped for a stack may be touched, but for its guard page. -/
theorem changeAll_allocate (h : lengths? size guardPage = some (reserved, guard))
    (hanswer : map reserved.toNat = some base) (hpos : 0 < base)
    (hbars : guardPage = true → bars = true) (space : AddressSpace) :
    space.changeAll (allocate map bars size guardPage).demands =
      (space.fill base reserved.toNat (some .granted)).fill base guard.toNat (some .barred) := by
  rw [allocate_of_answer h hanswer hpos hbars]
  cases guardPage with
  | false =>
    have hguard : guard.toNat = 0 := (toNat_of_lengths? h).2
    rw [hguard, AddressSpace.fill_zero]
    rfl
  | true => rfl

/-- An allocation that fails leaves nothing mapped. -/
theorem changeAll_allocate_of_error (h : lengths? size guardPage = some (reserved, guard))
    {fault : Fault} (hfault : (allocate map bars size guardPage).outcome = .error fault)
    {space : AddressSpace}
    (hfree : ∀ base ∈ map reserved.toNat, 0 < base ∧ space.IsFree base reserved.toNat) :
    space.changeAll (allocate map bars size guardPage).demands = space := by
  cases hanswer : map reserved.toNat with
  | none =>
    simp only [allocate, h, hanswer]
    rfl
  | some base =>
    obtain ⟨hpos, hspace⟩ := hfree base hanswer
    by_cases hbars : guardPage = true → bars = true
    · rw [allocate_of_answer h hanswer hpos hbars] at hfault
      contradiction
    · have hrefused : (guardPage && !bars) = true := by
        cases guardPage <;> cases bars <;> simp at hbars ⊢
      simp only [allocate, h, hanswer, hrefused, if_true]
      change (space.fill base reserved.toNat (some .granted)).fill base reserved.toNat none = space
      rw [AddressSpace.fill_fill_of_le (Nat.le_refl _), AddressSpace.fill_none_of_isFree hspace]

theorem describes_of_answer (h : lengths? size guardPage = some (reserved, guard)) {stack : Stack}
    (hreserve : Stack.reserve? map size.toNat guardPage = some stack) :
    Describes { base := UInt64.ofNat stack.base, reserved, guard } stack := by
  obtain ⟨hlayout, -⟩ := Stack.reserve?_eq_some_iff.1 hreserve
  obtain ⟨hsize, hguard⟩ := Stack.Layout.of?_eq_some_iff.1 hlayout
  obtain ⟨hreserved, hpage⟩ := toNat_of_lengths? h
  refine ⟨?_, ?_, hpage.trans hguard.symm⟩
  · exact UInt64.toNat_ofNat_of_lt' (Nat.lt_of_le_of_lt (Nat.le_add_right _ _) stack.limit_lt)
  · rw [Stack.Layout.reserved, hsize, hguard]
    exact hreserved

end Allocation

/-- The addresses of a stack may be touched, those of its guard page may not, and all others are as
they were. -/
theorem Describes.mapped_eq {reservation : Reservation} {stack : Stack}
    (h : reservation.Describes stack) (space : AddressSpace) (address : Nat) :
    ((space.fill stack.base reservation.reserved.toNat (some .granted)).fill stack.base
        reservation.guard.toNat (some .barred)) address =
      if stack.region.base ≤ address ∧ address < stack.region.limit then some .granted
      else if stack.base ≤ address ∧ address < stack.bottom then some .barred
      else space address := by
  have hbottom : stack.bottom = stack.base + stack.layout.guard := rfl
  have htop : stack.region.limit = stack.base + stack.layout.reserved := by
    rw [← Stack.top, stack.top_eq]
    rfl
  have hbase : stack.region.base = stack.bottom := rfl
  rw [h.reserved_eq, h.guard_eq, hbase, htop]
  by_cases hguard : stack.base ≤ address ∧ address < stack.base + stack.layout.guard
  · rw [AddressSpace.fill_of_mem hguard, if_neg (by omega), if_pos (by omega)]
  · rw [AddressSpace.fill_of_not_mem hguard]
    by_cases hmem : stack.base ≤ address ∧ address < stack.base + stack.layout.reserved
    · rw [AddressSpace.fill_of_mem hmem, if_pos (by omega)]
    · rw [AddressSpace.fill_of_not_mem hmem, if_neg (by omega), if_neg (by omega)]

/-- What is released is the whole stretch that was mapped, the guard page included. -/
theorem Describes.change_release {reservation : Reservation} {stack : Stack}
    (h : reservation.Describes stack) {space : AddressSpace}
    (hfree : space.IsFree stack.base reservation.reserved.toNat) :
    ((space.fill stack.base reservation.reserved.toNat (some .granted)).fill stack.base
        reservation.guard.toNat (some .barred)).change reservation.release = space := by
  have hguard : reservation.guard.toNat ≤ reservation.reserved.toNat := by
    rw [h.guard_eq, h.reserved_eq]
    exact Nat.le_add_left _ _
  rw [release, h.base_eq, AddressSpace.change, AddressSpace.fill_fill_of_le hguard,
    AddressSpace.fill_fill_of_le (Nat.le_refl _), AddressSpace.fill_none_of_isFree hfree]

/-- A reservation at an address takes a guard page of some length and a usable area of some size,
which lies between the bottom and the top and is the region of the stack. -/
structure Spans (reservation : Reservation) (stack : Stack) (base guard size : Nat) : Prop where
  size_eq : reservation.size.toNat = size
  size_add : reservation.size.toNat + guard = reservation.reserved.toNat
  top_sub_bottom : reservation.top.toNat - reservation.bottom.toNat = reservation.size.toNat
  base_eq : reservation.base.toNat = base
  bottom_eq : reservation.bottom.toNat = base + guard
  dvd_top : 16 ∣ reservation.top.toNat
  region_base : stack.region.base = reservation.bottom.toNat
  region_limit : stack.region.limit = reservation.top.toNat

theorem Describes.spans {reservation : Reservation} {stack : Stack}
    (h : reservation.Describes stack) :
    reservation.Spans stack stack.base stack.layout.guard stack.size where
  size_eq := h.toNat_size
  size_add := by
    rw [h.toNat_size, h.reserved_eq]
    rfl
  top_sub_bottom := h.top_sub_bottom
  base_eq := h.base_eq
  bottom_eq := h.toNat_bottom
  dvd_top := h.dvd_top
  region_base := h.toNat_bottom.symm
  region_limit := by
    rw [h.toNat_top, stack.top_eq]
    rfl

/-- Sizes are rounded up to pages. If the rounded size or the length with the guard page is no word,
nothing is demanded and there is no layout; otherwise one mapping of exactly that length is. If it
is granted, the words that are kept are the numbers that the stack is laid out by: no sum and no
difference wraps around. What may be touched then, besides what was mapped before, is what lies
between the bottom and the top, and when the stack is released all is as it was. So it is too if an
allocation fails. -/
theorem allocation_exact (map : Mapper) (bars : Bool) (size : UInt64) (guardPage : Bool) :
    let guard := if guardPage then 4096 else 0
    let usable := roundUpToPages size.toNat
    let allocation := allocate map bars size guardPage
    IsLeast {length | 4096 ∣ length ∧ size.toNat ≤ length} usable ∧
      (allocation = ⟨[], .error (.stackUnavailable size.toNat)⟩ ↔
        2 ^ 64 ≤ usable ∨ 2 ^ 64 ≤ usable + guard) ∧
      (usable + guard < 2 ^ 64 →
        allocation.demands.filterMap Demand.mapped? = [usable + guard]) ∧
      (Stack.Layout.of? size.toNat guardPage).map Stack.Layout.reserved =
          (if usable + guard < 2 ^ 64 then some (usable + guard) else none) ∧
      (∀ (fault : Fault) (space : AddressSpace), allocation.outcome = .error fault →
        (∀ base ∈ map (usable + guard), 0 < base ∧ space.IsFree base (usable + guard)) →
          space.changeAll allocation.demands = space) ∧
      ∀ base, map.Grants (usable + guard) base → (guardPage = true → bars = true) →
        ∃ reservation stack,
          allocation.outcome = .ok reservation ∧
            Stack.reserve? map size.toNat guardPage = some stack ∧
            reservation.Spans stack base guard usable ∧
            ∀ space : AddressSpace, space.IsFree base (usable + guard) →
              (∀ address, space.changeAll allocation.demands address =
                if stack.region.base ≤ address ∧ address < stack.region.limit then some .granted
                else if base ≤ address ∧ address < stack.region.base then some .barred
                else space address) ∧
              (space.changeAll allocation.demands).change reservation.release = space := by
  intro guard usable allocation
  refine ⟨isLeast_roundUpToPages size.toNat, ?_, ?_,
    Stack.Layout.map_reserved_of? size.toNat guardPage, ?_, ?_⟩
  · rw [allocate_eq_refused_iff, lengths?_eq_none_iff]
    exact ⟨Or.inr, fun hlong =>
      hlong.elim (fun husable => Nat.le_trans husable (Nat.le_add_right _ _)) id⟩
  · intro hfits
    obtain ⟨reserved, page, hlengths, hreserved⟩ := exists_lengths? hfits
    exact (mapped?_allocate hlengths).trans (congrArg (fun length => [length]) hreserved)
  · intro fault space hfault hfree
    cases hlengths : lengths? size guardPage with
    | none =>
      change space.changeAll (allocate map bars size guardPage).demands = space
      rw [allocate_of_none hlengths]
      rfl
    | some lengths =>
      have hreserved : lengths.1.toNat = usable + guard := (toNat_of_lengths? hlengths).1
      apply changeAll_allocate_of_error hlengths hfault
      rw [hreserved]
      exact hfree
  · intro base hgrants hbars
    have hfits : usable + guard < 2 ^ 64 :=
      Nat.lt_of_le_of_lt (Nat.le_add_left _ _) hgrants.fits
    obtain ⟨reserved, page, hlengths, hreserved⟩ := exists_lengths? hfits
    obtain ⟨stack, hreserve, rfl⟩ := Stack.exists_reserve?_of_grants hgrants
    have hanswer : map reserved.toNat = some stack.base := by
      rw [hreserved]
      exact hgrants.answers
    have hdescribes := describes_of_answer hlengths hreserve
    obtain ⟨hlayout, -⟩ := Stack.reserve?_eq_some_iff.1 hreserve
    obtain ⟨hsize, hguard⟩ := Stack.Layout.of?_eq_some_iff.1 hlayout
    have hspans := hdescribes.spans
    rw [hguard, Stack.size, hsize] at hspans
    refine ⟨_, stack, ?_, hreserve, hspans, ?_⟩
    · change (allocate map bars size guardPage).outcome = _
      rw [allocate_of_answer hlengths hanswer hgrants.pos hbars]
    · intro space hfree
      have hchanged : space.changeAll allocation.demands = _ :=
        changeAll_allocate hlengths hanswer hgrants.pos hbars space
      rw [hchanged]
      refine ⟨hdescribes.mapped_eq space, hdescribes.change_release ?_⟩
      rw [hreserved]
      exact hfree

/-- With a guard page, a size that is three bytes longer than five pages takes seven. The whole of a
reservation is refused where the padded size or the guard page does not fit. -/
theorem allocation_exact_guarded :
    ∃ reservation stack,
      (allocate (Mapper.placing 0x100000) true 20483 true).outcome = .ok reservation ∧
        Stack.reserve? (Mapper.placing 0x100000) 20483 true = some stack ∧
        reservation.Spans stack 0x100000 4096 24576 ∧
        (∀ address, AddressSpace.changeAll (fun _ => none)
            (allocate (Mapper.placing 0x100000) true 20483 true).demands address =
          if stack.region.base ≤ address ∧ address < stack.region.limit then some .granted
          else if 0x100000 ≤ address ∧ address < stack.region.base then some .barred
          else none) ∧
        allocate (Mapper.placing 0x100000) true 18446744073709547520 true =
          ⟨[], .error (.stackUnavailable 18446744073709547520)⟩ ∧
        (allocate (Mapper.placing 0x100000) true 18446744073709547520 false).demands.filterMap
          Demand.mapped? = [18446744073709547520] := by
  obtain ⟨-, -, -, -, -, hgranted⟩ := allocation_exact (Mapper.placing 0x100000) true 20483 true
  obtain ⟨reservation, stack, hok, hreserve, hspans, hspace⟩ :=
    hgranted 0x100000 ⟨by decide, by decide, by decide, by decide⟩ fun _ => rfl
  obtain ⟨-, hrefused, -⟩ :=
    allocation_exact (Mapper.placing 0x100000) true 18446744073709547520 true
  obtain ⟨-, -, hdemanded, -⟩ :=
    allocation_exact (Mapper.placing 0x100000) true 18446744073709547520 false
  exact ⟨reservation, stack, hok, hreserve, hspans, (hspace _ fun _ _ _ => rfl).1,
    hrefused.2 (by decide), hdemanded (by decide)⟩

end Reservation

end GreenThreads
