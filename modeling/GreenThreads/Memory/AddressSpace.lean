/-!
# Address spaces

An address space tells which addresses are mapped, and which of those may be touched. What is
demanded of the memory manager, with the answer it gave, changes whole stretches of it.
-/

namespace GreenThreads

inductive Access where
  | granted
  | barred
deriving DecidableEq

/-- The access to each address that is mapped. -/
abbrev AddressSpace := Nat → Option Access

namespace AddressSpace

/-- Gives all addresses of a stretch the same access. -/
def fill (space : AddressSpace) (base length : Nat) (access : Option Access) : AddressSpace :=
  fun address => if base ≤ address ∧ address < base + length then access else space address

def IsFree (space : AddressSpace) (base length : Nat) : Prop :=
  ∀ address, base ≤ address → address < base + length → space address = none

inductive Demand where
  /-- A mapping of a length, at an address that the memory manager chooses. -/
  | map (length : Nat) (base? : Option Nat)
  | bar (base length : Nat) (done : Bool)
  | unmap (base length : Nat)
deriving DecidableEq

/-- The length of the mapping that is demanded, if it is one. -/
def Demand.mapped? : Demand → Option Nat
  | map length _ => some length
  | bar .. | unmap .. => none

def change (space : AddressSpace) : Demand → AddressSpace
  | .map length (some base) => space.fill base length (some .granted)
  | .bar base length true => space.fill base length (some .barred)
  | .unmap base length => space.fill base length none
  | .map _ none | .bar _ _ false => space

def changeAll (space : AddressSpace) (demands : List Demand) : AddressSpace :=
  demands.foldl change space

variable {space : AddressSpace} {base length : Nat}

theorem fill_of_mem {address : Nat} (h : base ≤ address ∧ address < base + length)
    (access : Option Access) : space.fill base length access address = access := by
  rw [fill, if_pos h]

theorem fill_of_not_mem {address : Nat} (h : ¬(base ≤ address ∧ address < base + length))
    (access : Option Access) : space.fill base length access address = space address := by
  rw [fill, if_neg h]

theorem fill_zero (access : Option Access) : space.fill base 0 access = space := by
  funext address
  exact fill_of_not_mem (by omega) access

/-- Of two stretches with the same base, the longer one leaves nothing of a shorter one. -/
theorem fill_fill_of_le {inner : Nat} (h : inner ≤ length) (first second : Option Access) :
    (space.fill base inner first).fill base length second = space.fill base length second := by
  funext address
  by_cases hmem : base ≤ address ∧ address < base + length
  · rw [fill_of_mem hmem, fill_of_mem hmem]
  · rw [fill_of_not_mem hmem, fill_of_not_mem hmem, fill_of_not_mem (by omega)]

theorem fill_none_of_isFree (h : space.IsFree base length) :
    space.fill base length none = space := by
  funext address
  by_cases hmem : base ≤ address ∧ address < base + length
  · rw [fill_of_mem hmem, h address hmem.1 hmem.2]
  · rw [fill_of_not_mem hmem]

end AddressSpace

end GreenThreads
