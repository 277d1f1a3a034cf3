import Mathlib.Data.List.Nodup
import Mathlib.Data.List.Perm.Basic

/-!
# Memory that is lent out

Memory is taken from an allocator, lent to borrowers that use it whenever they like, and given back
by hand.  The books of such memory are the loans that are out and the slices that are not lent:
each operation that agrees with the books is without fault and keeps them.
-/

namespace Lending

variable {ι : Type*}

/-- A note of memory that was taken, from which it can be given back. -/
structure Slice where
  pointer : Nat
  len : Nat
  deriving DecidableEq

/-- What must never happen. -/
inductive Fault where
  /-- A slice is lent that is not allocated, or that is lent already. -/
  | aliased
  | unknownBorrower
  | stillLent
  /-- A slice is given back that is not allocated. -/
  | doubleFree
  deriving DecidableEq

structure Memory (ι : Type*) where
  allocated : List Slice
  loans : List (ι × List Slice)
  deriving DecidableEq

/-- A slice without elements is nowhere in memory. -/
def Slice.occupies (slice : Slice) : Bool := 0 < slice.len

/-- The slices that are somewhere in memory. -/
def occupied (slices : List Slice) : List Slice := slices.filter Slice.occupies

@[simp]
theorem occupied_append (slices others : List Slice) :
    occupied (slices ++ others) = occupied slices ++ occupied others :=
  List.filter_append ..

/-- Number of elements that the slices have together. -/
def totalLen : List Slice → Nat
  | [] => 0
  | slice :: slices => slice.len + totalLen slices

@[simp]
theorem totalLen_append (slices others : List Slice) :
    totalLen (slices ++ others) = totalLen slices + totalLen others := by
  induction slices with
  | nil => simp [totalLen]
  | cons slice slices ih => simp [totalLen, ih, Nat.add_assoc]

theorem totalLen_perm {slices others : List Slice} (same : slices.Perm others) :
    totalLen slices = totalLen others := by
  induction same with
  | nil => rfl
  | cons slice _ ih => simp [totalLen, ih]
  | swap slice other slices => simp only [totalLen]; omega
  | trans _ _ first second => exact first.trans second

/-- What is not occupied has no length either. -/
theorem totalLen_occupied (slices : List Slice) : totalLen (occupied slices) = totalLen slices := by
  induction slices with
  | nil => rfl
  | cons slice slices ih =>
      by_cases bare : slice.len = 0
      · have nowhere : slice.occupies = false := by simp [Slice.occupies, bare]
        simpa [occupied, nowhere, totalLen, bare] using ih
      · have somewhere : slice.occupies = true := by simp [Slice.occupies]; omega
        simpa [occupied, somewhere, totalLen] using ih

/-- Items that take equally much take a multiple of it together. -/
theorem totalLen_flatMap {α : Type*} {items : List α} {slicesOf : α → List Slice} {len : Nat}
    (equal : ∀ item ∈ items, totalLen (slicesOf item) = len) :
    totalLen (items.flatMap slicesOf) = items.length * len := by
  induction items with
  | nil => simp [totalLen]
  | cons item items ih =>
      obtain ⟨first, others⟩ := List.forall_mem_cons.mp equal
      rw [List.flatMap_cons, totalLen_append, first, ih others, List.length_cons]
      exact (Nat.add_comm _ _).trans (Nat.succ_mul _ _).symm

namespace Memory

def empty : Memory ι := { allocated := [], loans := [] }

/-- The slices that are lent. -/
def lent (memory : Memory ι) : List Slice :=
  memory.loans.flatMap fun loan => occupied loan.2

/-- No allocated memory is at the pointer. -/
def Free (memory : Memory ι) (pointer : Nat) : Prop :=
  pointer ∉ memory.allocated.map Slice.pointer

/-- Takes memory at a pointer that the allocator chose. -/
def leak (memory : Memory ι) (pointer len : Nat) : Slice × Memory ι :=
  let slice : Slice := { pointer, len }
  (slice, { memory with allocated := occupied [slice] ++ memory.allocated })

/-- Lends slices to a borrower, who alone may use them from then on. -/
def lend (memory : Memory ι) (borrower : ι) (slices : List Slice) : Except Fault (Memory ι) :=
  let pointers := (occupied slices).map Slice.pointer
  if (∀ slice ∈ occupied slices, slice ∈ memory.allocated) ∧
      (pointers ++ memory.lent.map Slice.pointer).Nodup then
    .ok { memory with loans := (borrower, slices) :: memory.loans }
  else .error .aliased

/-- Gives a slice back to the allocator. -/
def reclaim (memory : Memory ι) (slice : Slice) : Except Fault (Memory ι) :=
  if slice.len = 0 then .ok memory
  else if slice.pointer ∈ memory.lent.map Slice.pointer then .error .stillLent
  else if slice ∈ memory.allocated then
    .ok { memory with allocated := memory.allocated.erase slice }
  else .error .doubleFree

def reclaimAll (memory : Memory ι) : List Slice → Except Fault (Memory ι)
  | [] => return memory
  | slice :: slices => do (← memory.reclaim slice).reclaimAll slices

variable [DecidableEq ι]

/-- The borrower is gone and uses nothing any more. -/
def release (memory : Memory ι) (borrower : ι) : Except Fault (Memory ι) :=
  if borrower ∈ memory.loans.map Prod.fst then
    .ok { memory with loans := memory.loans.eraseP fun loan => loan.1 = borrower }
  else .error .unknownBorrower

/-- Lets a borrower go and then gives back what it was lent. -/
def discard (memory : Memory ι) (borrower : ι) (slices : List Slice) :
    Except Fault (Memory ι) := do
  (← memory.release borrower).reclaimAll slices

/-! ## Books -/

omit [DecidableEq ι]

/-- The loans that are out, and the slices that are noted but not lent, are all there is. -/
structure Accounts (memory : Memory ι) (out : List (ι × List Slice)) (idle : List Slice) :
    Prop where
  loans : memory.loans.Perm out
  allocated : memory.allocated.Perm (occupied idle ++ out.flatMap fun loan => occupied loan.2)
  apart : (memory.allocated.map Slice.pointer).Nodup
  borrowers : (memory.loans.map Prod.fst).Nodup

variable {memory : Memory ι} {out : List (ι × List Slice)} {idle : List Slice} {borrower : ι}

theorem accounts_empty : Accounts (empty : Memory ι) [] [] where
  loans := .nil
  allocated := .nil
  apart := .nil
  borrowers := .nil

namespace Accounts

theorem perm (accounts : Accounts memory out idle) {other : List (ι × List Slice)}
    (same : out.Perm other) : Accounts memory other idle where
  loans := accounts.loans.trans same
  allocated := accounts.allocated.trans ((same.flatMap fun _ _ => .refl _).append_left _)
  apart := accounts.apart
  borrowers := accounts.borrowers

theorem lent_perm (accounts : Accounts memory out idle) :
    memory.lent.Perm (out.flatMap fun loan => occupied loan.2) :=
  accounts.loans.flatMap fun _ _ => .refl _

/-- What is not lent is apart from what is. -/
theorem pointers_nodup (accounts : Accounts memory out idle) :
    ((occupied idle).map Slice.pointer ++ memory.lent.map Slice.pointer).Nodup := by
  have pointers :=
    (accounts.allocated.trans (accounts.lent_perm.symm.append_left _)).map Slice.pointer
  rw [List.map_append] at pointers
  exact pointers.nodup_iff.mp accounts.apart

/-- A borrower only ever meets memory that is allocated. -/
theorem allocated_of_lent (accounts : Accounts memory out idle) {slice : Slice}
    (lent : slice ∈ memory.lent) : slice ∈ memory.allocated :=
  accounts.allocated.mem_iff.mpr
    (List.mem_append_right _ (accounts.lent_perm.mem_iff.mp lent))

/-- The length of what is allocated is that of what is noted. -/
theorem totalLen_allocated (accounts : Accounts memory out idle) :
    totalLen memory.allocated = totalLen idle + totalLen (out.flatMap Prod.snd) := by
  have lent : totalLen (out.flatMap fun loan => occupied loan.2) =
      totalLen (out.flatMap Prod.snd) := by
    clear accounts
    induction out with
    | nil => rfl
    | cons loan out ih => simp [totalLen_occupied, ih]
  rw [totalLen_perm accounts.allocated, totalLen_append, totalLen_occupied, lent]

/-! ## Rules -/

theorem leak (accounts : Accounts memory out idle) {pointer len : Nat}
    (free : memory.Free pointer) :
    Accounts (memory.leak pointer len).2 out (idle ++ [(memory.leak pointer len).1]) where
  loans := accounts.loans
  allocated := by
    rw [occupied_append, List.append_assoc]
    exact (accounts.allocated.append_left _).trans (List.perm_append_comm_assoc _ _ _)
  apart := by
    simp only [Memory.leak, occupied, List.filter_cons, List.filter_nil]
    split
    · exact List.nodup_cons.mpr ⟨free, accounts.apart⟩
    · exact accounts.apart
  borrowers := accounts.borrowers

theorem lend (accounts : Accounts memory out idle)
    (unknown : borrower ∉ memory.loans.map Prod.fst) :
    ∃ after, memory.lend borrower idle = .ok after ∧
      Accounts after ((borrower, idle) :: out) [] := by
  have inside : ∀ slice ∈ occupied idle, slice ∈ memory.allocated := fun slice member =>
    accounts.allocated.mem_iff.mpr (List.mem_append_left _ member)
  refine ⟨{ memory with loans := (borrower, idle) :: memory.loans }, ?_, ?_⟩
  · rw [Memory.lend, if_pos ⟨inside, accounts.pointers_nodup⟩]
  · exact
      { loans := accounts.loans.cons _
        allocated := accounts.allocated
        apart := accounts.apart
        borrowers := List.nodup_cons.mpr ⟨unknown, accounts.borrowers⟩ }

theorem reclaim {slice : Slice} (accounts : Accounts memory out (slice :: idle)) :
    ∃ after, memory.reclaim slice = .ok after ∧ Accounts after out idle := by
  by_cases bare : slice.len = 0
  · have nowhere : slice.occupies = false := by simp [Slice.occupies, bare]
    refine ⟨memory, by rw [Memory.reclaim, if_pos bare], ?_⟩
    exact
      { accounts with
        allocated := by simpa [occupied, nowhere] using accounts.allocated }
  · have somewhere : slice.occupies = true := by simp [Slice.occupies]; omega
    have first : occupied (slice :: idle) = slice :: occupied idle := by
      simp [occupied, somewhere]
    have apart := accounts.pointers_nodup
    have allocated := accounts.allocated
    rw [first] at apart allocated
    have kept : slice.pointer ∉ memory.lent.map Slice.pointer := fun lent =>
      (List.nodup_cons.mp apart).1 (List.mem_append_right _ lent)
    have there : slice ∈ memory.allocated := allocated.mem_iff.mpr List.mem_cons_self
    refine ⟨{ memory with allocated := memory.allocated.erase slice }, ?_, ?_⟩
    · rw [Memory.reclaim, if_neg bare, if_neg kept, if_pos there]
    · exact
        { loans := accounts.loans
          allocated := (allocated.erase slice).trans (by simp)
          apart := accounts.apart.sublist (List.erase_sublist.map _)
          borrowers := accounts.borrowers }

theorem reclaimAll {slices : List Slice} (accounts : Accounts memory out slices) :
    ∃ after, memory.reclaimAll slices = .ok after ∧ Accounts after out [] := by
  induction slices generalizing memory with
  | nil => exact ⟨memory, rfl, accounts⟩
  | cons slice slices ih =>
      obtain ⟨between, reclaimed, kept⟩ := accounts.reclaim
      obtain ⟨after, all, done⟩ := ih kept
      exact ⟨after, by simp only [Memory.reclaimAll, reclaimed]; exact all, done⟩

variable [DecidableEq ι]

/-- A borrower that goes leaves what it was lent. -/
theorem release {slices : List Slice} (accounts : Accounts memory ((borrower, slices) :: out) []) :
    ∃ after, memory.release borrower = .ok after ∧ Accounts after out slices := by
  have listed : (borrower, slices) ∈ memory.loans :=
    accounts.loans.mem_iff.mpr List.mem_cons_self
  have known : borrower ∈ memory.loans.map Prod.fst := List.mem_map_of_mem listed
  obtain ⟨loan, before, later, -, same, split, erased⟩ :=
    @List.exists_of_eraseP _ (fun loan => decide (loan.1 = borrower)) _ _ listed (by simp)
  have found : loan = (borrower, slices) :=
    List.inj_on_of_nodup_map accounts.borrowers (split ▸ by simp) listed (by simpa using same)
  subst found
  have left : (before ++ later).Perm out :=
    (List.perm_middle.symm.trans (split ▸ accounts.loans)).cons_inv
  refine ⟨{ memory with loans := before ++ later }, ?_, ?_⟩
  · rw [Memory.release, if_pos known, erased]
  · have borrowers := accounts.borrowers
    rw [split, List.map_append, List.map_cons] at borrowers
    exact
      { loans := left
        allocated := accounts.allocated
        apart := accounts.apart
        borrowers := by
          rw [List.map_append]
          exact borrowers.sublist ((List.sublist_cons_self _ _).append_left _) }

/-- What is discarded is out no more, and all that it was lent is free again. -/
theorem discard {slices : List Slice} (accounts : Accounts memory ((borrower, slices) :: out) []) :
    ∃ after, memory.discard borrower slices = .ok after ∧ Accounts after out [] := by
  obtain ⟨between, released, left⟩ := accounts.release
  obtain ⟨after, all, done⟩ := left.reclaimAll
  exact ⟨after, by simp only [Memory.discard, released]; exact all, done⟩

end Accounts
end Memory
end Lending
