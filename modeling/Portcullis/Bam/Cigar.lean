import Mathlib.Data.List.Basic

set_option autoImplicit false

/- CIGAR operations of `portcullis/bam/bam_alignment.hpp`: the operation letters,
`CigarOp`, and which letters consume query and reference. A kind is the source's
`char`, so every character is a possible kind, not only the ten BAM letters. -/
namespace Portcullis.Bam

def bamCigarMatchChar : Char := 'M'
def bamCigarInsChar : Char := 'I'
def bamCigarDelChar : Char := 'D'
def bamCigarRefskipChar : Char := 'N'
def bamCigarSoftclipChar : Char := 'S'
def bamCigarHardclipChar : Char := 'H'
def bamCigarPadChar : Char := 'P'
def bamCigarEqualChar : Char := '='
def bamCigarDiffChar : Char := 'X'
def bamCigarBackChar : Char := 'B'

/-- One run of a CIGAR string. `length` is the source's `int32_t`; positions and
lengths are unbounded integers here, since signed overflow is undefined in the source. -/
structure CigarOp where
  type : Char
  length : Int
  deriving DecidableEq, Repr, Inhabited

namespace CigarOp

def opConsumesQuery (op : Char) : Bool :=
  op == bamCigarMatchChar || op == bamCigarInsChar || op == bamCigarSoftclipChar ||
    op == bamCigarEqualChar || op == bamCigarDiffChar

def opConsumesReference (op : Char) : Bool :=
  op == bamCigarMatchChar || op == bamCigarDelChar || op == bamCigarRefskipChar ||
    op == bamCigarEqualChar || op == bamCigarDiffChar

end CigarOp

open CigarOp

def isRefSkip (op : CigarOp) : Bool := op.type == bamCigarRefskipChar

/-- Whether operation `i` of a CIGAR is a ReferenceSkip; false past its end. -/
def skipAt (ops : List CigarOp) (i : Nat) : Bool := ops[i]?.any isRefSkip

def lengthWhere (p : Char → Bool) : List CigarOp → Int
  | [] => 0
  | op :: ops => (if p op.type then op.length else 0) + lengthWhere p ops

/-- Reference bases a CIGAR spans (what `bam_cigar2rlen` computes). -/
def referenceLength (ops : List CigarOp) : Int := lengthWhere opConsumesReference ops

/-- Query bases a CIGAR consumes, the count `getLength()` should match. -/
def queryLength (ops : List CigarOp) : Int := lengthWhere opConsumesQuery ops

@[simp] theorem lengthWhere_nil (p : Char → Bool) : lengthWhere p [] = 0 := rfl

@[simp] theorem lengthWhere_cons (p : Char → Bool) (op : CigarOp) (ops : List CigarOp) :
    lengthWhere p (op :: ops) = (if p op.type then op.length else 0) + lengthWhere p ops := rfl

@[simp] theorem lengthWhere_append (p : Char → Bool) (xs ys : List CigarOp) :
    lengthWhere p (xs ++ ys) = lengthWhere p xs + lengthWhere p ys := by
  induction xs with
  | nil => simp
  | cons op ops ih => simp only [List.cons_append, lengthWhere_cons, ih, Int.add_assoc]

theorem lengthWhere_congr (p : Char → Bool) {xs ys : List CigarOp}
    (same : ∀ k : Nat, xs[k]?.map (fun op => if p op.type then op.length else 0) =
      ys[k]?.map (fun op => if p op.type then op.length else 0)) :
    lengthWhere p xs = lengthWhere p ys := by
  induction xs generalizing ys with
  | nil =>
    obtain _ | ⟨y, ys⟩ := ys
    · rfl
    · simpa using same 0
  | cons x xs ih =>
    obtain _ | ⟨y, ys⟩ := ys
    · simpa using same 0
    · have head := same 0
      simp only [List.getElem?_cons_zero, Option.map_some', Option.some.injEq] at head
      rw [lengthWhere_cons, lengthWhere_cons, head, ih fun k => by simpa using same (k + 1)]

theorem lengthWhere_take_succ (p : Char → Bool) (ops : List CigarOp) (i : Nat)
    (h : i < ops.length) :
    lengthWhere p (ops.take (i + 1)) =
      lengthWhere p (ops.take i) + if p ops[i].type then ops[i].length else 0 := by
  rw [List.take_succ, List.getElem?_eq_getElem h, Option.toList_some, lengthWhere_append,
    lengthWhere_cons, lengthWhere_nil, Int.add_zero]

theorem lengthWhere_eq_zero (p : Char → Bool) (ops : List CigarOp)
    (none : ∀ op ∈ ops, p op.type = false) : lengthWhere p ops = 0 := by
  induction ops with
  | nil => rfl
  | cons op ops ih =>
    simp [none op (List.mem_cons_self op ops), ih fun o mem => none o (List.mem_cons_of_mem op mem)]

theorem lengthWhere_nonneg (p : Char → Bool) (ops : List CigarOp)
    (nonneg : ∀ op ∈ ops, 0 ≤ op.length) : 0 ≤ lengthWhere p ops := by
  induction ops with
  | nil => exact Int.le_refl 0
  | cons op ops ih =>
    have head := nonneg op (List.mem_cons_self op ops)
    have tail := ih fun o mem => nonneg o (List.mem_cons_of_mem op mem)
    rw [lengthWhere_cons]
    split <;> omega

theorem lengthWhere_add_not (p : Char → Bool) (ops : List CigarOp) :
    lengthWhere p ops + lengthWhere (fun c => !p c) ops = lengthWhere (fun _ => true) ops := by
  induction ops with
  | nil => rfl
  | cons op ops ih => cases h : p op.type <;> simp [h] <;> omega

@[simp] theorem isRefSkip_mk (type : Char) (length : Int) :
    isRefSkip ⟨type, length⟩ = (type == bamCigarRefskipChar) := rfl

@[simp] theorem skipAt_cons_zero (op : CigarOp) (ops : List CigarOp) :
    skipAt (op :: ops) 0 = isRefSkip op := by simp [skipAt]

@[simp] theorem skipAt_cons_succ (op : CigarOp) (ops : List CigarOp) (i : Nat) :
    skipAt (op :: ops) (i + 1) = skipAt ops i := by simp [skipAt]

theorem skipAt_of_getElem (ops : List CigarOp) (i : Nat) (h : i < ops.length) :
    skipAt ops i = isRefSkip ops[i] := by
  simp [skipAt, List.getElem?_eq_getElem h]

theorem not_refSkip_of_mem_take {ops : List CigarOp} {i : Nat}
    (before : ∀ k, k < i → skipAt ops k = false) {op : CigarOp} (mem : op ∈ ops.take i) :
    isRefSkip op = false := by
  obtain ⟨k, lt, rfl⟩ := List.getElem_of_mem mem
  simp only [List.length_take, Nat.lt_min] at lt
  simpa [List.getElem_take, skipAt_of_getElem ops k lt.2] using before k lt.1

theorem lt_length_of_skipAt {ops : List CigarOp} {i : Nat} (skip : skipAt ops i = true) :
    i < ops.length := by
  by_contra past
  simp [skipAt, List.getElem?_eq_none (Nat.le_of_not_lt past)] at skip

theorem countP_isRefSkip_congr {xs ys : List CigarOp} (length : xs.length = ys.length)
    (skips : ∀ j, skipAt xs j = skipAt ys j) : xs.countP isRefSkip = ys.countP isRefSkip := by
  induction xs generalizing ys with
  | nil => rw [List.length_eq_zero.mp length.symm]
  | cons x xs ih =>
    obtain _ | ⟨y, ys⟩ := ys
    · cases length
    · have head := skips 0
      simp only [skipAt_cons_zero] at head
      simp only [List.countP_cons, head,
        ih (Nat.succ.inj length) fun j => by simpa using skips (j + 1)]

end Portcullis.Bam
