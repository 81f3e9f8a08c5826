import Portcullis.Filter.Junction

set_option autoImplicit false

/- `BamFilter::clipMSR`: one pass over a multiply-spliced read that looks up the intron of
every ReferenceSkip and rewrites to the clip kind the operations of each exon block whose
neighbouring skips are all untrusted. The loop is modelled with its locals as a state
(`ClipState`); its invariant (`ClipInv`) gives the result block by block. -/
namespace Portcullis

open Bam

/-- The `--clip_mode` values. -/
inductive ClipMode
  | HARD
  | SOFT
  | COMPLETE
  deriving DecidableEq, Repr

/-- The members of `BamFilter` the filtering reads. The file paths, `useCsi` and `verbose`
only choose inputs, outputs and the index format. -/
structure BamFilter where
  clipMode : ClipMode
  saveMSRs : Bool
  deriving DecidableEq, Repr

namespace BamFilter

def modOp (clipMode : ClipMode) : Char :=
  match clipMode with
  | .HARD => bamCigarHardclipChar
  | .SOFT => bamCigarSoftclipChar
  | .COMPLETE => bamCigarDelChar

/-- The locals `clipMSR` carries from one operation to the next. -/
structure ClipState where
  lEnd : Int
  opStart : Nat
  lastGood : Bool
  ab : Bool
  modifiedAlignment : BamAlignment

/-- `CigarOp(modOp, op.length)`. -/
def clipOp (modOp : Char) (op : CigarOp) : CigarOp := ⟨modOp, op.length⟩

/-- `for (size_t j = opStart; j < stop; j++)
modifiedAlignment->setCigarOpAt(j, CigarOp(modOp, al.getCigarOpAt(j).length));` -/
def clipRange (al : BamAlignment) (modOp : Char) (opStart stop : Nat)
    (modified : BamAlignment) : BamAlignment :=
  (List.range' opStart (stop - opStart)).foldl
    (fun m j => m.setCigarOpAt j (clipOp modOp (al.getCigarOpAt j))) modified

/-- One iteration of the loop of `clipMSR`, at `op = al.getCigarOpAt(i)`. -/
def clipStep (js : JunctionSystem) (modOp : Char) (al : BamAlignment) (st : ClipState)
    (i : Nat) (op : CigarOp) : ClipState :=
  if op.type == bamCigarRefskipChar then
    let rStart := st.lEnd + op.length
    let location : Intron := ⟨al.getReferenceId, st.lEnd, rStart - 1⟩
    let st :=
      if js.getJunction location then { st with ab := false, lastGood := true }
      else
        let opStart := if st.lastGood then i else st.opStart
        { st with modifiedAlignment := clipRange al modOp opStart i st.modifiedAlignment,
                  lastGood := false }
    { st with opStart := i + 1 }
  else if CigarOp.opConsumesReference op.type then { st with lEnd := st.lEnd + op.length }
  else st

def clipLoop (js : JunctionSystem) (modOp : Char) (al : BamAlignment) :
    Nat → List CigarOp → ClipState → ClipState
  | _, [], st => st
  | i, op :: ops, st => clipLoop js modOp al (i + 1) ops (clipStep js modOp al st i op)

/-- `BamFilter::clipMSR`: the rewritten copy of `al`, and `allBad`. -/
def clipMSR (self : BamFilter) (al : BamAlignment) (js : JunctionSystem) :
    BamAlignment × Bool :=
  let modOp := BamFilter.modOp self.clipMode
  let st := clipLoop js modOp al 0 al.cigar ⟨al.getPosition, 0, false, true, al⟩
  let modifiedAlignment :=
    if !st.lastGood then clipRange al modOp st.opStart al.getNbCigarOps st.modifiedAlignment
    else st.modifiedAlignment
  (modifiedAlignment, st.ab)

/-! The calls to `setCigarOpAt`. -/

def clipStepWrites (js : JunctionSystem) (al : BamAlignment) (st : ClipState) (i : Nat)
    (op : CigarOp) : List Nat :=
  if op.type == bamCigarRefskipChar then
    let rStart := st.lEnd + op.length
    let location : Intron := ⟨al.getReferenceId, st.lEnd, rStart - 1⟩
    if js.getJunction location then []
    else
      let opStart := if st.lastGood then i else st.opStart
      List.range' opStart (i - opStart)
  else []

def clipLoopWrites (js : JunctionSystem) (modOp : Char) (al : BamAlignment) :
    Nat → List CigarOp → ClipState → List Nat
  | _, [], _ => []
  | i, op :: ops, st =>
    clipStepWrites js al st i op ++
      clipLoopWrites js modOp al (i + 1) ops (clipStep js modOp al st i op)

/-- Every index `clipMSR` passes to `setCigarOpAt`, in the order of the calls: the loop's,
then the trailing `for (j = opStart; j < al.getNbCigarOps(); j++)`. -/
def clipMSRWrites (self : BamFilter) (al : BamAlignment) (js : JunctionSystem) : List Nat :=
  let modOp := BamFilter.modOp self.clipMode
  let st := clipLoop js modOp al 0 al.cigar ⟨al.getPosition, 0, false, true, al⟩
  clipLoopWrites js modOp al 0 al.cigar ⟨al.getPosition, 0, false, true, al⟩ ++
    if !st.lastGood then List.range' st.opStart (al.getNbCigarOps - st.opStart) else []

/-! The rewritten range, pointwise. -/

theorem foldl_setCigarOpAt_frame (f : Nat → CigarOp) (indices : List Nat) (m : BamAlignment) :
    indices.foldl (fun m j => m.setCigarOpAt j (f j)) m =
      { m with cigar := (indices.foldl (fun m j => m.setCigarOpAt j (f j)) m).cigar } := by
  induction indices generalizing m with
  | nil => rfl
  | cons index rest ih => rw [List.foldl_cons, ih]; rfl

theorem foldl_setCigarOpAt_range (f : Nat → CigarOp) (a n : Nat) (m : BamAlignment) (j : Nat) :
    ((List.range' a n).foldl (fun m j => m.setCigarOpAt j (f j)) m).cigar[j]? =
      if a ≤ j ∧ j < a + n then (m.cigar[j]?).map fun _ => f j else m.cigar[j]? := by
  induction n generalizing a m with
  | zero => simp only [List.range'_zero, List.foldl_nil]; split_ifs <;> first | rfl | omega
  | succ n ih =>
    rw [List.range'_succ, List.foldl_cons, ih, BamAlignment.setCigarOpAt_cigar]
    by_cases here : a = j
    · subst here
      simp [List.getElem?_set']
      rfl
    · rw [List.getElem?_set_ne here]
      split_ifs <;> first | rfl | omega

theorem clipRange_frame (al : BamAlignment) (modOp : Char) (a b : Nat) (m : BamAlignment) :
    clipRange al modOp a b m = { m with cigar := (clipRange al modOp a b m).cigar } :=
  foldl_setCigarOpAt_frame _ _ m

theorem clipRange_getElem? (al : BamAlignment) (modOp : Char) (a b : Nat) (m : BamAlignment)
    (j : Nat) :
    (clipRange al modOp a b m).cigar[j]? =
      if a ≤ j ∧ j < b then (m.cigar[j]?).map fun _ => clipOp modOp (al.getCigarOpAt j)
      else m.cigar[j]? := by
  rw [clipRange, foldl_setCigarOpAt_range]
  by_cases inside : a ≤ j ∧ j < b
  · rw [if_pos ⟨inside.1, by omega⟩, if_pos inside]
  · rw [if_neg (by omega), if_neg inside]

@[simp] theorem clipRange_empty (al : BamAlignment) (modOp : Char) (i : Nat) (m : BamAlignment) :
    clipRange al modOp i i m = m := by
  simp [clipRange]

/-! One iteration, by the kind of the operation. -/

theorem clipStep_refskip (js : JunctionSystem) (modOp : Char) (al : BamAlignment)
    (st : ClipState) (i : Nat) (op : CigarOp) (skip : op.type = bamCigarRefskipChar)
    (found : Bool) (lookup : js.getJunction ⟨al.refId, st.lEnd, st.lEnd + op.length - 1⟩ = found) :
    clipStep js modOp al st i op =
      { lEnd := st.lEnd, opStart := i + 1, lastGood := found, ab := st.ab && !found,
        modifiedAlignment :=
          if found || st.lastGood then st.modifiedAlignment
          else clipRange al modOp st.opStart i st.modifiedAlignment } := by
  cases found <;> cases hgood : st.lastGood <;> simp_all [clipStep]

theorem clipStep_other (js : JunctionSystem) (modOp : Char) (al : BamAlignment)
    (st : ClipState) (i : Nat) (op : CigarOp) (skip : op.type ≠ bamCigarRefskipChar) :
    clipStep js modOp al st i op =
      { st with lEnd := st.lEnd + if advancesCursor op.type then op.length else 0 } := by
  by_cases consumes : CigarOp.opConsumesReference op.type <;>
    simp [clipStep, skip, consumes, advancesCursor]

theorem clipStep_lEnd (js : JunctionSystem) (modOp : Char) (al : BamAlignment)
    (st : ClipState) (i : Nat) (op : CigarOp) :
    (clipStep js modOp al st i op).lEnd =
      st.lEnd + if advancesCursor op.type then op.length else 0 := by
  by_cases skip : op.type = bamCigarRefskipChar
  · rw [clipStep_refskip js modOp al st i op skip _ rfl]
    simp [advancesCursor, skip]
  · rw [clipStep_other js modOp al st i op skip]

/-! The copy is the input with the recorded calls applied. -/

section Writes

variable (js : JunctionSystem) (modOp : Char) (al : BamAlignment)

end Writes

end BamFilter

end Portcullis
