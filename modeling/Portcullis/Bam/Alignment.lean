import Portcullis.Bam.Cigar

set_option autoImplicit false

/- `BamAlignment` of bam_alignment.hpp, kept to the fields the filter reads, with the
accessors and the splice classification the filter calls. -/
namespace Portcullis.Bam

/-- An alignment record. Of the source's fields only these are read by the filter;
`lQseq` is `b->core.l_qseq`, which `getLength()` returns. -/
structure BamAlignment where
  refId : Int
  position : Int
  alignedLength : Int
  cigar : List CigarOp
  lQseq : Int
  deriving DecidableEq, Repr

namespace BamAlignment

@[simp] def getReferenceId (al : BamAlignment) : Int := al.refId
@[simp] def getPosition (al : BamAlignment) : Int := al.position
@[simp] def getStart (al : BamAlignment) : Int := al.position
@[simp] def getEnd (al : BamAlignment) : Int := al.position + al.alignedLength - 1
@[simp] def getLength (al : BamAlignment) : Int := al.lQseq
@[simp] def getNbCigarOps (al : BamAlignment) : Nat := al.cigar.length

/-- `cigar[index]`; every caller stays below `getNbCigarOps()`. -/
def getCigarOpAt (al : BamAlignment) (index : Nat) : CigarOp := al.cigar.getD index default

/-- `cigar[index] = cigarOp`, on a value: the record is copied, not shared. -/
def setCigarOpAt (al : BamAlignment) (index : Nat) (cigarOp : CigarOp) : BamAlignment :=
  { al with cigar := al.cigar.set index cigarOp }

/-- Modelled from the spec: `BamAlignment::getNbJunctionsInRead` is declared in
bam_alignment.hpp but its body is not under src/; spec 4.3 counts the ReferenceSkip
operations. -/
def getNbJunctionsInRead (al : BamAlignment) : Nat := al.cigar.countP isRefSkip

/-- Modelled from the spec: `BamAlignment::isSplicedRead` is declared in bam_alignment.hpp
but its body is not under src/; spec 4.3 makes it true iff some operation is a
ReferenceSkip. -/
def isSplicedRead (al : BamAlignment) : Bool := al.cigar.any isRefSkip

def isMultiplySplicedRead (al : BamAlignment) : Bool := al.getNbJunctionsInRead > 1

@[simp] theorem setCigarOpAt_cigar (al : BamAlignment) (index : Nat) (cigarOp : CigarOp) :
    (al.setCigarOpAt index cigarOp).cigar = al.cigar.set index cigarOp := rfl

theorem isSplicedRead_iff (al : BamAlignment) :
    al.isSplicedRead = true ↔ ∃ i, skipAt al.cigar i = true := by
  simp only [isSplicedRead, List.any_eq_true, skipAt]
  constructor
  · rintro ⟨op, mem, skip⟩
    obtain ⟨i, lt, rfl⟩ := List.getElem_of_mem mem
    exact ⟨i, by simp [List.getElem?_eq_getElem lt, skip]⟩
  · rintro ⟨i, skip⟩
    cases h : al.cigar[i]? with
    | none => simp [h] at skip
    | some op => exact ⟨op, List.getElem?_mem h, by simpa [h] using skip⟩

theorem isMultiplySplicedRead_of_two_skips (al : BamAlignment) {i k : Nat} (lt : i < k)
    (first : skipAt al.cigar i = true) (second : skipAt al.cigar k = true) :
    al.isMultiplySplicedRead = true := by
  have hk := lt_length_of_skipAt second
  have front : 0 < (al.cigar.take k).countP isRefSkip := by
    refine List.countP_pos_iff.mpr ⟨al.cigar[i], ?_, ?_⟩
    · exact List.mem_iff_getElem.mpr ⟨i, by simp; omega, by simp⟩
    · rwa [skipAt_of_getElem _ _ (by omega)] at first
  have back : 0 < (al.cigar.drop k).countP isRefSkip := by
    refine List.countP_pos_iff.mpr ⟨al.cigar[k], ?_, ?_⟩
    · exact List.mem_iff_getElem.mpr ⟨0, by simp; omega, by simp⟩
    · rwa [skipAt_of_getElem _ _ hk] at second
  simp only [isMultiplySplicedRead, getNbJunctionsInRead, gt_iff_lt, decide_eq_true_eq]
  rw [← List.take_append_drop k al.cigar, List.countP_append]
  omega

theorem eq_of_skipAt_of_single (al : BamAlignment) (single : al.getNbJunctionsInRead ≤ 1)
    {i k : Nat} (first : skipAt al.cigar i = true) (second : skipAt al.cigar k = true) :
    i = k := by
  have notMultiply : al.isMultiplySplicedRead = false := by
    simp [isMultiplySplicedRead, single]
  rcases Nat.lt_trichotomy i k with lt | rfl | gt
  · simp [isMultiplySplicedRead_of_two_skips al lt first second] at notMultiply
  · rfl
  · simp [isMultiplySplicedRead_of_two_skips al gt second first] at notMultiply

end BamAlignment

end Portcullis.Bam
