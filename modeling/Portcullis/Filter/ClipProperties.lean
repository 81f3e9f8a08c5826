import Mathlib.Data.Nat.Find
import Portcullis.Filter.ClipBlocks

set_option autoImplicit false

/- Consequences of the block description of `clipMSR`: what the copy keeps (every
ReferenceSkip, every length, the position and the aligned length), what SOFT clipping adds
to the query length, that a read whose lookups are all trusted is kept as it is, and how the
result moves when more junctions are trusted. -/
namespace Portcullis.BamFilter

open Bam

theorem modOp_ne_refskip (clipMode : ClipMode) : modOp clipMode ≠ bamCigarRefskipChar := by
  cases clipMode <;> decide

theorem modOp_not_consumesReference {clipMode : ClipMode} (mode : clipMode ≠ .COMPLETE) :
    CigarOp.opConsumesReference (modOp clipMode) = false := by
  cases clipMode
  · rfl
  · rfl
  · exact absurd rfl mode

section Kept

variable (self : BamFilter) (al : BamAlignment) (js : JunctionSystem)

theorem clipMSR_kept_or_clipped (j : Nat) :
    (self.clipMSR al js).1.cigar[j]? = al.cigar[j]? ∨
      (self.clipMSR al js).1.cigar[j]? = al.cigar[j]?.map (clipOp (modOp self.clipMode)) := by
  rw [clipMSR_getElem?]
  by_cases clipped : clippedAt js al j
  · exact Or.inr (by simp only [clipped, if_true])
  · exact Or.inl (by simp [clipped])

theorem clipMSR_length : (self.clipMSR al js).1.cigar.length = al.cigar.length := by
  have same : ∀ j, al.cigar.length ≤ j ↔ (self.clipMSR al js).1.cigar.length ≤ j := by
    intro j
    rw [← List.getElem?_eq_none_iff, ← List.getElem?_eq_none_iff, clipMSR_getElem?]
    simp
  exact Nat.le_antisymm ((same _).mp le_rfl) ((same _).mpr le_rfl)

/-- No ReferenceSkip is rewritten and none is made: the copy has the input's skips. -/
theorem clipMSR_skipAt (j : Nat) :
    skipAt (self.clipMSR al js).1.cigar j = skipAt al.cigar j := by
  have kind := modOp_ne_refskip self.clipMode
  unfold skipAt
  rw [clipMSR_getElem?]
  cases h : al.cigar[j]? with
  | none => rfl
  | some op =>
    by_cases clipped : clippedAt js al j
    · have notSkip := clipped.1
      simp only [skipAt, h] at notSkip
      simp [clipped, clipOp, isRefSkip, kind, notSkip]
    · simp [clipped]

theorem clipMSR_getNbJunctionsInRead :
    (self.clipMSR al js).1.getNbJunctionsInRead = al.getNbJunctionsInRead :=
  countP_isRefSkip_congr (clipMSR_length self al js) (clipMSR_skipAt self al js)

/-- On the two-skip read `50M 200N 30M 500N 20M`, with the first junction trusted, the
untrusted `500N` is not rewritten, and neither is the `30M` block after the trusted skip:
only the last block is hard clipped. -/
theorem clipMSR_keeps_untrusted_refskip :
    clipMSR ⟨.HARD, false⟩
        ⟨0, 0, 800, [⟨'M', 50⟩, ⟨'N', 200⟩, ⟨'M', 30⟩, ⟨'N', 500⟩, ⟨'M', 20⟩], 100⟩
        ⟨fun location => location == ⟨0, 50, 249⟩⟩ =
      (⟨0, 0, 800, [⟨'M', 50⟩, ⟨'N', 200⟩, ⟨'M', 30⟩, ⟨'N', 500⟩, ⟨'H', 20⟩], 100⟩, false) := by
  decide

/-- `clipMSR` copies the position and the aligned length, so the copy reports the input's
start and end whatever it clips. -/
theorem clipMSR_keeps_start_and_end :
    (self.clipMSR al js).1.getStart = al.getStart ∧
      (self.clipMSR al js).1.getEnd = al.getEnd := by
  rw [clipMSR_frame]
  exact ⟨rfl, rfl⟩

/-- A clipped leading block does not move the start: the first operation kept,
`100N`, begins at input coordinate 10, while the copy still starts at 0. -/
theorem clipMSR_start_not_first_kept :
    let al : BamAlignment :=
      ⟨0, 0, 330, [⟨'M', 10⟩, ⟨'N', 100⟩, ⟨'M', 10⟩, ⟨'N', 200⟩, ⟨'M', 10⟩], 30⟩
    let clipped := clipMSR ⟨.HARD, false⟩ al ⟨fun location => location == ⟨0, 20, 219⟩⟩
    al.alignedLength = referenceLength al.cigar ∧ clipped.2 = false ∧
      clipped.1.cigar = [⟨'H', 10⟩, ⟨'N', 100⟩, ⟨'M', 10⟩, ⟨'N', 200⟩, ⟨'M', 10⟩] ∧
      clipped.1.getStart ≠ al.position + referenceLength (al.cigar.take 1) := by
  decide

end Kept

/-! Reads whose lookups are all trusted. -/

section Trusted

variable {js : JunctionSystem} {al : BamAlignment}
  (trusted : ∀ i, skipAt al.cigar i = true → lookupTrusted js al i = true)
include trusted

theorem trustedBefore_of_skip {i j : Nat} (lt : i < j) (skip : skipAt al.cigar i = true) :
    trustedBefore js al j := by
  have last := Nat.findGreatest_spec (P := fun k => skipAt al.cigar k = true) (n := j - 1)
    (by omega) skip
  have le := Nat.findGreatest_le (P := fun k => skipAt al.cigar k = true) (j - 1)
  exact ⟨_, by omega, last, trusted _ last, fun k lt' gt => Bool.eq_false_iff.mpr
    (Nat.findGreatest_is_greatest gt (by omega))⟩

theorem trustedAfter_of_skip {i j : Nat} (lt : j < i) (skip : skipAt al.cigar i = true) :
    trustedAfter js al j := by
  have later : ∃ i, j < i ∧ skipAt al.cigar i = true := ⟨i, lt, skip⟩
  obtain ⟨after, first⟩ := Nat.find_spec later
  exact ⟨_, lt_length_of_skipAt first, after, first, trusted _ first,
    fun k lt' gt => Bool.eq_false_iff.mpr fun s => Nat.find_min later lt' ⟨gt, s⟩⟩

theorem clipMSR_eq_self_of_trusted (self : BamFilter) {i : Nat}
    (skip : skipAt al.cigar i = true) : (self.clipMSR al js).1 = al := by
  have unclipped : ∀ j, ¬ clippedAt js al j := by
    rintro j ⟨notSkip, noBefore, noAfter⟩
    rcases Nat.lt_trichotomy i j with before | rfl | after
    · exact noBefore (trustedBefore_of_skip trusted before skip)
    · simp [skip] at notSkip
    · exact noAfter (trustedAfter_of_skip trusted after skip)
  have cigar : (self.clipMSR al js).1.cigar = al.cigar :=
    List.ext_getElem? fun j => by simp [clipMSR_getElem?, unclipped j]
  rw [clipMSR_frame, cigar]

end Trusted

/-! The two walks. -/

theorem clipMSR_allBad_eq (self : BamFilter) (al : BamAlignment) (js : JunctionSystem) :
    (self.clipMSR al js).2 = !containsJunctionInSystem al js := by
  apply Bool.eq_iff_iff.mpr
  rw [clipMSR_allBad_iff, Bool.not_eq_true', ← Bool.not_eq_true, containsJunctionInSystem_iff]
  simp

/-- `clipMSR` and `containsJunctionInSystem` walk the CIGAR with the same cursor, so
`allBad` is set exactly when the containment check finds no trusted junction. -/
theorem clipMSR_allBad_iff_not_containsJunctionInSystem (self : BamFilter) (al : BamAlignment)
    (js : JunctionSystem) :
    (self.clipMSR al js).2 = true ↔ containsJunctionInSystem al js = false := by
  rw [clipMSR_allBad_eq, Bool.not_eq_true']

/-! Lengths under clipping. -/

/-- The operations of `ops` that `out` replaces, index by index. -/
def changedOps : List CigarOp → List CigarOp → List CigarOp
  | op :: ops, out :: outs => if out = op then changedOps ops outs else op :: changedOps ops outs
  | _, _ => []

theorem lengthWhere_kept_or_clipped (p : Char → Bool) (c : Char) (xs ys : List CigarOp)
    (each : ∀ j : Nat, ys[j]? = xs[j]? ∨ ys[j]? = xs[j]?.map (clipOp c)) :
    lengthWhere p ys + lengthWhere p (changedOps xs ys) =
      lengthWhere p xs + lengthWhere (fun _ => p c) (changedOps xs ys) := by
  induction xs generalizing ys with
  | nil =>
    obtain _ | ⟨y, ys⟩ := ys
    · rfl
    · simpa using each 0
  | cons x xs ih =>
    obtain _ | ⟨y, ys⟩ := ys
    · simpa using each 0
    have head : y = x ∨ y = clipOp c x := by simpa using each 0
    have tail := ih ys fun j => by simpa using each (j + 1)
    by_cases same : y = x
    · subst same
      rw [changedOps, if_pos rfl]
      simp only [lengthWhere_cons]
      omega
    · obtain rfl := head.resolve_left same
      rw [changedOps, if_neg same]
      simp only [lengthWhere_cons, clipOp]
      omega

/-- In SOFT mode the copy's query length is the input's plus the lengths of the rewritten
operations that did not consume query. -/
theorem clipMSR_soft_queryLength (saveMSRs : Bool) (al : BamAlignment) (js : JunctionSystem) :
    queryLength (clipMSR ⟨.SOFT, saveMSRs⟩ al js).1.cigar =
      queryLength al.cigar + lengthWhere (fun c => !CigarOp.opConsumesQuery c)
        (changedOps al.cigar (clipMSR ⟨.SOFT, saveMSRs⟩ al js).1.cigar) := by
  have kept := lengthWhere_kept_or_clipped CigarOp.opConsumesQuery _ _ _
    (clipMSR_kept_or_clipped ⟨.SOFT, saveMSRs⟩ al js)
  have whole := lengthWhere_add_not CigarOp.opConsumesQuery
    (changedOps al.cigar (clipMSR ⟨.SOFT, saveMSRs⟩ al js).1.cigar)
  have soft : CigarOp.opConsumesQuery (modOp ClipMode.SOFT) = true := by decide
  simp only [soft] at kept
  simp only [queryLength]
  omega

/-- Soft clipping the block `5M 2D 5M` before an untrusted skip turns the deletion into two
query bases: the read had 30, the copy's CIGAR consumes 32. -/
theorem clipMSR_soft_adds_deletion :
    let al : BamAlignment := ⟨0, 0, 332, [⟨'M', 5⟩, ⟨'D', 2⟩, ⟨'M', 5⟩, ⟨'N', 100⟩,
      ⟨'M', 10⟩, ⟨'N', 200⟩, ⟨'M', 10⟩], 30⟩
    let clipped := clipMSR ⟨.SOFT, false⟩ al ⟨fun location => location == ⟨0, 22, 221⟩⟩
    clipped.2 = false ∧ al.getLength = queryLength al.cigar ∧
      queryLength clipped.1.cigar = 32 := by
  decide

/-- In HARD and SOFT mode the copy spans less reference than the input by exactly the
reference-consuming lengths it rewrote. -/
theorem clipMSR_referenceLength (self : BamFilter) (al : BamAlignment) (js : JunctionSystem)
    (mode : self.clipMode ≠ .COMPLETE) :
    referenceLength (self.clipMSR al js).1.cigar =
      referenceLength al.cigar -
        referenceLength (changedOps al.cigar (self.clipMSR al js).1.cigar) := by
  have kept := lengthWhere_kept_or_clipped CigarOp.opConsumesReference _ _ _
    (clipMSR_kept_or_clipped self al js)
  have none : lengthWhere (fun _ => false)
      (changedOps al.cigar (self.clipMSR al js).1.cigar) = 0 :=
    lengthWhere_eq_zero _ _ fun _ _ => rfl
  simp only [modOp_not_consumesReference mode, none] at kept
  simp only [referenceLength]
  omega

/-- On `50M 200N 30M 500N 20M` with the first junction trusted the HARD copy spans 780
bases of reference, 20 fewer than the input's aligned length. -/
theorem clipMSR_referenceLength_on_clipped_tail :
    let al : BamAlignment :=
      ⟨0, 0, 800, [⟨'M', 50⟩, ⟨'N', 200⟩, ⟨'M', 30⟩, ⟨'N', 500⟩, ⟨'M', 20⟩], 100⟩
    let js : JunctionSystem := ⟨fun location => location == ⟨0, 50, 249⟩⟩
    BamFilter.clipMode ⟨.HARD, false⟩ ≠ .COMPLETE ∧
      referenceLength (clipMSR ⟨.HARD, false⟩ al js).1.cigar =
        referenceLength al.cigar -
          referenceLength (changedOps al.cigar (clipMSR ⟨.HARD, false⟩ al js).1.cigar) ∧
      referenceLength (clipMSR ⟨.HARD, false⟩ al js).1.cigar = 780 ∧ al.alignedLength = 800 := by
  intro al js
  exact ⟨by decide, clipMSR_referenceLength ⟨.HARD, false⟩ al js (by decide), by decide, rfl⟩

/-! Trusting more junctions. -/

section Monotone

variable {J J' : JunctionSystem} {al : BamAlignment}

theorem trustedBefore_of_subset (sub : J.Subset J') {j : Nat}
    (trusted : trustedBefore J al j) : trustedBefore J' al j :=
  let ⟨i, lt, skip, found, between⟩ := trusted
  ⟨i, lt, skip, sub _ found, between⟩

theorem trustedAfter_of_subset (sub : J.Subset J') {j : Nat}
    (trusted : trustedAfter J al j) : trustedAfter J' al j :=
  let ⟨i, within, lt, skip, found, between⟩ := trusted
  ⟨i, within, lt, skip, sub _ found, between⟩

theorem clippedAt_of_subset (sub : J.Subset J') {j : Nat} (clipped : clippedAt J' al j) :
    clippedAt J al j :=
  ⟨clipped.1, mt (trustedBefore_of_subset sub) clipped.2.1,
    mt (trustedAfter_of_subset sub) clipped.2.2⟩

theorem clipMSR_unchanged_of_subset (self : BamFilter) (sub : J.Subset J') (j : Nat)
    (same : (self.clipMSR al J).1.cigar[j]? = al.cigar[j]?) :
    (self.clipMSR al J').1.cigar[j]? = al.cigar[j]? := by
  rw [clipMSR_getElem?] at same ⊢
  cases h : al.cigar[j]? with
  | none => rfl
  | some op =>
    by_cases clipped : clippedAt J' al j
    · simp only [h, clippedAt_of_subset sub clipped, if_true, clipped] at same ⊢
      exact same
    · simp [clipped]

theorem clippedAt_iff_of_agree (agree : J.AgreeOn J' al) (j : Nat) :
    clippedAt J al j ↔ clippedAt J' al j := by
  have before : trustedBefore J al j ↔ trustedBefore J' al j :=
    ⟨fun ⟨i, lt, skip, found, between⟩ => ⟨i, lt, skip, agree i skip ▸ found, between⟩,
      fun ⟨i, lt, skip, found, between⟩ => ⟨i, lt, skip, (agree i skip).symm ▸ found, between⟩⟩
  have after : trustedAfter J al j ↔ trustedAfter J' al j :=
    ⟨fun ⟨i, within, lt, skip, found, between⟩ =>
        ⟨i, within, lt, skip, agree i skip ▸ found, between⟩,
      fun ⟨i, within, lt, skip, found, between⟩ =>
        ⟨i, within, lt, skip, (agree i skip).symm ▸ found, between⟩⟩
  simp only [clippedAt, before, after]

theorem clipMSR_congr (self : BamFilter) (agree : J.AgreeOn J' al) :
    self.clipMSR al J = self.clipMSR al J' := by
  have cigar : (self.clipMSR al J).1.cigar = (self.clipMSR al J').1.cigar :=
    List.ext_getElem? fun j => by simp only [clipMSR_getElem?, clippedAt_iff_of_agree agree j]
  have allBad : (self.clipMSR al J).2 = (self.clipMSR al J').2 := Bool.eq_iff_iff.mpr <| by
    simp only [clipMSR_allBad_iff]
    exact forall_congr' fun i => imp_congr_right fun skip => by rw [agree i skip]
  exact Prod.ext (by rw [clipMSR_frame self al J, clipMSR_frame self al J', cigar]) allBad

end Monotone

end Portcullis.BamFilter
