import Portcullis.Filter.ClipMSR

set_option autoImplicit false

/- What `clipMSR` computes, block by block. The ReferenceSkips split a CIGAR into exon
blocks; an operation is clipped when it is not a skip and neither skip next to its block
(the last one before it, the first one after it) has a trusted lookup. The loop's
invariant `ClipInv` refines the walk to this description. -/
namespace Portcullis.BamFilter

open Bam

/-- The ReferenceSkip that opens the block of operation `j` is trusted. -/
def trustedBefore (js : JunctionSystem) (al : BamAlignment) (j : Nat) : Prop :=
  ∃ i, i < j ∧ (skipAt al.cigar i = true ∧ lookupTrusted js al i = true ∧
    ∀ k, k < j → i < k → skipAt al.cigar k = false)

/-- The ReferenceSkip that closes the block of operation `j` is trusted. -/
def trustedAfter (js : JunctionSystem) (al : BamAlignment) (j : Nat) : Prop :=
  ∃ i, i < al.cigar.length ∧ (j < i ∧ skipAt al.cigar i = true ∧
    lookupTrusted js al i = true ∧ ∀ k, k < i → j < k → skipAt al.cigar k = false)

/-- Operation `j` is not a ReferenceSkip, and neither skip next to its block is trusted. -/
def clippedAt (js : JunctionSystem) (al : BamAlignment) (j : Nat) : Prop :=
  skipAt al.cigar j = false ∧ ¬ trustedBefore js al j ∧ ¬ trustedAfter js al j

instance (js : JunctionSystem) (al : BamAlignment) (j : Nat) :
    Decidable (trustedBefore js al j) :=
  inferInstanceAs (Decidable (∃ i, i < j ∧ _))

instance (js : JunctionSystem) (al : BamAlignment) (j : Nat) :
    Decidable (trustedAfter js al j) :=
  inferInstanceAs (Decidable (∃ i, i < al.cigar.length ∧ _))

instance (js : JunctionSystem) (al : BamAlignment) (j : Nat) :
    Decidable (clippedAt js al j) :=
  inferInstanceAs (Decidable (_ ∧ _))

section Blocks

variable {js : JunctionSystem} {al : BamAlignment}

theorem trustedBefore_iff_opener {opStart j : Nat} (le : opStart ≤ j)
    (block : ∀ k, k < j → opStart ≤ k → skipAt al.cigar k = false)
    (opener : 0 < opStart → skipAt al.cigar (opStart - 1) = true) :
    trustedBefore js al j ↔ 0 < opStart ∧ lookupTrusted js al (opStart - 1) = true := by
  constructor
  · rintro ⟨i, lt, skip, trusted, between⟩
    have outside : i < opStart := by
      by_contra inside
      simp [block i lt (by omega)] at skip
    have last : i = opStart - 1 := by
      by_contra earlier
      simp [between (opStart - 1) (by omega) (by omega)] at opener
      omega
    exact ⟨by omega, last ▸ trusted⟩
  · rintro ⟨pos, trusted⟩
    exact ⟨opStart - 1, by omega, opener pos, trusted,
      fun k lt after => block k lt (by omega)⟩

theorem trustedAfter_iff_closer {i j : Nat} (lt : j < i) (skip : skipAt al.cigar i = true)
    (between : ∀ k, k < i → j < k → skipAt al.cigar k = false) :
    trustedAfter js al j ↔ lookupTrusted js al i = true := by
  constructor
  · rintro ⟨i', -, lt', skip', trusted', between'⟩
    rcases Nat.lt_trichotomy i' i with before | rfl | after
    · simp [between i' before lt'] at skip'
    · exact trusted'
    · simp [between' i after lt] at skip
  · exact fun trusted => ⟨i, lt_length_of_skipAt skip, lt, skip, trusted, between⟩

theorem not_trustedAfter_of_last {j : Nat}
    (none : ∀ k, j < k → skipAt al.cigar k = false) : ¬ trustedAfter js al j := by
  rintro ⟨i, -, lt, skip, -⟩
  simp [none i lt] at skip

end Blocks

/-- What holds of the locals of `clipMSR` once operations `0 .. i - 1` are walked: the
cursor, the open block `[opStart, i)` and the skip that opened it, the flags, and the
copy, rewritten as the blocks say below `opStart` and untouched from it on. -/
structure ClipInv (js : JunctionSystem) (modOp : Char) (al : BamAlignment) (i : Nat)
    (st : ClipState) : Prop where
  cursor : st.lEnd = al.position + lengthWhere advancesCursor (al.cigar.take i)
  start_le : st.opStart ≤ i
  block : ∀ k, k < i → st.opStart ≤ k → skipAt al.cigar k = false
  opener : 0 < st.opStart → skipAt al.cigar (st.opStart - 1) = true
  lastGood : st.lastGood = true ↔ 0 < st.opStart ∧ lookupTrusted js al (st.opStart - 1) = true
  ab : st.ab = true ↔ ∀ k, k < i → skipAt al.cigar k = true → lookupTrusted js al k = false
  frame : st.modifiedAlignment = { al with cigar := st.modifiedAlignment.cigar }
  done : ∀ j, j < st.opStart → st.modifiedAlignment.cigar[j]? =
    al.cigar[j]?.map fun op => if clippedAt js al j then clipOp modOp op else op
  pending : ∀ j, st.opStart ≤ j → st.modifiedAlignment.cigar[j]? = al.cigar[j]?

section Invariant

variable {js : JunctionSystem} {modOp : Char} {al : BamAlignment}

theorem ClipInv.init (js : JunctionSystem) (modOp : Char) (al : BamAlignment) :
    ClipInv js modOp al 0 ⟨al.position, 0, false, true, al⟩ where
  cursor := by simp
  start_le := le_refl 0
  block := fun _ lt _ => absurd lt (Nat.not_lt_zero _)
  opener := fun pos => absurd pos (Nat.lt_irrefl 0)
  lastGood := by simp
  ab := by simp
  frame := rfl
  done := fun _ lt => absurd lt (Nat.not_lt_zero _)
  pending := fun _ _ => rfl

theorem ClipInv.looked {i : Nat} {st : ClipState} (inv : ClipInv js modOp al i st)
    (hi : i < al.cigar.length) :
    (⟨al.refId, st.lEnd, st.lEnd + al.cigar[i].length - 1⟩ : Intron) = lookupJunction al i := by
  simp [lookupJunction, walkJunction, inv.cursor, List.getD_eq_getElem?_getD,
    List.getElem?_eq_getElem hi]

theorem ClipInv.step_other {i : Nat} {st : ClipState} (inv : ClipInv js modOp al i st)
    (hi : i < al.cigar.length) (skip : al.cigar[i].type ≠ bamCigarRefskipChar) :
    ClipInv js modOp al (i + 1) (clipStep js modOp al st i al.cigar[i]) := by
  have notSkip : skipAt al.cigar i = false := by
    simp [skipAt_of_getElem _ _ hi, isRefSkip, skip]
  rw [clipStep_other js modOp al st i _ skip]
  refine ⟨?_, by simp only; have := inv.start_le; omega, ?_, inv.opener, inv.lastGood, ?_,
    inv.frame, inv.done, inv.pending⟩
  · rw [lengthWhere_take_succ _ _ _ hi, inv.cursor, Int.add_assoc]
  · exact Nat.forall_lt_succ_right.mpr ⟨inv.block, fun _ => notSkip⟩
  · rw [inv.ab, Nat.forall_lt_succ_right]
    simp [notSkip]

theorem map_clipOp_getCigarOpAt (modOp : Char) (al : BamAlignment) (j : Nat) :
    (al.cigar[j]?).map (fun _ => clipOp modOp (al.getCigarOpAt j)) =
      (al.cigar[j]?).map (clipOp modOp) := by
  cases h : al.cigar[j]? <;>
    simp [BamAlignment.getCigarOpAt, List.getD_eq_getElem?_getD, h]

theorem ClipInv.clippedAt_iff_open {i : Nat} {st : ClipState} (inv : ClipInv js modOp al i st)
    (skipI : skipAt al.cigar i = true) {j : Nat} (le : st.opStart ≤ j) (lt : j < i) :
    clippedAt js al j ↔ (lookupTrusted js al i || st.lastGood) = false := by
  have before : trustedBefore js al j ↔ _ := trustedBefore_iff_opener le
    (fun k lt' le' => inv.block k (by omega) le') inv.opener
  have after : trustedAfter js al j ↔ _ := trustedAfter_iff_closer lt skipI
    (fun k lt' gt => inv.block k lt' (by omega))
  simp only [clippedAt, inv.block j lt le, before, ← inv.lastGood, after]
  cases lookupTrusted js al i <;> cases st.lastGood <;> simp

theorem ClipInv.clippedAt_iff_last {st : ClipState}
    (inv : ClipInv js modOp al al.cigar.length st) {j : Nat} (le : st.opStart ≤ j)
    (lt : j < al.cigar.length) :
    clippedAt js al j ↔ st.lastGood = false := by
  have before : trustedBefore js al j ↔ _ := trustedBefore_iff_opener le
    (fun k lt' le' => inv.block k (by omega) le') inv.opener
  have noAfter : ¬ trustedAfter js al j := not_trustedAfter_of_last fun k after => by
    rcases Nat.lt_or_ge k al.cigar.length with within | beyond
    · exact inv.block k within (by omega)
    · simp [skipAt, List.getElem?_eq_none beyond]
  simp only [clippedAt, inv.block j lt le, before, ← inv.lastGood, noAfter]
  simp

theorem ClipInv.closeBlock_getElem? {i : Nat} {st : ClipState} (inv : ClipInv js modOp al i st)
    (keep : Bool) (j : Nat) :
    (if keep then st.modifiedAlignment
      else clipRange al modOp st.opStart i st.modifiedAlignment).cigar[j]? =
      if keep = false ∧ st.opStart ≤ j ∧ j < i then (al.cigar[j]?).map (clipOp modOp)
      else st.modifiedAlignment.cigar[j]? := by
  cases keep
  · simp only [Bool.false_eq_true, if_false, clipRange_getElem?]
    by_cases inside : st.opStart ≤ j ∧ j < i
    · rw [if_pos inside, if_pos ⟨trivial, inside⟩, inv.pending j inside.1,
        map_clipOp_getCigarOpAt]
    · rw [if_neg inside, if_neg (fun h => inside h.2)]
  · simp

theorem ClipInv.step_refskip {i : Nat} {st : ClipState} (inv : ClipInv js modOp al i st)
    (hi : i < al.cigar.length) (skip : al.cigar[i].type = bamCigarRefskipChar) :
    ClipInv js modOp al (i + 1) (clipStep js modOp al st i al.cigar[i]) := by
  have skipI : skipAt al.cigar i = true := by
    simp [skipAt_of_getElem _ _ hi, isRefSkip, skip]
  rw [clipStep_refskip js modOp al st i _ skip (lookupTrusted js al i)
    (by rw [inv.looked hi]; rfl)]
  have inBlock := fun j => inv.clippedAt_iff_open skipI (j := j)
  refine ⟨?_, le_refl _, fun k lt (le : i + 1 ≤ k) => absurd lt (by omega), fun _ => skipI,
    by simp, ?_, ?_, ?_, ?_⟩
  · rw [lengthWhere_take_succ _ _ _ hi, inv.cursor]
    simp [advancesCursor, skip]
  · simp only [Bool.and_eq_true, Bool.not_eq_true', inv.ab, Nat.forall_lt_succ_right, skipI,
      forall_const]
  · cases lookupTrusted js al i || st.lastGood
    · simp only [Bool.false_eq_true, if_false]
      rw [clipRange_frame, inv.frame]
    · simp [← inv.frame]
  · intro j lt
    simp only
    rw [inv.closeBlock_getElem?]
    rcases Nat.lt_or_ge j st.opStart with early | late
    · rw [if_neg (by omega), inv.done j early]
    · rcases Nat.lt_succ_iff_lt_or_eq.mp lt with lt | rfl
      · by_cases keep : (lookupTrusted js al i || st.lastGood) = false
        · rw [if_pos ⟨keep, late, lt⟩]
          simp [(inBlock j late lt).mpr keep]
        · rw [if_neg (fun h => keep h.1), inv.pending j late]
          simp [mt (inBlock j late lt).mp keep]
      · rw [if_neg (by omega), inv.pending j late]
        simp [clippedAt, skipI]
  · intro j (le : i + 1 ≤ j)
    simp only
    rw [inv.closeBlock_getElem?, if_neg (by omega), inv.pending j (by have := inv.start_le; omega)]

theorem ClipInv.step {i : Nat} {st : ClipState} (inv : ClipInv js modOp al i st)
    (hi : i < al.cigar.length) :
    ClipInv js modOp al (i + 1) (clipStep js modOp al st i al.cigar[i]) := by
  by_cases skip : al.cigar[i].type = bamCigarRefskipChar
  · exact inv.step_refskip hi skip
  · exact inv.step_other hi skip

/-- Walking the rest of the CIGAR keeps the invariant up to its end. -/
theorem ClipInv.run (ops : List CigarOp) {i : Nat} {st : ClipState}
    (inv : ClipInv js modOp al i st) (within : i ≤ al.cigar.length)
    (rest : ops = al.cigar.drop i) :
    ClipInv js modOp al al.cigar.length (clipLoop js modOp al i ops st) := by
  induction ops generalizing i st with
  | nil =>
    have ended : al.cigar.length ≤ i := List.drop_eq_nil_iff.mp rest.symm
    rwa [show i = al.cigar.length by omega] at inv
  | cons op ops ih =>
    have hi : i < al.cigar.length := by
      by_contra past
      rw [List.drop_eq_nil_of_le (by omega)] at rest
      cases rest
    rw [List.drop_eq_getElem_cons hi] at rest
    obtain ⟨rfl, rfl⟩ := List.cons.inj rest
    exact ih (inv.step hi) hi rfl

/-! The calls to `setCigarOpAt`, walk by walk. -/

theorem range'_append_sub {a b c : Nat} (ab : a ≤ b) (bc : b ≤ c) :
    List.range' a (b - a) ++ List.range' b (c - b) = List.range' a (c - a) := by
  have split := List.range'_append_1 a (b - a) (c - b)
  rwa [Nat.add_sub_cancel' ab, show c - b + (b - a) = c - a by omega] at split

theorem ClipInv.step_writes {i : Nat} {st : ClipState} (inv : ClipInv js modOp al i st)
    (hi : i < al.cigar.length) :
    st.opStart ≤ (clipStep js modOp al st i al.cigar[i]).opStart ∧
    clipStepWrites js al st i al.cigar[i] =
      (List.range' st.opStart ((clipStep js modOp al st i al.cigar[i]).opStart - st.opStart)).filter
        fun j => decide (clippedAt js al j) := by
  have start := inv.start_le
  by_cases skip : al.cigar[i].type = bamCigarRefskipChar
  · have skipI : skipAt al.cigar i = true := by
      simp [skipAt_of_getElem _ _ hi, isRefSkip, skip]
    have lookup : js.getJunction ⟨al.refId, st.lEnd, st.lEnd + al.cigar[i].length - 1⟩ =
        lookupTrusted js al i := by
      rw [inv.looked hi]
      rfl
    have writes : clipStepWrites js al st i al.cigar[i] =
        if (lookupTrusted js al i || st.lastGood) = true then []
        else List.range' st.opStart (i - st.opStart) := by
      dsimp only [clipStepWrites]
      simp only [skip, beq_self_eq_true, if_true, BamAlignment.getReferenceId, lookup]
      cases lookupTrusted js al i <;> cases st.lastGood <;> simp
    rw [clipStep_refskip js modOp al st i _ skip _ lookup, writes]
    refine ⟨by simp only; omega, ?_⟩
    have closed : List.range' st.opStart (i + 1 - st.opStart) =
        List.range' st.opStart (i - st.opStart) ++ [i] := by
      rw [← range'_append_sub start (Nat.le_succ i), show i.succ - i = 1 by omega]
      rfl
    simp only
    rw [closed, List.filter_append, List.filter_singleton]
    simp only [clippedAt, skipI, Bool.true_eq_false, false_and, decide_False, cond_false,
      List.append_nil]
    by_cases keep : (lookupTrusted js al i || st.lastGood) = true
    · rw [if_pos keep, eq_comm, List.filter_eq_nil_iff]
      intro j mem clipped
      simp only [List.mem_range'_1] at mem
      have := (inv.clippedAt_iff_open skipI (j := j) (by omega) (by omega)).mp
        (of_decide_eq_true clipped)
      simp [keep] at this
    · rw [if_neg keep, eq_comm, List.filter_eq_self]
      intro j mem
      simp only [List.mem_range'_1] at mem
      exact decide_eq_true ((inv.clippedAt_iff_open skipI (by omega) (by omega)).mpr
        (by simpa using keep))
  · rw [clipStep_other js modOp al st i _ skip]
    simp [clipStepWrites, skip]

theorem ClipInv.writes_run (ops : List CigarOp) {i : Nat} {st : ClipState}
    (inv : ClipInv js modOp al i st) (within : i ≤ al.cigar.length)
    (rest : ops = al.cigar.drop i) :
    st.opStart ≤ (clipLoop js modOp al i ops st).opStart ∧
    clipLoopWrites js modOp al i ops st =
      (List.range' st.opStart ((clipLoop js modOp al i ops st).opStart - st.opStart)).filter
        fun j => decide (clippedAt js al j) := by
  induction ops generalizing i st with
  | nil => simp [clipLoop, clipLoopWrites]
  | cons op ops ih =>
    have hi : i < al.cigar.length := by
      by_contra past
      rw [List.drop_eq_nil_of_le (by omega)] at rest
      cases rest
    rw [List.drop_eq_getElem_cons hi] at rest
    obtain ⟨rfl, rfl⟩ := List.cons.inj rest
    obtain ⟨stepLe, stepWrites⟩ := inv.step_writes hi
    obtain ⟨runLe, runWrites⟩ := ih (inv.step hi) hi rfl
    rw [clipLoop, clipLoopWrites, stepWrites, runWrites, ← List.filter_append,
      range'_append_sub stepLe runLe]
    exact ⟨le_trans stepLe runLe, rfl⟩

end Invariant

section Result

variable (self : BamFilter) (al : BamAlignment) (js : JunctionSystem)

def clipFinal : ClipState :=
  clipLoop js (modOp self.clipMode) al 0 al.cigar ⟨al.getPosition, 0, false, true, al⟩

theorem clipFinal_inv :
    ClipInv js (modOp self.clipMode) al al.cigar.length (clipFinal self al js) :=
  (ClipInv.init js _ al).run al.cigar (Nat.zero_le _) (List.drop_zero _).symm

theorem clipMSR_eq_final :
    self.clipMSR al js =
      (if !(clipFinal self al js).lastGood then
        clipRange al (modOp self.clipMode) (clipFinal self al js).opStart al.cigar.length
          (clipFinal self al js).modifiedAlignment
      else (clipFinal self al js).modifiedAlignment, (clipFinal self al js).ab) := rfl

theorem clipMSR_frame :
    (self.clipMSR al js).1 = { al with cigar := (self.clipMSR al js).1.cigar } := by
  have inv := clipFinal_inv self al js
  rw [clipMSR_eq_final]
  split
  · rw [clipRange_frame, inv.frame]
  · exact inv.frame

/-- `allBad` is true exactly when no ReferenceSkip's lookup is trusted. -/
theorem clipMSR_allBad_iff :
    (self.clipMSR al js).2 = true ↔
      ∀ i, skipAt al.cigar i = true → lookupTrusted js al i = false := by
  rw [clipMSR_eq_final, (clipFinal_inv self al js).ab]
  exact ⟨fun none i skip => none i (lt_length_of_skipAt skip) skip,
    fun none i _ skip => none i skip⟩

/-- Operation `j` of the copy is operation `j` of `al`, rewritten to the clip kind exactly
when it is clipped by its block. -/
theorem clipMSR_getElem? (j : Nat) :
    (self.clipMSR al js).1.cigar[j]? =
      al.cigar[j]?.map fun op =>
        if clippedAt js al j then clipOp (modOp self.clipMode) op else op := by
  have inv := clipFinal_inv self al js
  have closed : (self.clipMSR al js).1 = if (clipFinal self al js).lastGood
      then (clipFinal self al js).modifiedAlignment
      else clipRange al (modOp self.clipMode) (clipFinal self al js).opStart al.cigar.length
        (clipFinal self al js).modifiedAlignment := by
    rw [clipMSR_eq_final]
    cases (clipFinal self al js).lastGood <;> rfl
  rw [closed, inv.closeBlock_getElem?]
  rcases Nat.lt_or_ge j (clipFinal self al js).opStart with early | late
  · rw [if_neg (by omega), inv.done j early]
  rcases Nat.lt_or_ge j al.cigar.length with inside | past
  · by_cases keep : (clipFinal self al js).lastGood = false
    · rw [if_pos ⟨keep, late, inside⟩]
      simp [(inv.clippedAt_iff_last late inside).mpr keep]
    · rw [if_neg (fun h => keep h.1), inv.pending j late]
      simp [mt (inv.clippedAt_iff_last late inside).mp keep]
  · rw [if_neg (by omega), inv.pending j late, List.getElem?_eq_none past]
    rfl

/-- `clipMSR` calls `setCigarOpAt` once for each operation it clips, in increasing index
order, and for no other operation. -/
theorem clipMSRWrites_eq_clipped :
    clipMSRWrites self al js =
      (List.range al.getNbCigarOps).filter fun j => decide (clippedAt js al j) := by
  have inv := clipFinal_inv self al js
  have writes : clipMSRWrites self al js =
      clipLoopWrites js (modOp self.clipMode) al 0 al.cigar ⟨al.getPosition, 0, false, true, al⟩ ++
        if !(clipFinal self al js).lastGood then
          List.range' (clipFinal self al js).opStart
            (al.cigar.length - (clipFinal self al js).opStart)
        else [] := rfl
  have loop : clipLoopWrites js (modOp self.clipMode) al 0 al.cigar
      ⟨al.getPosition, 0, false, true, al⟩ =
      (List.range' 0 ((clipFinal self al js).opStart - 0)).filter
        fun j => decide (clippedAt js al j) :=
    ((ClipInv.init js _ al).writes_run al.cigar (Nat.zero_le _) (List.drop_zero _).symm).2
  have trailing : (if !(clipFinal self al js).lastGood then
        List.range' (clipFinal self al js).opStart
          (al.cigar.length - (clipFinal self al js).opStart)
      else []) =
      (List.range' (clipFinal self al js).opStart
        (al.cigar.length - (clipFinal self al js).opStart)).filter
          fun j => decide (clippedAt js al j) := by
    by_cases good : (clipFinal self al js).lastGood = true
    · rw [if_neg (by simp [good]), eq_comm, List.filter_eq_nil_iff]
      intro j mem clipped
      simp only [List.mem_range'_1] at mem
      have := (inv.clippedAt_iff_last (j := j) (by omega) (by omega)).mp
        (of_decide_eq_true clipped)
      simp [good] at this
    · rw [if_pos (by simpa using good), eq_comm, List.filter_eq_self]
      intro j mem
      simp only [List.mem_range'_1] at mem
      exact decide_eq_true ((inv.clippedAt_iff_last (by omega) (by omega)).mpr
        (by simpa using good))
  rw [writes, loop, trailing, ← List.filter_append,
    range'_append_sub (Nat.zero_le _) inv.start_le, List.range_eq_range']
  rfl

end Result

end Portcullis.BamFilter
