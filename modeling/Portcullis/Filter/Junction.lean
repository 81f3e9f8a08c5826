import Portcullis.Bam.Alignment

set_option autoImplicit false

/- The junction lookups of bam_filter.cc: the intron a ReferenceSkip implies, the trusted
junction set, the cursor the filter's walks keep, and
`BamFilter::containsJunctionInSystem`. -/
namespace Portcullis

open Bam

/-- An intron as the filter builds it, `Intron(RefSeq(refId, name, length), start, end)`.
The reference is kept by its id: name and length are read from `refs[refId]`, so they
are functions of the id. `stop` is the source's inclusive `end`. -/
structure Intron where
  refId : Int
  start : Int
  stop : Int
  deriving DecidableEq, Repr

/-- The trusted junction set. Its loader and its lookup are not under src/; the filter
reads only whether `getJunction` finds an intron (`!= nullptr`), taken here as the set's
membership test, so every set of junctions is a `JunctionSystem`. -/
structure JunctionSystem where
  getJunction : Intron → Bool

def JunctionSystem.Subset (J J' : JunctionSystem) : Prop :=
  ∀ location, J.getJunction location = true → J'.getJunction location = true

/-- The kinds the cursor `lEnd` of both walks advances over. A ReferenceSkip is caught by
the first branch, so only the other reference-consuming kinds reach `lEnd += op.length`. -/
def advancesCursor (c : Char) : Bool :=
  c != bamCigarRefskipChar && CigarOp.opConsumesReference c

theorem walk_kind_cases (c : Char) :
    (c = bamCigarRefskipChar ∧ CigarOp.opConsumesReference c = true ∧ advancesCursor c = false) ∨
    (c ≠ bamCigarRefskipChar ∧ CigarOp.opConsumesReference c = true ∧ advancesCursor c = true) ∨
    (c ≠ bamCigarRefskipChar ∧ CigarOp.opConsumesReference c = false ∧
      advancesCursor c = false) := by
  by_cases skip : c = bamCigarRefskipChar
  · subst skip
    decide
  · cases consumes : CigarOp.opConsumesReference c <;> simp [advancesCursor, skip, consumes]

def walkJunction (refId lEnd : Int) (ops : List CigarOp) (i : Nat) : Intron :=
  let start := lEnd + lengthWhere advancesCursor (ops.take i)
  ⟨refId, start, start + (ops.getD i default).length - 1⟩

/-- The intron `containsJunctionInSystem` and `clipMSR` look up for operation `i`. -/
def lookupJunction (al : BamAlignment) (i : Nat) : Intron :=
  walkJunction al.refId al.position al.cigar i

def lookupTrusted (js : JunctionSystem) (al : BamAlignment) (i : Nat) : Bool :=
  js.getJunction (lookupJunction al i)

/-- `J` and `J'` answer alike at every intron the walks look up on `al`. -/
def JunctionSystem.AgreeOn (J J' : JunctionSystem) (al : BamAlignment) : Prop :=
  ∀ i, skipAt al.cigar i = true → lookupTrusted J al i = lookupTrusted J' al i

/-- The intron operation `i` spans: it starts after every reference-consuming operation
before it, earlier ReferenceSkips included. -/
def spannedJunction (al : BamAlignment) (i : Nat) : Intron :=
  let start := al.position + referenceLength (al.cigar.take i)
  ⟨al.refId, start, start + (al.getCigarOpAt i).length - 1⟩

@[simp] theorem walkJunction_zero (refId lEnd : Int) (op : CigarOp) (ops : List CigarOp) :
    walkJunction refId lEnd (op :: ops) 0 = ⟨refId, lEnd, lEnd + op.length - 1⟩ := by
  simp [walkJunction]

@[simp] theorem walkJunction_succ (refId lEnd : Int) (op : CigarOp) (ops : List CigarOp)
    (i : Nat) :
    walkJunction refId lEnd (op :: ops) (i + 1) =
      walkJunction refId (lEnd + if advancesCursor op.type then op.length else 0) ops i := by
  simp [walkJunction, Int.add_assoc]

theorem referenceLength_eq_cursor_add_skips (ops : List CigarOp) :
    referenceLength ops =
      lengthWhere advancesCursor ops + lengthWhere (· == bamCigarRefskipChar) ops := by
  induction ops with
  | nil => rfl
  | cons op ops ih =>
    simp only [referenceLength] at ih ⊢
    by_cases skip : op.type = bamCigarRefskipChar
    · simp [skip, advancesCursor, CigarOp.opConsumesReference, ih, bamCigarRefskipChar]
      omega
    · simp [skip, advancesCursor, ih]
      omega

theorem lookupJunction_eq_spanned (al : BamAlignment) (i : Nat)
    (first : ∀ k, k < i → skipAt al.cigar k = false) :
    lookupJunction al i = spannedJunction al i := by
  have noSkips : lengthWhere (· == bamCigarRefskipChar) (al.cigar.take i) = 0 :=
    lengthWhere_eq_zero _ _ fun _ mem => not_refSkip_of_mem_take first mem
  simp [lookupJunction, spannedJunction, walkJunction, referenceLength_eq_cursor_add_skips,
    noSkips, BamAlignment.getCigarOpAt]

theorem lookupJunction_eq_spanned_of_single (al : BamAlignment) {i : Nat}
    (single : al.getNbJunctionsInRead ≤ 1) (skip : skipAt al.cigar i = true) :
    lookupJunction al i = spannedJunction al i :=
  lookupJunction_eq_spanned al i fun _ lt => Bool.eq_false_iff.mpr fun before =>
    absurd (BamAlignment.eq_of_skipAt_of_single al single before skip) (by omega)

/-- For every operation the lookup is the intron it spans moved left by the lengths of the
ReferenceSkips before it, which the cursor does not count. -/
theorem lookupJunction_eq_spanned_shifted (al : BamAlignment) (i : Nat) :
    lookupJunction al i =
      ⟨al.refId,
        (spannedJunction al i).start - lengthWhere (· == bamCigarRefskipChar) (al.cigar.take i),
        (spannedJunction al i).stop -
          lengthWhere (· == bamCigarRefskipChar) (al.cigar.take i)⟩ := by
  simp only [lookupJunction, spannedJunction, walkJunction, referenceLength_eq_cursor_add_skips,
    BamAlignment.getCigarOpAt, Intron.mk.injEq, true_and]
  omega

namespace BamFilter

/-- The loop of `BamFilter::containsJunctionInSystem` over the operations `ops` still to
walk, with the cursor `lEnd`. -/
def containsJunctionLoop (js : JunctionSystem) (refId : Int) : List CigarOp → Int → Bool
  | [], _ => false
  | op :: ops, lEnd =>
    if op.type == bamCigarRefskipChar then
      let rStart := lEnd + op.length
      if js.getJunction ⟨refId, lEnd, rStart - 1⟩ then true
      else containsJunctionLoop js refId ops lEnd
    else if CigarOp.opConsumesReference op.type then
      containsJunctionLoop js refId ops (lEnd + op.length)
    else containsJunctionLoop js refId ops lEnd

def containsJunctionInSystem (al : BamAlignment) (js : JunctionSystem) : Bool :=
  containsJunctionLoop js al.getReferenceId al.cigar al.getPosition

theorem containsJunctionLoop_iff (js : JunctionSystem) (refId : Int) (ops : List CigarOp)
    (lEnd : Int) :
    containsJunctionLoop js refId ops lEnd = true ↔
      ∃ i, skipAt ops i = true ∧ js.getJunction (walkJunction refId lEnd ops i) = true := by
  induction ops generalizing lEnd with
  | nil => simp [containsJunctionLoop, skipAt]
  | cons op ops ih =>
    rw [← Nat.or_exists_add_one]
    by_cases skip : op.type = bamCigarRefskipChar
    · by_cases found : js.getJunction ⟨refId, lEnd, lEnd + op.length - 1⟩ <;>
        simp [containsJunctionLoop, skip, found, ih, advancesCursor, isRefSkip]
    · by_cases consumes : CigarOp.opConsumesReference op.type <;>
        simp [containsJunctionLoop, skip, consumes, ih, advancesCursor, isRefSkip]

/-- The containment check is true iff some ReferenceSkip's looked-up intron is trusted. -/
theorem containsJunctionInSystem_iff (al : BamAlignment) (js : JunctionSystem) :
    containsJunctionInSystem al js = true ↔
      ∃ i, skipAt al.cigar i = true ∧ lookupTrusted js al i = true :=
  containsJunctionLoop_iff js al.refId al.cigar al.position

theorem containsJunctionInSystem_congr {al : BamAlignment} {J J' : JunctionSystem}
    (agree : J.AgreeOn J' al) : containsJunctionInSystem al J = containsJunctionInSystem al J' :=
  Bool.eq_iff_iff.mpr <| by
    simp only [containsJunctionInSystem_iff]
    exact exists_congr fun i => and_congr_right fun skip => by rw [agree i skip]

theorem containsJunctionInSystem_of_single (al : BamAlignment) (js : JunctionSystem) {i : Nat}
    (single : al.getNbJunctionsInRead ≤ 1) (skip : skipAt al.cigar i = true) :
    containsJunctionInSystem al js = js.getJunction (spannedJunction al i) := by
  rw [Bool.eq_iff_iff, containsJunctionInSystem_iff]
  constructor
  · rintro ⟨k, skipK, trusted⟩
    obtain rfl := BamAlignment.eq_of_skipAt_of_single al single skipK skip
    rwa [← lookupJunction_eq_spanned_of_single al single skipK]
  · intro trusted
    exact ⟨i, skip, by rwa [lookupTrusted, lookupJunction_eq_spanned_of_single al single skip]⟩

/-- The cursor does not move past a ReferenceSkip, so the second skip of
`10M 100N 10M 200N 10M` is looked up at `(0, 20, 219)`, 100 bases before the intron it spans,
and a set holding only that intron is not found in the read. -/
theorem containsJunctionInSystem_misses_second_skip :
    let al : BamAlignment :=
      ⟨0, 0, 330, [⟨'M', 10⟩, ⟨'N', 100⟩, ⟨'M', 10⟩, ⟨'N', 200⟩, ⟨'M', 10⟩], 30⟩
    lookupJunction al 3 = ⟨0, 20, 219⟩ ∧ spannedJunction al 3 = ⟨0, 120, 319⟩ ∧
      containsJunctionInSystem al ⟨fun location => location == ⟨0, 120, 319⟩⟩ = false := by
  decide

end BamFilter

end Portcullis
