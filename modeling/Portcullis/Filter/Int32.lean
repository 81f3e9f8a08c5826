import Portcullis.Filter.Pipeline

set_option autoImplicit false

/- The filter at the width of its integers. In bam_filter.cc the cursor `lEnd`, `rStart`,
positions and lengths are `int32_t`, whose overflow is undefined, and `refs[refId]` indexes
a `std::vector` with no bounds check. Here each of those operations gives `none` where it
is undefined, so the walks and the record loop compute over `Option`. On a stream whose
spliced records lie within their reference, the loop is defined and computes `filter`. -/
namespace Portcullis

open Bam

/-- A reference sequence of the BAM header, as `refs[refId]` holds it. Its name and length
go into the intron's `RefSeq`, which the junction set is asked about with the id. -/
structure RefSeq where
  name : String
  length : Int
  deriving DecidableEq, Repr

/-- `v` is a value of `int32_t`, from `INT32_MIN` (-2^31) to `INT32_MAX` (2^31 - 1). -/
def inInt32 (v : Int) : Prop := -2147483648 ≤ v ∧ v < 2147483648

instance (v : Int) : Decidable (inInt32 v) := inferInstanceAs (Decidable (_ ∧ _))

/-- An `int32_t` operation whose exact result is `v`: undefined when `v` is out of range. -/
def int32Result (v : Int) : Option Int := if inInt32 v then some v else none

/-- `refs[refId]`: undefined past the end of `refs`, and at a negative id, which converts to
an index past the end. -/
def refAt (refs : List RefSeq) (refId : Int) : Option RefSeq :=
  if 0 ≤ refId then refs[refId.toNat]? else none

theorem int32Result_of_inInt32 {v : Int} (h : inInt32 v) : int32Result v = some v := if_pos h

namespace BamFilter

def containsJunctionLoopInt32 (js : JunctionSystem) (refId : Int) :
    List CigarOp → Int → Option Bool
  | [], _ => some false
  | op :: ops, lEnd =>
    if op.type == bamCigarRefskipChar then do
      let rStart ← int32Result (lEnd + op.length)
      let stop ← int32Result (rStart - 1)
      if js.getJunction ⟨refId, lEnd, stop⟩ then some true
      else containsJunctionLoopInt32 js refId ops lEnd
    else if CigarOp.opConsumesReference op.type then do
      let lEnd ← int32Result (lEnd + op.length)
      containsJunctionLoopInt32 js refId ops lEnd
    else containsJunctionLoopInt32 js refId ops lEnd

def containsJunctionInSystemInt32 (al : BamAlignment) (refs : List RefSeq)
    (js : JunctionSystem) : Option Bool := do
  let _ ← refAt refs al.getReferenceId
  containsJunctionLoopInt32 js al.getReferenceId al.cigar al.getPosition

/-- One iteration of `clipMSR`'s loop with its `int32_t` sums checked: `rStart` and
`rStart - 1` at a ReferenceSkip, `lEnd += op.length` at another reference-consuming
operation; where they are defined the iteration is `clipStep`. -/
def clipStepInt32 (js : JunctionSystem) (modOp : Char) (al : BamAlignment) (st : ClipState)
    (i : Nat) (op : CigarOp) : Option ClipState :=
  if op.type == bamCigarRefskipChar then do
    let rStart ← int32Result (st.lEnd + op.length)
    let _ ← int32Result (rStart - 1)
    some (clipStep js modOp al st i op)
  else if CigarOp.opConsumesReference op.type then do
    let _ ← int32Result (st.lEnd + op.length)
    some (clipStep js modOp al st i op)
  else some (clipStep js modOp al st i op)

def clipLoopInt32 (js : JunctionSystem) (modOp : Char) (al : BamAlignment) :
    Nat → List CigarOp → ClipState → Option ClipState
  | _, [], st => some st
  | i, op :: ops, st => do
    let st ← clipStepInt32 js modOp al st i op
    clipLoopInt32 js modOp al (i + 1) ops st

def clipMSRInt32 (self : BamFilter) (refs : List RefSeq) (al : BamAlignment)
    (js : JunctionSystem) : Option (BamAlignment × Bool) := do
  let _ ← refAt refs al.getReferenceId
  let modOp := BamFilter.modOp self.clipMode
  let st ← clipLoopInt32 js modOp al 0 al.cigar ⟨al.getPosition, 0, false, true, al⟩
  let modifiedAlignment :=
    if !st.lastGood then clipRange al modOp st.opStart al.getNbCigarOps st.modifiedAlignment
    else st.modifiedAlignment
  some (modifiedAlignment, st.ab)

def routeInt32 (self : BamFilter) (refs : List RefSeq) (js : JunctionSystem)
    (al : BamAlignment) : Option Route :=
  if al.isSplicedRead then
    if self.clipMode == .COMPLETE || !al.isMultiplySplicedRead then
      (containsJunctionInSystemInt32 al refs js).map fun found => if found then .pass else .discard
    else
      (self.clipMSRInt32 refs al js).map fun result =>
        if result.2 then .discard else .clipped result.1
  else some .pass

/-- The record loop of `filter` at the width of its integers: `none` once a record makes
the loop body undefined. -/
def filterInt32 (self : BamFilter) (refs : List RefSeq) (js : JunctionSystem)
    (records : List BamAlignment) : Option FilterState :=
  records.foldlM (fun st al => (routeInt32 self refs js al).map (st.record self.saveMSRs al))
    FilterState.init

/-! The cursor stays in range. -/

/-- Walking `ops` from `lEnd` keeps every sum in `int32_t`: the lengths are non-negative,
`lEnd` is above the least value, and `lEnd` plus the reference `ops` span is below `2^31`. -/
structure CursorFits (lEnd : Int) (ops : List CigarOp) : Prop where
  nonneg : ∀ op ∈ ops, 0 ≤ op.length
  low : -2147483648 < lEnd
  high : lEnd + referenceLength ops < 2147483648

section Cursor

variable {lEnd : Int} {op : CigarOp} {ops : List CigarOp}

theorem CursorFits.sums (fits : CursorFits lEnd (op :: ops))
    (consumes : CigarOp.opConsumesReference op.type = true) :
    inInt32 (lEnd + op.length) ∧ inInt32 (lEnd + op.length - 1) := by
  have head := fits.nonneg op (List.mem_cons_self op ops)
  have rest := lengthWhere_nonneg CigarOp.opConsumesReference ops
    fun o mem => fits.nonneg o (List.mem_cons_of_mem op mem)
  have high := fits.high
  have low := fits.low
  simp only [referenceLength, lengthWhere_cons, consumes, if_true] at high
  constructor <;> constructor <;> omega

theorem CursorFits.next (fits : CursorFits lEnd (op :: ops)) :
    CursorFits (lEnd + if advancesCursor op.type then op.length else 0) ops := by
  have head := fits.nonneg op (List.mem_cons_self op ops)
  have low := fits.low
  have high := fits.high
  simp only [referenceLength, lengthWhere_cons] at high
  refine ⟨fun o mem => fits.nonneg o (List.mem_cons_of_mem op mem), ?_, ?_⟩ <;>
    rcases walk_kind_cases op.type with ⟨-, consumes, moves⟩ | ⟨-, consumes, moves⟩ |
      ⟨-, consumes, moves⟩ <;>
    simp only [referenceLength, consumes, moves, if_true, Bool.false_eq_true, if_false]
      at high ⊢ <;>
    omega

end Cursor

theorem int32Result_bind {v : Int} (h : inInt32 v) {α : Type} (f : Int → Option α) :
    int32Result v >>= f = f v := by
  rw [int32Result_of_inInt32 h]
  rfl

theorem containsJunctionLoopInt32_eq (js : JunctionSystem) (refId : Int) (ops : List CigarOp)
    (lEnd : Int) (fits : CursorFits lEnd ops) :
    containsJunctionLoopInt32 js refId ops lEnd =
      some (containsJunctionLoop js refId ops lEnd) := by
  induction ops generalizing lEnd with
  | nil => rfl
  | cons op ops ih =>
    have next := fits.next
    rcases walk_kind_cases op.type with ⟨skip, consumes, stays⟩ | ⟨skip, consumes, moves⟩ |
      ⟨skip, other, stays⟩
    · obtain ⟨rStart, stop⟩ := fits.sums consumes
      simp only [stays, Bool.false_eq_true, if_false, Int.add_zero] at next
      simp only [containsJunctionLoopInt32, containsJunctionLoop, skip, beq_self_eq_true,
        if_true, int32Result_bind rStart, int32Result_bind stop]
      split
      · rfl
      · exact ih lEnd next
    · simp only [moves, if_true] at next
      simp only [containsJunctionLoopInt32, containsJunctionLoop, skip, beq_iff_eq, if_false,
        consumes, if_true, int32Result_bind (fits.sums consumes).1]
      exact ih _ next
    · simp only [stays, Bool.false_eq_true, if_false, Int.add_zero] at next
      simp only [containsJunctionLoopInt32, containsJunctionLoop, skip, beq_iff_eq, if_false,
        other, Bool.false_eq_true]
      exact ih _ next

theorem clipStepInt32_eq (js : JunctionSystem) (modOp : Char) (al : BamAlignment)
    (st : ClipState) (i : Nat) (op : CigarOp) (ops : List CigarOp)
    (fits : CursorFits st.lEnd (op :: ops)) :
    clipStepInt32 js modOp al st i op = some (clipStep js modOp al st i op) := by
  rcases walk_kind_cases op.type with ⟨skip, consumes, -⟩ | ⟨skip, consumes, -⟩ | ⟨skip, other, -⟩
  · obtain ⟨rStart, stop⟩ := fits.sums consumes
    simp only [clipStepInt32, skip, beq_self_eq_true, if_true, int32Result_bind rStart,
      int32Result_bind stop]
  · simp only [clipStepInt32, skip, beq_iff_eq, if_false, consumes, if_true,
      int32Result_bind (fits.sums consumes).1]
  · simp [clipStepInt32, skip, other]

theorem clipLoopInt32_eq (js : JunctionSystem) (modOp : Char) (al : BamAlignment) (i : Nat)
    (ops : List CigarOp) (st : ClipState) (fits : CursorFits st.lEnd ops) :
    clipLoopInt32 js modOp al i ops st = some (clipLoop js modOp al i ops st) := by
  induction ops generalizing i st with
  | nil => rfl
  | cons op ops ih =>
    have next := fits.next
    rw [← clipStep_lEnd js modOp al st i op] at next
    simp only [clipLoopInt32, clipLoop, clipStepInt32_eq js modOp al st i op ops fits,
      Option.bind_eq_bind, Option.some_bind]
    exact ih (i + 1) _ next

/-! Records within their reference. -/

/-- A record as a BAM file holds a mapped one: its reference is in `refs`, its lengths are
non-negative, and its position and the end of the reference its CIGAR spans are `int32_t`
values. -/
structure WellPlaced (refs : List RefSeq) (al : BamAlignment) : Prop where
  refId_nonneg : 0 ≤ al.refId
  refId_lt : al.refId < refs.length
  nonneg : ∀ op ∈ al.cigar, 0 ≤ op.length
  position_gt : -2147483648 < al.position
  spanned_lt : al.position + referenceLength al.cigar < 2147483648

instance (refs : List RefSeq) (al : BamAlignment) : Decidable (WellPlaced refs al) :=
  decidable_of_iff (0 ≤ al.refId ∧ al.refId < refs.length ∧ (∀ op ∈ al.cigar, 0 ≤ op.length) ∧
      -2147483648 < al.position ∧ al.position + referenceLength al.cigar < 2147483648)
    ⟨fun ⟨a, b, c, d, e⟩ => ⟨a, b, c, d, e⟩, fun ⟨a, b, c, d, e⟩ => ⟨a, b, c, d, e⟩⟩

section Placed

variable {refs : List RefSeq} {al : BamAlignment}

theorem WellPlaced.refAt (placed : WellPlaced refs al) :
    ∃ ref, Portcullis.refAt refs al.refId = some ref := by
  have lt : al.refId.toNat < refs.length := by
    have := placed.refId_lt
    have := placed.refId_nonneg
    omega
  exact ⟨refs[al.refId.toNat], by simp [Portcullis.refAt, placed.refId_nonneg, lt]⟩

theorem WellPlaced.cursorFits (placed : WellPlaced refs al) : CursorFits al.position al.cigar :=
  ⟨placed.nonneg, placed.position_gt, placed.spanned_lt⟩

theorem containsJunctionInSystemInt32_eq (js : JunctionSystem) (placed : WellPlaced refs al) :
    containsJunctionInSystemInt32 al refs js = some (containsJunctionInSystem al js) := by
  obtain ⟨ref, found⟩ := placed.refAt
  simp only [containsJunctionInSystemInt32, BamAlignment.getReferenceId, found,
    Option.bind_eq_bind, Option.some_bind]
  exact containsJunctionLoopInt32_eq js al.refId al.cigar al.position placed.cursorFits

theorem clipMSRInt32_eq (self : BamFilter) (js : JunctionSystem) (placed : WellPlaced refs al) :
    self.clipMSRInt32 refs al js = some (self.clipMSR al js) := by
  obtain ⟨ref, found⟩ := placed.refAt
  simp only [clipMSRInt32, BamAlignment.getReferenceId, found, Option.bind_eq_bind,
    Option.some_bind, clipLoopInt32_eq js _ al 0 al.cigar ⟨al.getPosition, 0, false, true, al⟩
      placed.cursorFits]
  rfl

theorem routeInt32_eq (self : BamFilter) (js : JunctionSystem)
    (placed : al.isSplicedRead = true → WellPlaced refs al) :
    routeInt32 self refs js al = some (route self js al) := by
  unfold routeInt32 route
  by_cases spliced : al.isSplicedRead
  · simp only [spliced, if_true, containsJunctionInSystemInt32_eq js (placed spliced),
      clipMSRInt32_eq self js (placed spliced), Option.map_some']
    split
    · split <;> rfl
    · split <;> rfl
  · simp [spliced]

end Placed

theorem foldlM_routeInt32 (self : BamFilter) (refs : List RefSeq) (js : JunctionSystem)
    (records : List BamAlignment)
    (placed : ∀ al ∈ records, al.isSplicedRead = true → WellPlaced refs al) (st : FilterState) :
    records.foldlM (fun st al => (routeInt32 self refs js al).map (st.record self.saveMSRs al))
      st = some (records.foldl (filterStep self js) st) := by
  induction records generalizing st with
  | nil => rfl
  | cons al records ih =>
    rw [List.foldlM_cons, routeInt32_eq self js (placed al (List.mem_cons_self al records)),
      Option.map_some', Option.bind_eq_bind, Option.some_bind, List.foldl_cons,
      filterStep_eq_record]
    exact ih (fun al' mem => placed al' (List.mem_cons_of_mem al mem)) _

/-- At the width of `int32_t`, on a record within its reference, `clipMSR` and the
containment check are both defined, and `allBad` is set exactly when the check finds no
trusted junction. -/
theorem clipMSRInt32_allBad_iff_not_containsJunctionInSystemInt32 (self : BamFilter)
    (refs : List RefSeq) (al : BamAlignment) (js : JunctionSystem) (placed : WellPlaced refs al) :
    ∃ result found, self.clipMSRInt32 refs al js = some result ∧
      containsJunctionInSystemInt32 al refs js = some found ∧ (result.2 = true ↔ found = false) :=
  ⟨_, _, clipMSRInt32_eq self js placed, containsJunctionInSystemInt32_eq js placed,
    by rw [clipMSR_allBad_eq, Bool.not_eq_true']⟩

theorem clipMSRInt32_allBad_iff_not_containsJunctionInSystemInt32_on_untrusted_read :
    let al : BamAlignment :=
      ⟨0, 0, 330, [⟨'M', 10⟩, ⟨'N', 100⟩, ⟨'M', 10⟩, ⟨'N', 200⟩, ⟨'M', 10⟩], 30⟩
    WellPlaced [⟨"chr1", 100000⟩] al ∧
      ∃ result found, BamFilter.clipMSRInt32 ⟨.HARD, false⟩ [⟨"chr1", 100000⟩] al
          ⟨fun _ => false⟩ = some result ∧
        containsJunctionInSystemInt32 al [⟨"chr1", 100000⟩] ⟨fun _ => false⟩ = some found ∧
        (result.2 = true ↔ found = false) := by
  intro al
  have placed : WellPlaced [⟨"chr1", 100000⟩] al := by decide
  exact ⟨placed, clipMSRInt32_allBad_iff_not_containsJunctionInSystemInt32 ⟨.HARD, false⟩ _ al
    ⟨fun _ => false⟩ placed⟩

/- Past `2^31 - 1` the two walks part: the containment check stops at the first skip, found
trusted, while `clipMSR` walks on and overflows `lEnd` at the next match. -/
example : containsJunctionInSystemInt32 ⟨0, 2147483600, 30,
      [⟨'M', 10⟩, ⟨'N', 5⟩, ⟨'M', 100⟩, ⟨'N', 5⟩, ⟨'M', 5⟩], 25⟩ [⟨"chr1", 0⟩] ⟨fun _ => true⟩ =
      some true ∧
    BamFilter.clipMSRInt32 ⟨.HARD, false⟩ [⟨"chr1", 0⟩] ⟨0, 2147483600, 30,
      [⟨'M', 10⟩, ⟨'N', 5⟩, ⟨'M', 100⟩, ⟨'N', 5⟩, ⟨'M', 5⟩], 25⟩ ⟨fun _ => true⟩ = none := by
  decide

/-- On every stream whose spliced records lie within their reference, the record loop never
reads `refs` out of bounds nor overflows an `int32_t`, and computes what `filter` computes;
unspliced records, unmapped ones with `refId` -1 among them, are not looked at. -/
theorem filterInt32_eq_filter (self : BamFilter) (refs : List RefSeq) (js : JunctionSystem)
    (records : List BamAlignment)
    (placed : ∀ al ∈ records, al.isSplicedRead = true → WellPlaced refs al) :
    filterInt32 self refs js records = some (filter self js records) :=
  foldlM_routeInt32 self refs js records placed FilterState.init

theorem filterInt32_eq_filter_on_unmapped_and_spliced :
    let refs : List RefSeq := [⟨"chr1", 100000⟩]
    let records : List BamAlignment :=
      [⟨-1, -1, 0, [], 0⟩, ⟨0, 0, 120, [⟨'M', 10⟩, ⟨'N', 100⟩, ⟨'M', 10⟩], 20⟩]
    (∀ al ∈ records, al.isSplicedRead = true → WellPlaced refs al) ∧
      filterInt32 ⟨.HARD, false⟩ refs ⟨fun _ => true⟩ records =
        some (filter ⟨.HARD, false⟩ ⟨fun _ => true⟩ records) := by
  intro refs records
  have placed : ∀ al ∈ records, al.isSplicedRead = true → WellPlaced refs al := by decide
  exact ⟨placed, filterInt32_eq_filter ⟨.HARD, false⟩ refs ⟨fun _ => true⟩ records placed⟩

/-- At the width of `int32_t` the configuration still never changes the counts: on a stream
whose spliced records lie within their reference, the runs in any two clip modes, with or
without `saveMSRs`, are both defined, write as many records and report as many filtered
out. -/
theorem filterInt32_keeps_same_counts_in_every_mode (self self' : BamFilter)
    (refs : List RefSeq) (js : JunctionSystem) (records : List BamAlignment)
    (placed : ∀ al ∈ records, al.isSplicedRead = true → WellPlaced refs al) :
    ∃ st st', filterInt32 self refs js records = some st ∧
      filterInt32 self' refs js records = some st' ∧
      st.nbReadsOut = st'.nbReadsOut ∧ filteredOut st = filteredOut st' := by
  obtain ⟨sameIn, sameOut⟩ := filter_counts_config_free self self' js records
  exact ⟨filter self js records, filter self' js records,
    foldlM_routeInt32 self refs js records placed _,
    foldlM_routeInt32 self' refs js records placed _, sameOut,
    by rw [filteredOut, filteredOut, sameIn, sameOut]⟩

theorem filterInt32_keeps_same_counts_in_every_mode_on_two_skip_read :
    let refs : List RefSeq := [⟨"chr1", 100000⟩]
    let records : List BamAlignment :=
      [⟨0, 0, 330, [⟨'M', 10⟩, ⟨'N', 100⟩, ⟨'M', 10⟩, ⟨'N', 200⟩, ⟨'M', 10⟩], 30⟩]
    (∀ al ∈ records, al.isSplicedRead = true → WellPlaced refs al) ∧
      ∃ st st', filterInt32 ⟨.COMPLETE, false⟩ refs ⟨fun _ => true⟩ records = some st ∧
        filterInt32 ⟨.HARD, true⟩ refs ⟨fun _ => true⟩ records = some st' ∧
        st.nbReadsOut = st'.nbReadsOut ∧ filteredOut st = filteredOut st' := by
  intro refs records
  have placed : ∀ al ∈ records, al.isSplicedRead = true → WellPlaced refs al := by decide
  exact ⟨placed, filterInt32_keeps_same_counts_in_every_mode ⟨.COMPLETE, false⟩ ⟨.HARD, true⟩
    refs ⟨fun _ => true⟩ records placed⟩

/-- `refs[refId]` has no bounds check: a spliced record whose reference is not in `refs`
makes the record loop undefined, wherever it stands in the stream. -/
theorem filterInt32_eq_none_of_refId_outside (self : BamFilter) (refs : List RefSeq)
    (js : JunctionSystem) (records : List BamAlignment) {al : BamAlignment} (mem : al ∈ records)
    (spliced : al.isSplicedRead = true) (outside : al.refId < 0 ∨ refs.length ≤ al.refId) :
    filterInt32 self refs js records = none := by
  have missing : refAt refs al.refId = none := by
    unfold refAt
    split
    · exact List.getElem?_eq_none (by omega)
    · rfl
  have undefined : routeInt32 self refs js al = none := by
    simp [routeInt32, spliced, containsJunctionInSystemInt32, clipMSRInt32, missing]
  suffices stuck : ∀ st : FilterState, records.foldlM
      (fun st al => (routeInt32 self refs js al).map (st.record self.saveMSRs al)) st = none from
    stuck FilterState.init
  induction records with
  | nil => cases mem
  | cons first rest ih =>
    intro st
    rw [List.foldlM_cons]
    rcases List.mem_cons.mp mem with rfl | later
    · simp [undefined]
    · cases routeInt32 self refs js first with
      | none => rfl
      | some route => exact ih later _

theorem filterInt32_eq_none_of_refId_outside_on_unmapped_spliced :
    let al : BamAlignment := ⟨-1, 0, 120, [⟨'M', 10⟩, ⟨'N', 100⟩, ⟨'M', 10⟩], 20⟩
    al ∈ [al] ∧ al.isSplicedRead = true ∧
      (al.refId < 0 ∨ [RefSeq.mk "chr1" 1000].length ≤ al.refId) ∧
      filterInt32 ⟨.HARD, false⟩ [⟨"chr1", 1000⟩] ⟨fun _ => true⟩ [al] = none := by
  intro al
  have mem : al ∈ [al] := List.mem_singleton_self al
  have spliced : al.isSplicedRead = true := by decide
  have outside : al.refId < 0 ∨ [RefSeq.mk "chr1" 1000].length ≤ al.refId := Or.inl (by decide)
  exact ⟨mem, spliced, outside,
    filterInt32_eq_none_of_refId_outside ⟨.HARD, false⟩ _ ⟨fun _ => true⟩ [al] mem spliced outside⟩

/- A read whose CIGAR runs past `2^31 - 1` overflows `lEnd` before its skip is looked up. -/
example : (filterInt32 ⟨.HARD, false⟩ [⟨"chr1", 0⟩] ⟨fun _ => false⟩
    [⟨0, 2147483638, 30, [⟨'M', 20⟩, ⟨'N', 5⟩, ⟨'M', 5⟩], 25⟩]).isNone = true := by
  decide

end BamFilter

end Portcullis
