import Mathlib.Data.String.Basic
import Portcullis.Filter.ClipProperties

set_option autoImplicit false

/- The record loop of `BamFilter::filter`. Each record is routed once: unspliced reads
pass, singly spliced reads (every spliced read in COMPLETE mode) pass when the containment
check finds a trusted junction, and the others are replaced by `clipMSR`'s copy unless it
reports `allBad`. Reading the junction file and the BAM, opening the writers and indexing
the output are left out; the loop sees the loaded junction set and the records in order. -/
namespace Portcullis.BamFilter

open Bam

/-- The counters of the loop, and what has been written to the primary output and, with
`saveMSRs`, to the `.mod.bam` and `.unmod.bam` outputs. -/
structure FilterState where
  nbReadsIn : UInt64
  nbReadsOut : UInt64
  nbReadsModifiedOut : UInt64
  writer : List BamAlignment
  mod : List BamAlignment
  unmod : List BamAlignment

def FilterState.init : FilterState := ⟨0, 0, 0, [], [], []⟩

/-- One iteration of `while (reader.next())`, on the record `al`. -/
def filterStep (self : BamFilter) (js : JunctionSystem) (st : FilterState)
    (al : BamAlignment) : FilterState :=
  let st := { st with nbReadsIn := st.nbReadsIn + 1 }
  if al.isSplicedRead then
    if self.clipMode == .COMPLETE || !al.isMultiplySplicedRead then
      if containsJunctionInSystem al js then
        { st with writer := st.writer ++ [al], nbReadsOut := st.nbReadsOut + 1 }
      else st
    else
      let result := self.clipMSR al js
      let clipped := result.1
      let allBad := result.2
      if !allBad then
        let st := { st with writer := st.writer ++ [clipped] }
        let st := if self.saveMSRs then
            { st with mod := st.mod ++ [clipped], unmod := st.unmod ++ [al] }
          else st
        { st with nbReadsModifiedOut := st.nbReadsModifiedOut + 1,
                  nbReadsOut := st.nbReadsOut + 1 }
      else st
  else { st with writer := st.writer ++ [al], nbReadsOut := st.nbReadsOut + 1 }

/-- `BamFilter::filter` on the records of the input, with the junction set loaded. -/
def filter (self : BamFilter) (js : JunctionSystem) (records : List BamAlignment) :
    FilterState :=
  records.foldl (filterStep self js) FilterState.init

/-- `uint32_t diff = nbReadsIn - nbReadsOut`, the count reported as filtered out. -/
def filteredOut (st : FilterState) : UInt32 := (st.nbReadsIn - st.nbReadsOut).toUInt32

/-! Where one record goes. -/

/-- The route of one record: dropped, written as read, or written as `clipMSR`'s copy. -/
inductive Route
  | discard
  | pass
  | clipped (copy : BamAlignment)
  deriving DecidableEq, Repr

/-- The decision the loop body takes for `al`. -/
def route (self : BamFilter) (js : JunctionSystem) (al : BamAlignment) : Route :=
  if al.isSplicedRead then
    if self.clipMode == .COMPLETE || !al.isMultiplySplicedRead then
      if containsJunctionInSystem al js then .pass else .discard
    else if (self.clipMSR al js).2 then .discard
    else .clipped (self.clipMSR al js).1
  else .pass

/-- The three ways the loop body decides, each with the condition under which it is
taken. -/
theorem route_cases (self : BamFilter) (js : JunctionSystem) (al : BamAlignment) :
    (al.isSplicedRead = false ∧ route self js al = .pass) ∨
    (al.isSplicedRead = true ∧ (self.clipMode = .COMPLETE ∨ al.isMultiplySplicedRead = false) ∧
      route self js al = if containsJunctionInSystem al js then .pass else .discard) ∨
    (al.isSplicedRead = true ∧ al.isMultiplySplicedRead = true ∧ self.clipMode ≠ .COMPLETE ∧
      route self js al =
        if (self.clipMSR al js).2 then .discard else .clipped (self.clipMSR al js).1) := by
  unfold route
  cases spliced : al.isSplicedRead
  · simp
  · cases mode : self.clipMode <;> cases multiply : al.isMultiplySplicedRead <;> simp

theorem route_eq_clipped {self : BamFilter} {js : JunctionSystem} {al copy : BamAlignment}
    (routed : route self js al = .clipped copy) :
    al.isSplicedRead = true ∧ al.isMultiplySplicedRead = true ∧ self.clipMode ≠ .COMPLETE ∧
      (self.clipMSR al js).2 = false ∧ copy = (self.clipMSR al js).1 := by
  rcases route_cases self js al with ⟨-, hroute⟩ | ⟨-, -, hroute⟩ |
    ⟨spliced, multiply, mode, hroute⟩
  · simp [hroute] at routed
  · split_ifs at hroute <;> simp [hroute] at routed
  · cases allBad : (self.clipMSR al js).2 <;> simp_all

def Route.written (al : BamAlignment) : Route → Option BamAlignment
  | .discard => none
  | .pass => some al
  | .clipped copy => some copy

def Route.modified : Route → Option BamAlignment
  | .clipped copy => some copy
  | _ => none

def FilterState.record (st : FilterState) (saveMSRs : Bool) (al : BamAlignment) :
    Route → FilterState
  | .discard => { st with nbReadsIn := st.nbReadsIn + 1 }
  | .pass =>
    { st with nbReadsIn := st.nbReadsIn + 1, nbReadsOut := st.nbReadsOut + 1,
              writer := st.writer ++ [al] }
  | .clipped copy =>
    { nbReadsIn := st.nbReadsIn + 1, nbReadsOut := st.nbReadsOut + 1,
      nbReadsModifiedOut := st.nbReadsModifiedOut + 1, writer := st.writer ++ [copy],
      mod := if saveMSRs then st.mod ++ [copy] else st.mod,
      unmod := if saveMSRs then st.unmod ++ [al] else st.unmod }

theorem filterStep_eq_record (self : BamFilter) (js : JunctionSystem) (st : FilterState)
    (al : BamAlignment) :
    filterStep self js st al = st.record self.saveMSRs al (route self js al) := by
  rcases route_cases self js al with ⟨unspliced, hroute⟩ | ⟨spliced, path, hroute⟩ |
    ⟨spliced, multiply, mode, hroute⟩
  · simp [filterStep, unspliced, hroute, FilterState.record]
  · rcases path with path | path <;>
    cases found : containsJunctionInSystem al js <;> simp_all [filterStep, FilterState.record]
  · cases allBad : (self.clipMSR al js).2 <;> cases save : self.saveMSRs <;>
      simp_all [filterStep, FilterState.record]

/-! The whole run, record by record. -/

section Run

variable (self : BamFilter) (js : JunctionSystem)

/-- The records the loop writes to the primary output, in input order. -/
def written (records : List BamAlignment) : List BamAlignment :=
  records.filterMap fun al => (route self js al).written al

def modified (records : List BamAlignment) : List BamAlignment :=
  records.filterMap fun al => (route self js al).modified

def unmodified (records : List BamAlignment) : List BamAlignment :=
  records.filter fun al => ((route self js al).modified).isSome

theorem counter_add_zero (a : UInt64) : a + 0 = a :=
  UInt64.ext (Nat.mod_eq_of_lt (UInt64.toNat_lt a))

theorem counter_zero_add (a : UInt64) : 0 + a = a :=
  UInt64.ext (by simpa [UInt64.toNat_add] using Nat.mod_eq_of_lt (UInt64.toNat_lt a))

theorem counter_add_one_add (a : UInt64) (n : Nat) :
    a + 1 + UInt64.ofNat n = a + UInt64.ofNat (n + 1) := by
  apply UInt64.ext
  simp only [UInt64.toNat_add, show (1 : UInt64).toNat = 1 from rfl,
    show ∀ m, (UInt64.ofNat m).toNat = m % 2 ^ 64 from fun _ => rfl, UInt64.size]
  omega

/-- The record loop from any state: the counters grow by the records read, written and
copied, modulo 2^64, and each output by what the routes write, in input order. -/
theorem foldl_filterStep (records : List BamAlignment) (st : FilterState) :
    records.foldl (filterStep self js) st =
      { nbReadsIn := st.nbReadsIn + UInt64.ofNat records.length,
        nbReadsOut := st.nbReadsOut + UInt64.ofNat (written self js records).length,
        nbReadsModifiedOut :=
          st.nbReadsModifiedOut + UInt64.ofNat (modified self js records).length,
        writer := st.writer ++ written self js records,
        mod := st.mod ++ if self.saveMSRs then modified self js records else [],
        unmod := st.unmod ++ if self.saveMSRs then unmodified self js records else [] } := by
  induction records generalizing st with
  | nil => simp [written, modified, unmodified, counter_add_zero]
  | cons al records ih =>
    rw [List.foldl_cons, ih, filterStep_eq_record]
    cases hroute : route self js al <;> cases self.saveMSRs <;>
      simp [FilterState.record, Route.written, Route.modified, written, modified, unmodified,
        List.filterMap_cons, hroute, counter_add_one_add]

theorem filter_eq (records : List BamAlignment) :
    filter self js records =
      { nbReadsIn := UInt64.ofNat records.length,
        nbReadsOut := UInt64.ofNat (written self js records).length,
        nbReadsModifiedOut := UInt64.ofNat (modified self js records).length,
        writer := written self js records,
        mod := if self.saveMSRs then modified self js records else [],
        unmod := if self.saveMSRs then unmodified self js records else [] } := by
  rw [filter, foldl_filterStep]
  simp only [FilterState.init, counter_zero_add, List.nil_append]

theorem filter_writer (records : List BamAlignment) :
    (filter self js records).writer = written self js records := by
  rw [filter_eq]

/-- The counters of `filter` count, modulo 2^64, the records read, the records written to
the primary output and those written through `clipMSR`; with `saveMSRs` the side outputs
hold exactly the copies and their originals. -/
theorem filter_counters (records : List BamAlignment) :
    (filter self js records).nbReadsIn.toNat = records.length % 2 ^ 64 ∧
    (filter self js records).nbReadsOut.toNat = (written self js records).length % 2 ^ 64 ∧
    (filter self js records).nbReadsModifiedOut.toNat =
      (modified self js records).length % 2 ^ 64 ∧
    (filter self js records).mod = (if self.saveMSRs then modified self js records else []) ∧
    (filter self js records).unmod =
      (if self.saveMSRs then unmodified self js records else []) := by
  rw [filter_eq]
  exact ⟨rfl, rfl, rfl, rfl, rfl⟩

theorem modified_sublist_written (records : List BamAlignment) :
    (modified self js records).Sublist (written self js records) := by
  induction records with
  | nil => exact List.Sublist.slnil
  | cons al records ih =>
    cases hroute : route self js al <;>
      simp [modified, written, List.filterMap_cons, hroute, Route.modified, Route.written] at ih ⊢
    · exact ih
    · exact ih.cons _
    · exact ih

theorem modified_eq_map_unmodified (records : List BamAlignment) :
    modified self js records =
      (unmodified self js records).map fun al => (self.clipMSR al js).1 := by
  induction records with
  | nil => rfl
  | cons al records ih =>
    cases hroute : route self js al with
    | clipped copy =>
      obtain ⟨-, -, -, -, rfl⟩ := route_eq_clipped hroute
      simp [modified, unmodified, List.filterMap_cons, hroute, Route.modified] at ih ⊢
      exact ih
    | _ => simpa [modified, unmodified, List.filterMap_cons, hroute, Route.modified] using ih

theorem written_sublist_of_uncopied (records : List BamAlignment)
    (uncopied : ∀ al ∈ records, (route self js al).modified = none) :
    (written self js records).Sublist records := by
  induction records with
  | nil => exact List.Sublist.slnil
  | cons al records ih =>
    have rest := ih fun al' mem => uncopied al' (List.mem_cons_of_mem _ mem)
    cases hroute : route self js al with
    | discard => simpa [written, List.filterMap_cons, hroute, Route.written] using rest.cons al
    | pass => simpa [written, List.filterMap_cons, hroute, Route.written] using rest.cons₂ al
    | clipped copy => simp [hroute, Route.modified] at uncopied

/-- With fewer than 2^64 records the counters are exact: the records read, the records
written (never more than were read), the copies written through `clipMSR` (never more
than were written), and, with `saveMSRs`, the length of each side output. -/
theorem filter_counts_records (records : List BamAlignment) (fits : records.length < 2 ^ 64) :
    (filter self js records).nbReadsIn.toNat = records.length ∧
    (filter self js records).nbReadsOut.toNat = (filter self js records).writer.length ∧
    (filter self js records).writer.length ≤ records.length ∧
    (filter self js records).nbReadsModifiedOut.toNat ≤ (filter self js records).nbReadsOut.toNat ∧
    (self.saveMSRs = true →
      (filter self js records).mod.length = (filter self js records).nbReadsModifiedOut.toNat ∧
      (filter self js records).unmod.length =
        (filter self js records).nbReadsModifiedOut.toNat) := by
  obtain ⟨readsIn, readsOut, readsModified, mod, unmod⟩ := filter_counters self js records
  have fewer : (written self js records).length ≤ records.length := List.length_filterMap_le _ _
  have copies := (modified_sublist_written self js records).length_le
  have paired : (unmodified self js records).length = (modified self js records).length := by
    rw [modified_eq_map_unmodified, List.length_map]
  rw [Nat.mod_eq_of_lt fits] at readsIn
  rw [Nat.mod_eq_of_lt (by omega)] at readsOut readsModified
  rw [filter_writer]
  refine ⟨readsIn, readsOut, fewer, by omega, fun save => ?_⟩
  simp only [mod, unmod, save, if_true]
  omega

theorem filter_counts_records_on_one_read :
    let al : BamAlignment := ⟨0, 0, 120, [⟨'M', 10⟩, ⟨'N', 100⟩, ⟨'M', 10⟩], 20⟩
    [al].length < 2 ^ 64 ∧
      (filter ⟨.HARD, true⟩ ⟨fun _ => true⟩ [al]).nbReadsIn.toNat = [al].length := by
  intro al
  exact ⟨by decide, (filter_counts_records ⟨.HARD, true⟩ ⟨fun _ => true⟩ [al] (by decide)).1⟩

/-- Records are filtered one at a time: on a stream split in two, each output is the
outputs of the two parts, one after the other, and each counter their sum modulo 2^64. -/
theorem filter_append (xs ys : List BamAlignment) :
    (filter self js (xs ++ ys)).writer = (filter self js xs).writer ++ (filter self js ys).writer ∧
    (filter self js (xs ++ ys)).mod = (filter self js xs).mod ++ (filter self js ys).mod ∧
    (filter self js (xs ++ ys)).unmod = (filter self js xs).unmod ++ (filter self js ys).unmod ∧
    (filter self js (xs ++ ys)).nbReadsIn =
      (filter self js xs).nbReadsIn + (filter self js ys).nbReadsIn ∧
    (filter self js (xs ++ ys)).nbReadsOut =
      (filter self js xs).nbReadsOut + (filter self js ys).nbReadsOut ∧
    (filter self js (xs ++ ys)).nbReadsModifiedOut =
      (filter self js xs).nbReadsModifiedOut + (filter self js ys).nbReadsModifiedOut := by
  have resumed : filter self js (xs ++ ys) = ys.foldl (filterStep self js) (filter self js xs) :=
    List.foldl_append _ _ _ _
  rw [resumed, foldl_filterStep, filter_eq self js ys]
  exact ⟨rfl, rfl, rfl, rfl, rfl, rfl⟩

/-- With `saveMSRs` the `.mod.bam` output holds `clipMSR`'s copy of each record of the
`.unmod.bam` output, in the same order; the latter are input records, the former primary
output records. -/
theorem filter_side_outputs_pair (records : List BamAlignment) :
    (filter self js records).mod =
        (filter self js records).unmod.map (fun al => (self.clipMSR al js).1) ∧
      (filter self js records).unmod.Sublist records ∧
      (filter self js records).mod.Sublist (filter self js records).writer := by
  obtain ⟨-, -, -, mod, unmod⟩ := filter_counters self js records
  rw [mod, unmod, filter_writer]
  by_cases save : self.saveMSRs
  · simp only [save, if_true]
    exact ⟨modified_eq_map_unmodified self js records, List.filter_sublist _,
      modified_sublist_written self js records⟩
  · simp [save]

/-- In COMPLETE mode no record is clipped: the primary output is a sublist of the input,
and nothing is counted as modified or written to the side outputs. -/
theorem filter_complete_writes_inputs (records : List BamAlignment)
    (mode : self.clipMode = .COMPLETE) :
    (filter self js records).writer.Sublist records ∧
      (filter self js records).nbReadsModifiedOut.toNat = 0 ∧
      (filter self js records).mod = [] ∧ (filter self js records).unmod = [] := by
  have uncopied : ∀ al, (route self js al).modified = none := fun al => by
    rcases route_cases self js al with ⟨-, hroute⟩ | ⟨-, -, hroute⟩ | ⟨-, -, notComplete, -⟩
    · simp [hroute, Route.modified]
    · split_ifs at hroute <;> simp [hroute, Route.modified]
    · exact absurd mode notComplete
  have none : modified self js records = [] := by simp [modified, uncopied]
  have noneRead : unmodified self js records = [] := by simp [unmodified, uncopied]
  obtain ⟨-, -, readsModified, mod, unmod⟩ := filter_counters self js records
  rw [filter_writer, readsModified, mod, unmod, none, noneRead]
  exact ⟨written_sublist_of_uncopied self js records fun al _ => uncopied al, rfl,
    by simp, by simp⟩

theorem filter_complete_writes_inputs_on_two_skip_read :
    let al : BamAlignment :=
      ⟨0, 0, 330, [⟨'M', 10⟩, ⟨'N', 100⟩, ⟨'M', 10⟩, ⟨'N', 200⟩, ⟨'M', 10⟩], 30⟩
    BamFilter.clipMode ⟨.COMPLETE, true⟩ = .COMPLETE ∧
      (filter ⟨.COMPLETE, true⟩ ⟨fun _ => true⟩ [al]).writer.Sublist [al] := by
  intro al
  exact ⟨rfl, (filter_complete_writes_inputs ⟨.COMPLETE, true⟩ ⟨fun _ => true⟩ [al] rfl).1⟩

end Run

/-- A record is written iff it has no ReferenceSkip or some ReferenceSkip's looked-up
intron is trusted. -/
theorem route_written_isSome_iff (self : BamFilter) (js : JunctionSystem) (al : BamAlignment) :
    ((route self js al).written al).isSome ↔
      al.isSplicedRead = false ∨ ∃ i, skipAt al.cigar i = true ∧ lookupTrusted js al i = true := by
  rcases route_cases self js al with ⟨unspliced, hroute⟩ | ⟨spliced, -, hroute⟩ |
    ⟨spliced, -, -, hroute⟩
  · simp [hroute, unspliced, Route.written]
  · rw [hroute, ← containsJunctionInSystem_iff]
    cases containsJunctionInSystem al js <;> simp [spliced, Route.written]
  · have allBad := clipMSR_allBad_iff self al js
    rw [hroute]
    cases good : (self.clipMSR al js).2 <;> simp_all [Route.written]

theorem filter_counts_config_free (self self' : BamFilter) (js : JunctionSystem)
    (records : List BamAlignment) :
    (filter self js records).nbReadsIn = (filter self' js records).nbReadsIn ∧
      (filter self js records).nbReadsOut = (filter self' js records).nbReadsOut := by
  have sameWritten : (written self js records).length = (written self' js records).length := by
    simp only [written, List.length_filterMap_eq_countP]
    exact List.countP_congr fun al _ =>
      (route_written_isSome_iff self js al).trans (route_written_isSome_iff self' js al).symm
  rw [filter_eq, filter_eq]
  exact ⟨rfl, congrArg UInt64.ofNat sameWritten⟩

/-- A route is decided by the lookups: a two-skip read whose second skip spans the trusted
intron `(0, 120, 319)` is dropped in every mode, since that skip is looked up at
`(0, 20, 219)`. -/
theorem filter_drops_read_with_trusted_second_skip :
    let al : BamAlignment :=
      ⟨0, 0, 330, [⟨'M', 10⟩, ⟨'N', 100⟩, ⟨'M', 10⟩, ⟨'N', 200⟩, ⟨'M', 10⟩], 30⟩
    let js : JunctionSystem := ⟨fun location => location == ⟨0, 120, 319⟩⟩
    skipAt al.cigar 3 = true ∧ js.getJunction (spannedJunction al 3) = true ∧
      (filter ⟨.HARD, false⟩ js [al]).writer = [] ∧
      (filter ⟨.SOFT, false⟩ js [al]).writer = [] ∧
      (filter ⟨.COMPLETE, false⟩ js [al]).writer = [] := by
  decide

/-- The count reported as filtered out is the true count modulo 2^32. -/
theorem filter_filteredOut (self : BamFilter) (js : JunctionSystem) (records : List BamAlignment)
    (fits : records.length < 2 ^ 64) :
    (filteredOut (filter self js records)).toNat =
      (records.length - (written self js records).length) % 2 ^ 32 := by
  obtain ⟨readsIn, readsOut, -⟩ := filter_counters self js records
  have fewer : (written self js records).length ≤ records.length := List.length_filterMap_le _ _
  rw [Nat.mod_eq_of_lt fits] at readsIn
  rw [Nat.mod_eq_of_lt (by omega)] at readsOut
  rw [filteredOut, UInt64.toUInt32_toNat, UInt64.toNat_sub_of_le _ _
    (UInt64.le_def.mpr (BitVec.le_def.mpr (by change UInt64.toNat _ ≤ UInt64.toNat _; omega))),
    readsIn, readsOut]

/-- On 2^32 reads with one untrusted junction each, all are filtered out, but the count
reported as filtered out is 0: `diff` is 32 bits wide, the counters 64. -/
theorem filter_reports_zero_filtered_out :
    let al : BamAlignment := ⟨0, 0, 120, [⟨'M', 10⟩, ⟨'N', 100⟩, ⟨'M', 10⟩], 20⟩
    let records := List.replicate (2 ^ 32) al
    (filter ⟨.HARD, false⟩ ⟨fun _ => false⟩ records).nbReadsIn.toNat -
      (filter ⟨.HARD, false⟩ ⟨fun _ => false⟩ records).nbReadsOut.toNat = 2 ^ 32 ∧
    (filteredOut (filter ⟨.HARD, false⟩ ⟨fun _ => false⟩ records)).toNat = 0 := by
  intro al records
  have none : written ⟨.HARD, false⟩ ⟨fun _ => false⟩ records = [] :=
    List.filterMap_replicate_of_none (by rfl)
  obtain ⟨readsIn, readsOut, -⟩ := filter_counters ⟨.HARD, false⟩ ⟨fun _ => false⟩ records
  rw [none] at readsOut
  have count : records.length = 2 ^ 32 := List.length_replicate _ _
  rw [filter_filteredOut _ _ _ (by omega), none, readsIn, readsOut, count]
  decide

end Portcullis.BamFilter
