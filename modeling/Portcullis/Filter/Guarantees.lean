import Portcullis.Filter.Pipeline

set_option autoImplicit false

/- What `BamFilter::filter` guarantees of its output over whole runs: which junctions the
records it writes unchanged imply, how its output moves when more junctions are trusted,
and when filtering its own output writes it back. -/
namespace Portcullis.BamFilter

open Bam

/-! Junctions of the written records. -/

/-- Every record `filter` writes with at most one ReferenceSkip spans, at that skip, an
intron of the junction set, computed on the written record itself. -/
theorem filter_written_single_skip_trusted (self : BamFilter) (js : JunctionSystem)
    (records : List BamAlignment) :
    ∀ out ∈ (filter self js records).writer, out.getNbJunctionsInRead ≤ 1 →
      ∀ i, skipAt out.cigar i = true → js.getJunction (spannedJunction out i) = true := by
  intro out mem single i skip
  rw [filter_writer, BamFilter.written, List.mem_filterMap] at mem
  obtain ⟨al, -, routed⟩ := mem
  rcases route_cases self js al with ⟨unspliced, hroute⟩ | ⟨-, -, hroute⟩ |
    ⟨-, multiply, -, hroute⟩
  · obtain rfl : al = out := by simpa [hroute, Route.written] using routed
    simp [(BamAlignment.isSplicedRead_iff al).mpr ⟨i, skip⟩] at unspliced
  · by_cases found : containsJunctionInSystem al js
    · obtain rfl : al = out := by simpa [hroute, found, Route.written] using routed
      rwa [← containsJunctionInSystem_of_single al js single skip]
    · simp [hroute, found, Route.written] at routed
  · have copy : (self.clipMSR al js).1 = out := by
      cases allBad : (self.clipMSR al js).2 <;> simp_all [Route.written]
    simp only [BamAlignment.isMultiplySplicedRead, ← clipMSR_getNbJunctionsInRead self al js,
      copy, gt_iff_lt, decide_eq_true_eq] at multiply
    omega

theorem filter_written_single_skip_trusted_on_one_read :
    let al : BamAlignment := ⟨0, 0, 120, [⟨'M', 10⟩, ⟨'N', 100⟩, ⟨'M', 10⟩], 20⟩
    let js : JunctionSystem := ⟨fun location => location == ⟨0, 10, 109⟩⟩
    al ∈ (filter ⟨.HARD, false⟩ js [al]).writer ∧ al.getNbJunctionsInRead ≤ 1 ∧
      skipAt al.cigar 1 = true ∧ js.getJunction (spannedJunction al 1) = true := by
  intro al js
  have mem : al ∈ (filter ⟨.HARD, false⟩ js [al]).writer := by decide
  exact ⟨mem, by decide, by decide,
    filter_written_single_skip_trusted ⟨.HARD, false⟩ js [al] al mem (by decide) 1 (by decide)⟩

/-- Clipping does not move the position, so a kept skip's span, computed on the written
record, shifts by the reference length clipped before it: here the input's second skip
spans the trusted `(0, 20, 219)`, the written copy's second skip `(0, 10, 209)`. -/
theorem filter_writes_skip_shifted_by_clipping :
    let al : BamAlignment :=
      ⟨0, 0, 230, [⟨'M', 10⟩, ⟨'N', 0⟩, ⟨'M', 10⟩, ⟨'N', 200⟩, ⟨'M', 10⟩], 30⟩
    let js : JunctionSystem := ⟨fun location => location == ⟨0, 20, 219⟩⟩
    js.getJunction (spannedJunction al 3) = true ∧
      ∃ out ∈ (filter ⟨.HARD, false⟩ js [al]).writer,
        skipAt out.cigar 3 = true ∧ js.getJunction (spannedJunction out 3) = false := by
  decide

/-- A read with one junction is written, unchanged, exactly when the intron it spans is
trusted, in every clip mode: its only skip is looked up where it is. -/
theorem filter_single_spliced_by_spanned_junction (self : BamFilter) (js : JunctionSystem)
    (al : BamAlignment) {i : Nat} (single : al.getNbJunctionsInRead ≤ 1)
    (skip : skipAt al.cigar i = true) :
    (filter self js [al]).writer = if js.getJunction (spannedJunction al i) then [al] else [] := by
  rw [filter_writer, ← containsJunctionInSystem_of_single al js single skip]
  rcases route_cases self js al with ⟨unspliced, -⟩ | ⟨-, -, hroute⟩ | ⟨-, multiply, -, -⟩
  · simp [(BamAlignment.isSplicedRead_iff al).mpr ⟨i, skip⟩] at unspliced
  · cases found : containsJunctionInSystem al js <;>
      simp [BamFilter.written, hroute, found, Route.written]
  · simp [BamAlignment.isMultiplySplicedRead] at multiply
    omega

theorem filter_single_spliced_by_spanned_junction_on_one_read :
    let al : BamAlignment := ⟨0, 0, 120, [⟨'M', 10⟩, ⟨'N', 100⟩, ⟨'M', 10⟩], 20⟩
    let js : JunctionSystem := ⟨fun location => location == ⟨0, 10, 109⟩⟩
    al.getNbJunctionsInRead ≤ 1 ∧ skipAt al.cigar 1 = true ∧
      (filter ⟨.SOFT, false⟩ js [al]).writer =
        if js.getJunction (spannedJunction al 1) then [al] else [] := by
  intro al js
  exact ⟨by decide, by decide,
    filter_single_spliced_by_spanned_junction ⟨.SOFT, false⟩ js al (by decide) (by decide)⟩

/-- A stream in which every ReferenceSkip of every record is looked up at a trusted intron
is written back as it is, in every mode: no record is dropped and none is clipped. -/
theorem filter_writes_back_trusted_stream (self : BamFilter) (js : JunctionSystem)
    (records : List BamAlignment)
    (trusted : ∀ al ∈ records, ∀ i, skipAt al.cigar i = true → lookupTrusted js al i = true) :
    (filter self js records).writer = records := by
  have each : ∀ al ∈ records, (route self js al).written al = some al := by
    intro al mem
    rcases route_cases self js al with ⟨-, hroute⟩ | ⟨spliced, -, hroute⟩ |
      ⟨spliced, -, -, hroute⟩
    · rw [hroute]
      rfl
    · obtain ⟨i, skip⟩ := (BamAlignment.isSplicedRead_iff al).mp spliced
      have found : containsJunctionInSystem al js = true :=
        (containsJunctionInSystem_iff al js).mpr ⟨i, skip, trusted al mem i skip⟩
      rw [hroute, found]
      rfl
    · obtain ⟨i, skip⟩ := (BamAlignment.isSplicedRead_iff al).mp spliced
      have good : (self.clipMSR al js).2 = false := Bool.eq_false_iff.mpr fun bad => by
        simpa [trusted al mem i skip] using (clipMSR_allBad_iff self al js).mp bad i skip
      rw [hroute, good, clipMSR_eq_self_of_trusted (trusted al mem) self skip]
      rfl
  rw [filter_writer, written, List.filterMap_congr each, List.filterMap_some]

theorem filter_writes_back_trusted_stream_on_two_skip_read :
    let al : BamAlignment :=
      ⟨0, 0, 330, [⟨'M', 10⟩, ⟨'N', 100⟩, ⟨'M', 10⟩, ⟨'N', 200⟩, ⟨'M', 10⟩], 30⟩
    let js : JunctionSystem :=
      ⟨fun location => location == ⟨0, 10, 109⟩ || location == ⟨0, 20, 219⟩⟩
    (∀ al' ∈ [al], ∀ i, skipAt al'.cigar i = true → lookupTrusted js al' i = true) ∧
      (filter ⟨.SOFT, false⟩ js [al]).writer = [al] := by
  intro al js
  have bounded : ∀ i, i < 5 → skipAt al.cigar i = true → lookupTrusted js al i = true := by
    decide
  have trusted : ∀ al' ∈ [al], ∀ i, skipAt al'.cigar i = true → lookupTrusted js al' i = true := by
    intro al' mem i skip
    obtain rfl := List.mem_singleton.mp mem
    exact bounded i (lt_length_of_skipAt skip) skip
  exact ⟨trusted, filter_writes_back_trusted_stream ⟨.SOFT, false⟩ js [al] trusted⟩

/-! Trusting more junctions. -/

/-- The inputs whose record `filter` writes to its primary output, in input order. -/
def writtenInputs (self : BamFilter) (js : JunctionSystem) (records : List BamAlignment) :
    List BamAlignment :=
  records.filter fun al => ((route self js al).written al).isSome

/-- With a larger junction set `filter` writes a record for every input it wrote one for,
and `clipMSR` rewrites no operation it left as it was. -/
theorem filter_monotone_in_junctions (self : BamFilter) (J J' : JunctionSystem)
    (sub : J.Subset J') (records : List BamAlignment) :
    (writtenInputs self J records).Sublist (writtenInputs self J' records) ∧
      ∀ (al : BamAlignment) (j : Nat), (self.clipMSR al J).1.cigar[j]? = al.cigar[j]? →
        (self.clipMSR al J').1.cigar[j]? = al.cigar[j]? := by
  refine ⟨List.monotone_filter_right _ fun al written => ?_,
    fun al j => clipMSR_unchanged_of_subset self sub j⟩
  rw [route_written_isSome_iff] at written ⊢
  rcases written with unspliced | ⟨i, skip, trusted⟩
  · exact Or.inl unspliced
  · exact Or.inr ⟨i, skip, sub _ trusted⟩

theorem filter_monotone_in_junctions_on_two_skip_read :
    let al : BamAlignment :=
      ⟨0, 0, 330, [⟨'M', 10⟩, ⟨'N', 100⟩, ⟨'M', 10⟩, ⟨'N', 200⟩, ⟨'M', 10⟩], 30⟩
    let J : JunctionSystem := ⟨fun location => location == ⟨0, 10, 109⟩⟩
    let J' : JunctionSystem := ⟨fun _ => true⟩
    J.Subset J' ∧ (writtenInputs ⟨.HARD, false⟩ J [al]).Sublist
        (writtenInputs ⟨.HARD, false⟩ J' [al]) ∧
      ∀ (al : BamAlignment) (j : Nat), (clipMSR ⟨.HARD, false⟩ al J).1.cigar[j]? = al.cigar[j]? →
        (clipMSR ⟨.HARD, false⟩ al J').1.cigar[j]? = al.cigar[j]? := by
  intro al J J'
  have sub : J.Subset J' := fun _ _ => rfl
  exact ⟨sub, filter_monotone_in_junctions ⟨.HARD, false⟩ J J' sub [al]⟩

/-- The configuration never changes which records `filter` keeps: in every clip mode and
with or without `saveMSRs` it writes a record for the same inputs, in the same order, and
counts and reports as many written and filtered out. -/
theorem filter_keeps_same_inputs_in_every_mode (self self' : BamFilter) (js : JunctionSystem)
    (records : List BamAlignment) :
    writtenInputs self js records = writtenInputs self' js records ∧
      (filter self js records).nbReadsOut = (filter self' js records).nbReadsOut ∧
      filteredOut (filter self js records) = filteredOut (filter self' js records) := by
  obtain ⟨sameIn, sameOut⟩ := filter_counts_config_free self self' js records
  refine ⟨List.filter_congr fun al _ => Bool.eq_iff_iff.mpr ?_, sameOut,
    by rw [filteredOut, filteredOut, sameIn, sameOut]⟩
  exact (route_written_isSome_iff self js al).trans (route_written_isSome_iff self' js al).symm

/-- The filter reads the junction set only at the introns its walks look up: two sets that
answer alike there give the same run, with the same outputs and counters. -/
theorem filter_reads_junctions_only_at_lookups (self : BamFilter) (J J' : JunctionSystem)
    (records : List BamAlignment) (agree : ∀ al ∈ records, J.AgreeOn J' al) :
    filter self J records = filter self J' records := by
  have sameRoute : ∀ al ∈ records, route self J al = route self J' al := fun al mem => by
    unfold route
    rw [containsJunctionInSystem_congr (agree al mem), clipMSR_congr self (agree al mem)]
  suffices run : ∀ st,
      records.foldl (filterStep self J) st = records.foldl (filterStep self J') st from
    run FilterState.init
  induction records with
  | nil => intro st; rfl
  | cons al records ih =>
    intro st
    rw [List.foldl_cons, List.foldl_cons, filterStep_eq_record, filterStep_eq_record,
      sameRoute al (List.mem_cons_self al records)]
    exact ih (fun al' mem => agree al' (List.mem_cons_of_mem al mem))
      (fun al' mem => sameRoute al' (List.mem_cons_of_mem al mem)) _

/-- Trusting also the intron the second skip of `10M 100N 10M 200N 10M` spans changes
nothing: that skip is looked up 100 bases to the left. -/
theorem filter_reads_junctions_only_at_lookups_on_spanned_intron :
    let al : BamAlignment :=
      ⟨0, 0, 330, [⟨'M', 10⟩, ⟨'N', 100⟩, ⟨'M', 10⟩, ⟨'N', 200⟩, ⟨'M', 10⟩], 30⟩
    let J : JunctionSystem := ⟨fun location => location == ⟨0, 10, 109⟩⟩
    let J' : JunctionSystem :=
      ⟨fun location => location == ⟨0, 10, 109⟩ || location == ⟨0, 120, 319⟩⟩
    (∀ al' ∈ [al], J.AgreeOn J' al') ∧
      filter ⟨.HARD, false⟩ J [al] = filter ⟨.HARD, false⟩ J' [al] := by
  intro al J J'
  have bounded : ∀ i, i < 5 → skipAt al.cigar i = true →
      lookupTrusted J al i = lookupTrusted J' al i := by
    decide
  have agree : ∀ al' ∈ [al], J.AgreeOn J' al' := by
    intro al' mem i skip
    obtain rfl := List.mem_singleton.mp mem
    exact bounded i (lt_length_of_skipAt skip) skip
  exact ⟨agree, filter_reads_junctions_only_at_lookups ⟨.HARD, false⟩ J J' [al] agree⟩

/-! Filtering the output again. -/

/-- Clipping `al` into `copy` rewrote no reference-consuming operation ahead of a
ReferenceSkip whose lookup is trusted, so no trusted lookup moves on the copy. -/
def KeepsTrustedLookups (js : JunctionSystem) (al copy : BamAlignment) : Prop :=
  ∀ i, i < al.cigar.length → skipAt al.cigar i = true ∧ lookupTrusted js al i = true →
    ∀ k, k < i → copy.cigar[k]? ≠ al.cigar[k]? →
      CigarOp.opConsumesReference (al.getCigarOpAt k).type = false

instance (js : JunctionSystem) (al copy : BamAlignment) :
    Decidable (KeepsTrustedLookups js al copy) :=
  inferInstanceAs (Decidable (∀ i, i < al.cigar.length → _))

section Refilter

variable {self : BamFilter} {js : JunctionSystem} {al : BamAlignment}

theorem modOp_not_advancesCursor (mode : self.clipMode ≠ .COMPLETE) :
    advancesCursor (modOp self.clipMode) = false := by
  simp [advancesCursor, modOp_not_consumesReference mode]

theorem cursorStep_clipMSR (mode : self.clipMode ≠ .COMPLETE) (k : Nat)
    (flat : (self.clipMSR al js).1.cigar[k]? ≠ al.cigar[k]? →
      CigarOp.opConsumesReference (al.getCigarOpAt k).type = false) :
    (self.clipMSR al js).1.cigar[k]?.map
        (fun op => if advancesCursor op.type then op.length else 0) =
      al.cigar[k]?.map (fun op => if advancesCursor op.type then op.length else 0) := by
  by_cases same : (self.clipMSR al js).1.cigar[k]? = al.cigar[k]?
  · rw [same]
  have clipped := (clipMSR_kept_or_clipped self al js k).resolve_left same
  cases h : al.cigar[k]? with
  | none => simp [clipped, h]
  | some op =>
    have flatOp : advancesCursor op.type = false := by
      have consumes := flat same
      simp only [BamAlignment.getCigarOpAt, List.getD_eq_getElem?_getD, h,
        Option.getD_some] at consumes
      simp [advancesCursor, consumes]
    simp [clipped, h, clipOp, flatOp, modOp_not_advancesCursor mode]

theorem lookupJunction_clipMSR (mode : self.clipMode ≠ .COMPLETE)
    (keeps : KeepsTrustedLookups js al (self.clipMSR al js).1) {i : Nat}
    (skip : skipAt al.cigar i = true) (trusted : lookupTrusted js al i = true) :
    lookupJunction (self.clipMSR al js).1 i = lookupJunction al i := by
  have cursor : lengthWhere advancesCursor ((self.clipMSR al js).1.cigar.take i) =
      lengthWhere advancesCursor (al.cigar.take i) := by
    refine lengthWhere_congr _ fun k => ?_
    simp only [List.getElem?_take]
    split
    · exact cursorStep_clipMSR mode k (keeps i (lt_length_of_skipAt skip) ⟨skip, trusted⟩ k ‹_›)
    · rfl
  have here : (self.clipMSR al js).1.cigar[i]? = al.cigar[i]? := by
    rw [clipMSR_getElem?]
    simp [clippedAt, skip]
  rw [clipMSR_frame]
  simp only [lookupJunction, walkJunction, List.getD_eq_getElem?_getD] at cursor here ⊢
  rw [cursor, here]

theorem lookupTrusted_clipMSR (mode : self.clipMode ≠ .COMPLETE)
    (keeps : KeepsTrustedLookups js al (self.clipMSR al js).1) {i : Nat}
    (skip : skipAt al.cigar i = true) (trusted : lookupTrusted js al i = true) :
    lookupTrusted js (self.clipMSR al js).1 i = true := by
  rw [lookupTrusted, lookupJunction_clipMSR mode keeps skip trusted]
  exact trusted

theorem clippedAt_of_clipMSR (mode : self.clipMode ≠ .COMPLETE)
    (keeps : KeepsTrustedLookups js al (self.clipMSR al js).1) {j : Nat}
    (clipped : clippedAt js (self.clipMSR al js).1 j) : clippedAt js al j := by
  obtain ⟨notSkip, noBefore, noAfter⟩ := clipped
  simp only [clipMSR_skipAt] at notSkip noBefore noAfter
  refine ⟨notSkip, fun ⟨i, lt, skip, trusted, between⟩ => noBefore ?_,
    fun ⟨i, within, lt, skip, trusted, between⟩ => noAfter ?_⟩
  · exact ⟨i, lt, by rwa [clipMSR_skipAt], lookupTrusted_clipMSR mode keeps skip trusted,
      fun k lt' gt => by rw [clipMSR_skipAt]; exact between k lt' gt⟩
  · exact ⟨i, by rwa [clipMSR_length], lt, by rwa [clipMSR_skipAt],
      lookupTrusted_clipMSR mode keeps skip trusted,
      fun k lt' gt => by rw [clipMSR_skipAt]; exact between k lt' gt⟩

theorem clipMSR_clipMSR (mode : self.clipMode ≠ .COMPLETE)
    (keeps : KeepsTrustedLookups js al (self.clipMSR al js).1) :
    (self.clipMSR (self.clipMSR al js).1 js).1 = (self.clipMSR al js).1 := by
  have cigar : (self.clipMSR (self.clipMSR al js).1 js).1.cigar = (self.clipMSR al js).1.cigar := by
    apply List.ext_getElem?
    intro j
    rw [clipMSR_getElem?]
    by_cases clipped : clippedAt js (self.clipMSR al js).1 j
    · rw [clipMSR_getElem? self al js j]
      simp [clipped, clippedAt_of_clipMSR mode keeps clipped, clipOp, Function.comp_def]
    · simp [clipped]
  rw [clipMSR_frame self (self.clipMSR al js).1 js, cigar]

theorem clipMSR_allBad_clipMSR (mode : self.clipMode ≠ .COMPLETE)
    (keeps : KeepsTrustedLookups js al (self.clipMSR al js).1)
    (good : (self.clipMSR al js).2 = false) :
    (self.clipMSR (self.clipMSR al js).1 js).2 = false := by
  rw [Bool.eq_false_iff, ne_eq, clipMSR_allBad_iff] at good ⊢
  intro none
  apply good
  intro i skip
  by_contra trusted
  rw [Bool.not_eq_false] at trusted
  have := none i (by rwa [clipMSR_skipAt])
  rw [lookupTrusted_clipMSR mode keeps skip trusted] at this
  cases this

end Refilter

theorem route_written_refilter (self : BamFilter) (js : JunctionSystem) (al out : BamAlignment)
    (routed : (route self js al).written al = some out)
    (keeps : ∀ copy, route self js al = .clipped copy → KeepsTrustedLookups js al copy) :
    (route self js out).written out = some out := by
  cases hroute : route self js al with
  | discard => simp [hroute, Route.written] at routed
  | pass =>
    obtain rfl : al = out := by simpa [hroute, Route.written] using routed
    rw [hroute]
    rfl
  | clipped copy =>
    obtain rfl : copy = out := by simpa [hroute, Route.written] using routed
    have keep := keeps copy hroute
    obtain ⟨spliced, multiply, mode, good, rfl⟩ := route_eq_clipped hroute
    have spliced' : (self.clipMSR al js).1.isSplicedRead = true := by
      obtain ⟨i, skip⟩ := (BamAlignment.isSplicedRead_iff al).mp spliced
      exact (BamAlignment.isSplicedRead_iff _).mpr ⟨i, by rwa [clipMSR_skipAt]⟩
    have multiply' : (self.clipMSR al js).1.isMultiplySplicedRead = true := by
      rwa [BamAlignment.isMultiplySplicedRead, clipMSR_getNbJunctionsInRead]
    simp [route, spliced', multiply', mode, clipMSR_allBad_clipMSR mode keep good,
      clipMSR_clipMSR mode keep, Route.written]

/-- Filtering the output of `filter` again, with the same set and mode, writes it back record
for record, provided no clipped copy had a reference-consuming operation rewritten ahead of
a trusted skip. -/
theorem filter_refilter_writes_back (self : BamFilter) (js : JunctionSystem)
    (records : List BamAlignment)
    (keeps : ∀ al ∈ records, ∀ copy, route self js al = .clipped copy →
      KeepsTrustedLookups js al copy) :
    (filter self js (filter self js records).writer).writer = (filter self js records).writer := by
  have fixed : ∀ out ∈ written self js records, (route self js out).written out = some out := by
    intro out mem
    obtain ⟨al, memAl, routed⟩ := List.mem_filterMap.mp mem
    exact route_written_refilter self js al out routed (keeps al memAl)
  rw [filter_writer, filter_writer]
  conv_lhs => rw [written]
  rw [List.filterMap_congr fixed, List.filterMap_some]

theorem filter_refilter_writes_back_on_clipped_tail :
    let al : BamAlignment :=
      ⟨0, 0, 800, [⟨'M', 50⟩, ⟨'N', 200⟩, ⟨'M', 30⟩, ⟨'N', 500⟩, ⟨'M', 20⟩], 100⟩
    let js : JunctionSystem := ⟨fun location => location == ⟨0, 50, 249⟩⟩
    (∀ al' ∈ [al], ∀ copy, route ⟨.HARD, false⟩ js al' = .clipped copy →
        KeepsTrustedLookups js al' copy) ∧
      (filter ⟨.HARD, false⟩ js (filter ⟨.HARD, false⟩ js [al]).writer).writer =
        (filter ⟨.HARD, false⟩ js [al]).writer := by
  intro al js
  have keeps : ∀ al' ∈ [al], ∀ copy, route ⟨.HARD, false⟩ js al' = .clipped copy →
      KeepsTrustedLookups js al' copy := by
    intro al' mem copy routed
    rw [List.mem_singleton] at mem
    subst mem
    obtain ⟨-, -, -, -, rfl⟩ := route_eq_clipped routed
    decide
  exact ⟨keeps, filter_refilter_writes_back ⟨.HARD, false⟩ js [al] keeps⟩

/-- The copy written for `10M 0N 10M 200N 10M`, whose trusted second skip follows a clipped
`10M`, is dropped by a second pass: on the copy that skip is looked up at `(0, 10, 209)`. -/
theorem filter_refilter_drops_clipped_copy :
    let al : BamAlignment :=
      ⟨0, 0, 230, [⟨'M', 10⟩, ⟨'N', 0⟩, ⟨'M', 10⟩, ⟨'N', 200⟩, ⟨'M', 10⟩], 30⟩
    let js : JunctionSystem := ⟨fun location => location == ⟨0, 20, 219⟩⟩
    (filter ⟨.HARD, false⟩ js [al]).writer =
        [⟨0, 0, 230, [⟨'H', 10⟩, ⟨'N', 0⟩, ⟨'M', 10⟩, ⟨'N', 200⟩, ⟨'M', 10⟩], 30⟩] ∧
      (filter ⟨.HARD, false⟩ js (filter ⟨.HARD, false⟩ js [al]).writer).writer = [] := by
  decide

end Portcullis.BamFilter
