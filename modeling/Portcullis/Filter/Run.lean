import Portcullis.Filter.Pipeline

set_option autoImplicit false

/- The rest of bam_filter.cc around the record loop: the constructor's checks and defaults,
the output directory and the files `filter` writes, the counts it prints, the index it
builds, and `main`. The file system, the shell and boost's option parser are not under src/:
what the code asks of them is given by `Environment`, and the parsed command line by
`Options`. Loading the junction file and reading the BAM are left to the record loop's
inputs, as in `BamFilter.filter`. -/
namespace Portcullis

open Bam

/-- The answers of the calls `BamFilter` makes outside the program: `bfs::exists`,
`bfs::is_directory`, `bfs::create_directories`, `path::parent_path`, and the exit status
`system` returns for the index command built from the output path and `useCsi`. -/
structure Environment where
  fileExists : String → Bool
  isDirectory : String → Bool
  createDirectories : String → Bool
  parentPath : String → String
  indexExitCode : String → Bool → Int

/-- The members of `BamFilter` the whole run reads: the input paths checked by the
constructor, the output path, and `useCsi`, beside the members the record loop reads.
`verbose` is set but never read. -/
structure BamFilterMembers extends BamFilter where
  junctionFile : String
  bamFile : String
  outputBam : String
  useCsi : Bool

/-- What a run of `BamFilter::filter` leaves: the files it wrote, each with its records,
the count line it printed, and the exception it ended with, if any. -/
structure FilterOutcome where
  files : List (String × List BamAlignment)
  report : Option String
  error : Option String

namespace BamFilter

/-- `BamFilter::BamFilter(junctionFile, bamFile, outputBam)`: HARD clipping, no side files,
BAI indexing, and an exception when the junction file or the BAM is missing. -/
def create (env : Environment) (junctionFile bamFile outputBam : String) :
    Except String BamFilterMembers :=
  if !env.fileExists junctionFile then
    .error ("Could not find junction file at: " ++ junctionFile)
  else if !env.fileExists bamFile then
    .error ("Could not find BAM file at: " ++ bamFile)
  else .ok { clipMode := .HARD, saveMSRs := false, junctionFile, bamFile, outputBam,
             useCsi := false }

def outputDirectory (env : Environment) (outputBam : String) : String :=
  let outDir := env.parentPath outputBam
  if outDir.isEmpty then "." else outDir

def prepareOutputDirectory (env : Environment) (outDir : String) : Except String Unit :=
  if !env.fileExists outDir then
    if !env.createDirectories outDir then
      .error ("Could not create output directory at: " ++ outDir)
    else .ok ()
  else if !env.isDirectory outDir then
    .error ("File exists with name of suggested output directory: " ++ outDir)
  else .ok ()

def reportLine (st : FilterState) : String :=
  "Filtered out " ++ toString (filteredOut st) ++ " alignments.  In: " ++
    toString st.nbReadsIn ++ "; Out: " ++ toString st.nbReadsOut ++ " (Modified: " ++
    toString st.nbReadsModifiedOut ++ ");"

/-- The files the loop's state is written to: the output, and with `saveMSRs` the
`.mod.bam` and `.unmod.bam` beside it. -/
def outputFiles (outputBam : String) (saveMSRs : Bool) (st : FilterState) :
    List (String × List BamAlignment) :=
  (outputBam, st.writer) ::
    if saveMSRs then [(outputBam ++ ".mod.bam", st.mod), (outputBam ++ ".unmod.bam", st.unmod)]
    else []

end BamFilter

open BamFilter

/-- `BamFilter::filter`: the output directory, the record loop, the count line, and the
index of the output, whose failure is thrown once the outputs are written. -/
def BamFilterMembers.filter (self : BamFilterMembers) (env : Environment) (js : JunctionSystem)
    (records : List BamAlignment) : FilterOutcome :=
  match prepareOutputDirectory env (outputDirectory env self.outputBam) with
  | .error message => ⟨[], none, some message⟩
  | .ok () =>
    let st := BamFilter.filter self.toBamFilter js records
    let error := if env.indexExitCode self.outputBam self.useCsi != 0 then
        some ("Problem indexing output BAM: " ++ self.outputBam)
      else none
    ⟨outputFiles self.outputBam self.saveMSRs st, some (reportLine st), error⟩

/-- The options `main` reads once boost has parsed the command line; `clipMode` is what
`clipFromString` makes of `--clip_mode`. -/
structure Options where
  junctionFile : String
  bamFile : String
  output : String
  clipMode : ClipMode
  saveMSRs : Bool
  useCsi : Bool
  help : Bool

def Options.defaults (junctionFile bamFile : String) : Options :=
  ⟨junctionFile, bamFile, "filtered.bam", .HARD, false, false, false⟩

/-- `BamFilter::main` after parsing: the help text and status 1 when asked for it or given
no argument, otherwise a filter built from the paths, configured from the options and run,
and status 0 unless an exception is thrown. -/
def BamFilter.main (env : Environment) (js : JunctionSystem) (records : List BamAlignment)
    (argc : Nat) (opts : Options) : FilterOutcome × Except String Int :=
  if opts.help || argc ≤ 1 then (⟨[], none, none⟩, .ok 1)
  else
    match create env opts.junctionFile opts.bamFile opts.output with
    | .error message => (⟨[], none, some message⟩, .error message)
    | .ok created =>
      let configured := { created with clipMode := opts.clipMode, saveMSRs := opts.saveMSRs,
                                       useCsi := opts.useCsi }
      let outcome := configured.filter env js records
      (outcome, match outcome.error with
        | some message => .error message
        | none => .ok 0)

end Portcullis

namespace Portcullis.BamFilter

open Bam

/-! What a run leaves. -/

theorem create_eq_ok_iff (env : Environment) (junctionFile bamFile outputBam : String)
    (created : BamFilterMembers) :
    create env junctionFile bamFile outputBam = .ok created ↔
      env.fileExists junctionFile = true ∧ env.fileExists bamFile = true ∧
        created = { clipMode := .HARD, saveMSRs := false, junctionFile, bamFile, outputBam,
                    useCsi := false } := by
  unfold create
  cases env.fileExists junctionFile <;> cases env.fileExists bamFile <;> simp
  exact eq_comm

theorem create_error (env : Environment) (junctionFile bamFile outputBam message : String)
    (thrown : create env junctionFile bamFile outputBam = .error message) :
    env.fileExists junctionFile = false ∧
        message = "Could not find junction file at: " ++ junctionFile ∨
      env.fileExists junctionFile = true ∧ env.fileExists bamFile = false ∧
        message = "Could not find BAM file at: " ++ bamFile := by
  unfold create at thrown
  cases junction : env.fileExists junctionFile <;> cases bam : env.fileExists bamFile <;>
    simp_all

theorem prepareOutputDirectory_error {env : Environment} {outDir message : String}
    (thrown : prepareOutputDirectory env outDir = .error message) :
    message = "Could not create output directory at: " ++ outDir ∨
      message = "File exists with name of suggested output directory: " ++ outDir := by
  unfold prepareOutputDirectory at thrown
  split_ifs at thrown <;> simp_all

theorem outputFiles_paths_nodup (outputBam : String) (saveMSRs : Bool) (st : FilterState) :
    ((outputFiles outputBam saveMSRs st).map Prod.fst).Nodup := by
  have length := String.length_append outputBam
  have mod : ".mod.bam".length = 8 := rfl
  have unmod : ".unmod.bam".length = 10 := rfl
  have differ : ∀ a b : String, a.length ≠ b.length → a ≠ b := fun _ _ lengths same =>
    lengths (congrArg String.length same)
  cases saveMSRs
  · simp [outputFiles]
  · simp only [outputFiles, if_true, List.map_cons, List.map_nil, List.nodup_cons,
      List.mem_cons, List.mem_singleton, List.not_mem_nil, or_false, List.nodup_nil, and_true]
    refine ⟨not_or.mpr ⟨differ _ _ ?_, differ _ _ ?_⟩, differ _ _ ?_, not_false⟩ <;>
      simp only [length, mod, unmod] <;> omega

theorem BamFilterMembers.filter_cases (self : BamFilterMembers) (env : Environment)
    (js : JunctionSystem) (records : List BamAlignment) :
    (∃ message, prepareOutputDirectory env (outputDirectory env self.outputBam) = .error message ∧
      self.filter env js records = ⟨[], none, some message⟩) ∨
    (prepareOutputDirectory env (outputDirectory env self.outputBam) = .ok () ∧
      self.filter env js records =
        ⟨outputFiles self.outputBam self.saveMSRs (filter self.toBamFilter js records),
          some (reportLine (filter self.toBamFilter js records)),
          if env.indexExitCode self.outputBam self.useCsi != 0 then
            some ("Problem indexing output BAM: " ++ self.outputBam)
          else none⟩) := by
  unfold BamFilterMembers.filter
  split
  · exact Or.inl ⟨_, ‹_›, rfl⟩
  · exact Or.inr ⟨‹_›, rfl⟩

theorem defaults_configure_as_create (env : Environment) (junctionFile bamFile : String)
    (created : BamFilterMembers)
    (built : create env junctionFile bamFile "filtered.bam" = .ok created) :
    { created with clipMode := (Options.defaults junctionFile bamFile).clipMode,
                   saveMSRs := (Options.defaults junctionFile bamFile).saveMSRs,
                   useCsi := (Options.defaults junctionFile bamFile).useCsi } = created := by
  obtain ⟨-, -, rfl⟩ := (create_eq_ok_iff _ _ _ _ _).mp built
  rfl

/-- `main` writes nothing, or, asked to run with both input files present and the output
directory ready, writes to three distinct paths the outputs of the record loop run with the
clip mode and `saveMSRs` of its options; a failing index step is thrown only after. -/
theorem main_writes_loop_outputs (env : Environment) (js : JunctionSystem)
    (records : List BamAlignment) (argc : Nat) (opts : Options) :
    (main env js records argc opts).1.files = [] ∨
      (opts.help = false ∧ 1 < argc ∧ env.fileExists opts.junctionFile = true ∧
        env.fileExists opts.bamFile = true ∧
        prepareOutputDirectory env (outputDirectory env opts.output) = .ok () ∧
        (main env js records argc opts).1.files =
          outputFiles opts.output opts.saveMSRs (filter ⟨opts.clipMode, opts.saveMSRs⟩ js records) ∧
        ((main env js records argc opts).1.files.map Prod.fst).Nodup) := by
  unfold main
  by_cases asked : (opts.help || decide (argc ≤ 1)) = true
  · exact Or.inl (by simp only [asked, if_true])
  have running : opts.help = false ∧ 1 < argc := by simpa using asked
  rw [if_neg asked]
  cases created : create env opts.junctionFile opts.bamFile opts.output with
  | error message => exact Or.inl rfl
  | ok built =>
    obtain ⟨junction, bam, rfl⟩ := (create_eq_ok_iff _ _ _ _ _).mp created
    rcases BamFilterMembers.filter_cases ⟨⟨opts.clipMode, opts.saveMSRs⟩, opts.junctionFile,
        opts.bamFile, opts.output, opts.useCsi⟩ env js records with
      ⟨message, -, run⟩ | ⟨prepared, run⟩
    · exact Or.inl (by simp only [run])
    · refine Or.inr ⟨running.1, running.2, junction, bam, prepared, by simp only [run], ?_⟩
      simp only [run]
      exact outputFiles_paths_nodup _ _ _

end Portcullis.BamFilter
