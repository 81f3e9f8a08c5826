import Mathlib.Data.Nat.Digits
import Portcullis.Bam.Alignment

set_option autoImplicit false

/- `CigarOp::toString` and `BamAlignment::getCigarAsString`, and that the string loses
nothing. The lengths are written by `lexical_cast<string>`, in decimal with no leading
zeros, and every kind of a BAM CIGAR is a letter or `=`, never a digit, so each operation
ends at the first character after its run of digits. `readCigar` reads the string back
that way; it is not a function of the repository, only the left inverse by which
`getCigarAsString` is shown injective. -/
namespace Portcullis.Bam

def bamCigarKinds : List Char :=
  [bamCigarMatchChar, bamCigarInsChar, bamCigarDelChar, bamCigarRefskipChar,
    bamCigarSoftclipChar, bamCigarHardclipChar, bamCigarPadChar, bamCigarEqualChar,
    bamCigarDiffChar, bamCigarBackChar]

/-- `lexical_cast<string>(length) + type`. -/
def CigarOp.toString (op : CigarOp) : String := (ToString.toString op.length).push op.type

/-- `for (const auto & c : cigar) ss << c.toString(); return ss.str();` -/
def BamAlignment.getCigarAsString (al : BamAlignment) : String :=
  al.cigar.foldl (fun ss c => ss ++ c.toString) ""

/-! Reading the string back. -/

def decimalValue (digits : List Char) : Nat :=
  digits.foldl (fun n c => 10 * n + (c.toNat - '0'.toNat)) 0

/-- Reads a CIGAR string back, `digits` being the run of digits read since the last
operation: a character that is not a digit closes the run as the kind of an operation
whose length the run gives. -/
def readCigar (digits : List Char) : List Char → Option (List CigarOp)
  | [] => if digits = [] then some [] else none
  | c :: cs =>
    if c.isDigit then readCigar (digits ++ [c]) cs
    else if digits = [] then none
    else (readCigar [] cs).map (⟨c, (decimalValue digits : Int)⟩ :: ·)

theorem decimalValue_append_digit (digits : List Char) (c : Char) :
    decimalValue (digits ++ [c]) = 10 * decimalValue digits + (c.toNat - '0'.toNat) := by
  simp [decimalValue, List.foldl_append]

theorem digitChar_isDigit : ∀ d, d < 10 →
    (Nat.digitChar d).isDigit = true ∧ (Nat.digitChar d).toNat - '0'.toNat = d := by
  decide

theorem toDigitsCore_decimal (fuel n : Nat) (enough : n < fuel) (ds : List Char) :
    ∃ digits, Nat.toDigitsCore 10 fuel n ds = digits ++ ds ∧ digits ≠ [] ∧
      (∀ c ∈ digits, c.isDigit = true) ∧ decimalValue digits = n := by
  induction fuel generalizing n ds with
  | zero => omega
  | succ fuel ih =>
    have last := digitChar_isDigit (n % 10) (Nat.mod_lt _ (by decide))
    by_cases single : n / 10 = 0
    · refine ⟨[Nat.digitChar (n % 10)], by simp [Nat.toDigitsCore, single], by simp,
        by simpa using last.1, ?_⟩
      simp only [decimalValue, List.foldl_cons, List.foldl_nil, last.2]
      omega
    · obtain ⟨digits, eq, nonempty, isDigit, value⟩ :=
        ih (n / 10) (by omega) (Nat.digitChar (n % 10) :: ds)
      refine ⟨digits ++ [Nat.digitChar (n % 10)], by simp [Nat.toDigitsCore, single, eq],
        by simp, ?_, ?_⟩
      · intro c mem
        rcases List.mem_append.mp mem with early | final
        · exact isDigit c early
        · rw [List.mem_singleton.mp final]
          exact last.1
      · rw [decimalValue_append_digit, value, last.2]
        omega

theorem toString_length_decimal (length : Int) (nonneg : 0 ≤ length) :
    ∃ digits, (ToString.toString length).data = digits ∧ digits ≠ [] ∧
      (∀ c ∈ digits, c.isDigit = true) ∧ (decimalValue digits : Int) = length := by
  obtain ⟨n, rfl⟩ := Int.eq_ofNat_of_zero_le nonneg
  obtain ⟨digits, eq, nonempty, isDigit, value⟩ := toDigitsCore_decimal (n + 1) n (by omega) []
  refine ⟨digits, ?_, nonempty, isDigit, by rw [value]⟩
  simpa [ToString.toString, Nat.repr, Nat.toDigits] using eq

theorem not_isDigit_of_mem_bamCigarKinds : ∀ c ∈ bamCigarKinds, c.isDigit = false := by
  decide

theorem readCigar_digits (digits ds : List Char) (c : Char) (rest : List Char)
    (isDigit : ∀ d ∈ ds, d.isDigit = true) (closing : c.isDigit = false)
    (nonempty : digits ++ ds ≠ []) :
    readCigar digits (ds ++ c :: rest) =
      (readCigar [] rest).map (⟨c, (decimalValue (digits ++ ds) : Int)⟩ :: ·) := by
  induction ds generalizing digits with
  | nil =>
    simp only [List.append_nil] at nonempty ⊢
    simp [readCigar, closing, nonempty]
  | cons d ds ih =>
    rw [List.cons_append, readCigar, if_pos (isDigit d (List.mem_cons_self d ds)),
      ih (digits ++ [d]) (fun e mem => isDigit e (List.mem_cons_of_mem d mem)) (by simp)]
    simp

theorem getCigarAsString_data (al : BamAlignment) :
    al.getCigarAsString.data = (al.cigar.map fun op => op.toString.data).flatten := by
  suffices each : ∀ (ops : List CigarOp) (ss : String),
      (ops.foldl (fun ss c => ss ++ c.toString) ss).data =
        ss.data ++ (ops.map fun op => op.toString.data).flatten from each al.cigar ""
  intro ops
  induction ops with
  | nil => simp
  | cons op ops ih => intro ss; simp [ih]

/-- On operations of the BAM kinds with non-negative lengths, `readCigar` recovers the
operations from their string. -/
theorem readCigar_toString (ops : List CigarOp)
    (wellFormed : ∀ op ∈ ops, op.type ∈ bamCigarKinds ∧ 0 ≤ op.length) :
    readCigar [] (ops.map fun op => op.toString.data).flatten = some ops := by
  induction ops with
  | nil => rfl
  | cons op ops ih =>
    obtain ⟨kind, nonneg⟩ := wellFormed op (List.mem_cons_self op ops)
    obtain ⟨digits, eq, nonempty, isDigit, value⟩ := toString_length_decimal op.length nonneg
    rw [List.map_cons, List.flatten_cons, CigarOp.toString, String.data_push, eq,
      List.append_assoc, List.singleton_append,
      readCigar_digits [] digits op.type _ isDigit
        (not_isDigit_of_mem_bamCigarKinds _ kind) (by simpa using nonempty),
      ih fun op' mem => wellFormed op' (List.mem_cons_of_mem op mem)]
    simp [value]

/-- Two CIGARs of the BAM kinds with non-negative lengths that `getCigarAsString` writes
as the same string are the same. -/
theorem cigar_eq_of_getCigarAsString_eq (al al' : BamAlignment)
    (wellFormed : ∀ op ∈ al.cigar, op.type ∈ bamCigarKinds ∧ 0 ≤ op.length)
    (wellFormed' : ∀ op ∈ al'.cigar, op.type ∈ bamCigarKinds ∧ 0 ≤ op.length)
    (same : al.getCigarAsString = al'.getCigarAsString) : al.cigar = al'.cigar := by
  have read := readCigar_toString al.cigar wellFormed
  rw [← getCigarAsString_data, same, getCigarAsString_data,
    readCigar_toString al'.cigar wellFormed'] at read
  exact (Option.some.inj read).symm

theorem cigar_eq_of_getCigarAsString_eq_on_two_reads :
    let al : BamAlignment := ⟨0, 0, 120, [⟨'M', 10⟩, ⟨'N', 100⟩, ⟨'M', 10⟩], 20⟩
    let al' : BamAlignment := ⟨1, 500, 120, [⟨'M', 10⟩, ⟨'N', 100⟩, ⟨'M', 10⟩], 20⟩
    (∀ op ∈ al.cigar, op.type ∈ bamCigarKinds ∧ 0 ≤ op.length) ∧
      (∀ op ∈ al'.cigar, op.type ∈ bamCigarKinds ∧ 0 ≤ op.length) ∧
      al.getCigarAsString = al'.getCigarAsString ∧ al.cigar = al'.cigar := by
  intro al al'
  have wellFormed : ∀ op ∈ al.cigar, op.type ∈ bamCigarKinds ∧ 0 ≤ op.length := by decide
  have wellFormed' : ∀ op ∈ al'.cigar, op.type ∈ bamCigarKinds ∧ 0 ≤ op.length := by decide
  have same : al.getCigarAsString = al'.getCigarAsString := by decide
  exact ⟨wellFormed, wellFormed', same,
    cigar_eq_of_getCigarAsString_eq al al' wellFormed wellFormed' same⟩

/- A digit as a kind would run into the next length: `1` of kind `1` then `2M` is written
`112M`, as `112M` is. -/
example : BamAlignment.getCigarAsString ⟨0, 0, 0, [⟨'1', 1⟩, ⟨'M', 2⟩], 0⟩ =
    BamAlignment.getCigarAsString ⟨0, 0, 0, [⟨'M', 112⟩], 0⟩ := by
  decide

end Portcullis.Bam
