import TransientFuel.Proofs.CellFaults
import TransientFuel.Proofs.TableAgreement

/-!
# Data files as a whole

A data file is loaded as a whole or not at all. A sheet is read row by row, and what is read of it
has one value for each row, in the order of the rows: `DataKind.readSheet_eq_ok_iff`. If this fails,
the header is at fault, or else the first row that cannot be read: `DataKind.Misreads`. Only then
are the values looked at. A trace has to be finite, and the first tick that is not is at fault; a
taper has to pass its check. So a row that cannot be read is named even if a number further up is
not finite: `ofSheet_whole_or_blamed`.
-/

namespace TransientFuel

/-- The texts that mark a tick as the last one of a cycle, or as another one. -/
inductive MarksCycle : String → Bool → Prop
  | one : MarksCycle "1" true
  | yes : MarksCycle "true" true
  | zero : MarksCycle "0" false
  | no : MarksCycle "false" false
  | blank : MarksCycle "" false

namespace Csv.Row

/-- That a row is a tick of a trace: two numbers and a mark. -/
def IsSample (row : Row) (sample : Sample) : Prop :=
  ∃ throttle load mark, row.fields = .ok [throttle, load, mark] ∧
    Decimal.read throttle = .ok sample.throttle ∧ Decimal.read load = .ok sample.load ∧
    MarksCycle mark sample.cycleEnd

/-- That a row is a point of a taper: an age and its multiplier. -/
def IsPoint (row : Row) (point : Float32 × Float32) : Prop :=
  ∃ age multiplier, row.fields = .ok [age, multiplier] ∧
    Decimal.read age = .ok point.1 ∧ Decimal.read multiplier = .ok point.2

end Csv.Row

namespace DataKind

variable {α : Type}

/-- That a row has a value. -/
def Reads (kind : DataKind α) (row : Csv.Row) (value : α) : Prop :=
  row.fields.bind kind.read = .ok value

/-- Why a sheet cannot be read: its header, or else the first row without a value. -/
inductive Misreads (kind : DataKind α) (path : String) (sheet : Csv.Sheet) : DataFault → Prop
  | unreadableHeader {fault : Csv.RowFault} (header : sheet.header = .error fault) :
      Misreads kind path sheet (.headerRow path sheet.position fault)
  | otherHeader {found : List String} (header : sheet.header = .ok found)
      (other : found ≠ kind.header) :
      Misreads kind path sheet (.header kind.name kind.header found)
  | row {index : ℕ} {row : Csv.Row} {fault : Csv.RowFault} (header : sheet.header = .ok kind.header)
      (least : IsLeast
        {index | ∃ row, sheet.rows[index]? = some row ∧ ∀ value, ¬kind.Reads row value} index)
      (found : sheet.rows[index]? = some row) (cause : row.fields.bind kind.read = .error fault) :
      Misreads kind path sheet (.row (index + 2) row.position fault)

variable {kind : DataKind α} {path : String} {sheet : Csv.Sheet} {rows : List Csv.Row}
  {values : List α} {number : ℕ} {fault : DataFault}

theorem not_reads_of_error {row : Csv.Row} {fault : Csv.RowFault}
    (cause : row.fields.bind kind.read = .error fault) (value : α) : ¬kind.Reads row value := by
  simp [Reads, cause]

theorem readRows_eq_ok_iff :
    kind.readRows number rows = .ok values ↔ List.Forall₂ kind.Reads rows values := by
  induction rows generalizing number values with
  | nil => simp [readRows, eq_comm]
  | cons row rest inductionHypothesis =>
      rw [readRows, List.forall₂_cons_left_iff]
      cases read : row.fields.bind kind.read with
      | error fault => simp [Reads, read]
      | ok value =>
          simp only [map_eq_ok_iff, inductionHypothesis, Reads, read, Except.ok.injEq]
          constructor
          · rintro ⟨later, laterRead, rfl⟩
            exact ⟨value, later, rfl, laterRead, rfl⟩
          · rintro ⟨_, later, rfl, laterRead, rfl⟩
            exact ⟨later, laterRead, rfl⟩

/-- Rows are read up to the first one that has no value. -/
theorem readRows_eq_error_iff :
    kind.readRows number rows = .error fault ↔
      ∃ (index : ℕ) (row : Csv.Row) (cause : Csv.RowFault), rows[index]? = some row ∧
        row.fields.bind kind.read = .error cause ∧
        (∀ earlier ∈ rows.take index, ∃ value, kind.Reads earlier value) ∧
        fault = .row (number + index) row.position cause := by
  induction rows generalizing number with
  | nil => simp [readRows]
  | cons row rest inductionHypothesis =>
      rw [readRows, ← Nat.or_exists_add_one]
      simp only [List.getElem?_cons_zero, List.getElem?_cons_succ, List.take_zero,
        List.take_succ_cons, List.forall_mem_cons]
      cases read : row.fields.bind kind.read with
      | error cause =>
          constructor
          · rintro ⟨⟩
            left
            exact ⟨row, cause, rfl, read, by simp, rfl⟩
          · rintro (⟨_, _, ⟨⟩, failed, _, rfl⟩ | ⟨_, _, _, _, _, ⟨⟨value, reads⟩, _⟩, _⟩)
            · obtain rfl := Except.error.inj (read.symm.trans failed)
              rfl
            · exact absurd reads (not_reads_of_error read value)
      | ok value =>
          have later : (kind.readRows (number + 1) rest).map (value :: ·) = .error fault ↔
              kind.readRows (number + 1) rest = .error fault := by
            cases kind.readRows (number + 1) rest <;> simp [Except.map]
          rw [later, inductionHypothesis, or_iff_right]
          · simp only [Reads, read, Except.ok.injEq, exists_eq', true_and, Nat.add_assoc,
              Nat.add_comm 1]
          · rintro ⟨_, _, ⟨⟩, failed, _⟩
            simp [read] at failed

theorem readSheet_eq_ok_iff :
    kind.readSheet path sheet = .ok values ↔
      sheet.header = .ok kind.header ∧ List.Forall₂ kind.Reads sheet.rows values := by
  rw [readSheet]
  cases header : sheet.header with
  | error fault => simp
  | ok found =>
      by_cases same : found = kind.header
      · simp [same, readRows_eq_ok_iff]
      · simp [same]

/-- A row is the first one without a value if all rows before it have one. -/
theorem isLeast_unread_iff {index : ℕ} {row : Csv.Row} {cause : Csv.RowFault}
    (found : rows[index]? = some row) (failed : row.fields.bind kind.read = .error cause) :
    IsLeast {index | ∃ row, rows[index]? = some row ∧ ∀ value, ¬kind.Reads row value} index ↔
      ∀ earlier ∈ rows.take index, ∃ value, kind.Reads earlier value := by
  rw [@isLeast_iff _ (fun row => ∀ value, ¬kind.Reads row value) _ _ _ found,
    and_iff_right (not_reads_of_error failed)]
  simp

theorem readSheet_eq_error_iff :
    kind.readSheet path sheet = .error fault ↔ kind.Misreads path sheet fault := by
  constructor
  · intro failed
    rw [readSheet] at failed
    cases header : sheet.header with
    | error headerFault =>
        rw [header] at failed
        cases failed
        exact .unreadableHeader header
    | ok found =>
        simp only [header] at failed
        split at failed
        · rename_i same
          rw [same] at header
          rcases readRows_eq_error_iff.mp failed with
            ⟨index, row, cause, found, rowFailed, passed, rfl⟩
          rw [firstLine, Nat.add_comm]
          exact .row header ((isLeast_unread_iff found rowFailed).mpr passed) found rowFailed
        · rename_i other
          cases failed
          exact .otherHeader header other
  · rintro (header | ⟨header, other⟩ | ⟨header, least, found, cause⟩)
    · rw [readSheet, header]
    · simp only [readSheet, header, if_neg other]
    · simp only [readSheet, header, if_true, readRows_eq_error_iff]
      exact ⟨_, _, _, found, cause, (isLeast_unread_iff found cause).mp least,
        by rw [firstLine, Nat.add_comm]⟩

theorem number_eq_ok_iff {field : ℕ} {text : String} {value : Float32} :
    DataKind.number field text = .ok value ↔ Decimal.read text = .ok value := by
  rw [DataKind.number, mapError_eq_ok_iff]

theorem flag_eq_ok_iff {text : String} {value : Bool} :
    flag text = .ok value ↔ MarksCycle text value := by
  rw [flag]
  constructor
  · intro read
    split at read
    · rename_i marked
      cases read
      rcases marked with rfl | rfl
      · exact .one
      · exact .yes
    · split at read
      · rename_i unmarked
        cases read
        rcases unmarked with rfl | rfl | rfl
        · exact .zero
        · exact .no
        · exact .blank
      · contradiction
  · intro marks
    cases marks <;> rfl

theorem trace_read_eq_ok_iff {fields : List String} {sample : Sample} :
    trace.read fields = .ok sample ↔
      ∃ throttle load mark, fields = [throttle, load, mark] ∧
        Decimal.read throttle = .ok sample.throttle ∧ Decimal.read load = .ok sample.load ∧
        MarksCycle mark sample.cycleEnd := by
  rcases fields with _ | ⟨throttle, _ | ⟨load, _ | ⟨mark, _ | ⟨extra, rest⟩⟩⟩⟩
  · simp [trace]
  · simp [trace]
  · simp [trace]
  · simp only [trace, bind_eq_ok, number_eq_ok_iff, flag_eq_ok_iff, List.cons.injEq, and_true]
    constructor
    · rintro ⟨first, firstRead, second, secondRead, third, marks, ⟨⟩⟩
      exact ⟨throttle, load, mark, ⟨rfl, rfl, rfl⟩, firstRead, secondRead, marks⟩
    · rintro ⟨_, _, _, ⟨rfl, rfl, rfl⟩, firstRead, secondRead, marks⟩
      exact ⟨_, firstRead, _, secondRead, _, marks, rfl⟩
  · simp [trace]

theorem taper_read_eq_ok_iff {fields : List String} {point : Float32 × Float32} :
    taper.read fields = .ok point ↔
      ∃ age multiplier, fields = [age, multiplier] ∧
        Decimal.read age = .ok point.1 ∧ Decimal.read multiplier = .ok point.2 := by
  rcases fields with _ | ⟨age, _ | ⟨multiplier, _ | ⟨extra, rest⟩⟩⟩
  · simp [taper]
  · simp [taper]
  · simp only [taper, bind_eq_ok, number_eq_ok_iff, List.cons.injEq, and_true]
    constructor
    · rintro ⟨first, firstRead, second, secondRead, ⟨⟩⟩
      exact ⟨age, multiplier, ⟨rfl, rfl⟩, firstRead, secondRead⟩
    · rintro ⟨_, _, ⟨rfl, rfl⟩, firstRead, secondRead⟩
      exact ⟨_, firstRead, _, secondRead, rfl⟩
  · simp [taper]

theorem reads_iff {row : Csv.Row} {value : α} :
    kind.Reads row value ↔ ∃ fields, row.fields = .ok fields ∧ kind.read fields = .ok value :=
  bind_eq_ok

theorem reads_trace : trace.Reads = Csv.Row.IsSample := by
  funext row sample
  rw [eq_iff_iff]
  simp only [reads_iff, trace_read_eq_ok_iff, Csv.Row.IsSample]
  constructor
  · rintro ⟨_, given, throttle, load, mark, rfl, reads⟩
    exact ⟨throttle, load, mark, given, reads⟩
  · rintro ⟨throttle, load, mark, given, reads⟩
    exact ⟨_, given, throttle, load, mark, rfl, reads⟩

theorem reads_taper : taper.Reads = Csv.Row.IsPoint := by
  funext row point
  rw [eq_iff_iff]
  simp only [reads_iff, taper_read_eq_ok_iff, Csv.Row.IsPoint]
  constructor
  · rintro ⟨_, given, age, multiplier, rfl, reads⟩
    exact ⟨age, multiplier, given, reads⟩
  · rintro ⟨age, multiplier, given, reads⟩
    exact ⟨_, given, age, multiplier, rfl, reads⟩

end DataKind

/-- Why a sheet is no trace: it cannot be read, or else its first tick that is not finite. -/
inductive Trace.Blamed (path : String) (sheet : Csv.Sheet) : DataFault → Prop
  | misread {fault : DataFault} (misreads : DataKind.trace.Misreads path sheet fault) :
      Trace.Blamed path sheet fault
  | notFinite {samples : List Sample} {index : ℕ}
      (header : sheet.header = .ok ["tps", "load", "cycle_end"])
      (read : List.Forall₂ Csv.Row.IsSample sheet.rows samples)
      (least : IsLeast {index | ∃ sample, samples[index]? = some sample ∧
        (sample.throttle.isFinite = false ∨ sample.load.isFinite = false)} index) :
      Trace.Blamed path sheet (.sample (index + 2))

/-- Why a sheet is no taper: it cannot be read, or else what it says does not pass the check. -/
inductive CurveData.Blamed (path : String) (sheet : Csv.Sheet) : DataFault → Prop
  | misread {fault : DataFault} (misreads : DataKind.taper.Misreads path sheet fault) :
      CurveData.Blamed path sheet fault
  | refused {points : List (Float32 × Float32)} {fault : SettingsFault}
      (header : sheet.header = .ok ["distance", "mult"])
      (read : List.Forall₂ Csv.Row.IsPoint sheet.rows points)
      (fails : CurveData.check ⟨points.map Prod.fst, points.map Prod.snd⟩ = .error fault) :
      CurveData.Blamed path sheet (.check fault)

section Loading

variable {path : String} {sheet : Csv.Sheet} {fault : DataFault}

namespace Trace

theorem ofSheet_eq_ok_iff {samples : Trace} :
    ofSheet path sheet = .ok samples ↔
      sheet.header = .ok ["tps", "load", "cycle_end"] ∧
        List.Forall₂ Csv.Row.IsSample sheet.rows samples ∧
        ∀ sample ∈ samples,
          sample.throttle.isFinite = true ∧ sample.load.isFinite = true := by
  simp only [ofSheet, bind_eq_ok, DataKind.readSheet_eq_ok_iff, DataKind.reads_trace]
  constructor
  · rintro ⟨read, ⟨header, rows⟩, passed⟩
    cases search : read.findIdx? (!·.isFinite) with
    | some index =>
        rw [search] at passed
        contradiction
    | none =>
        rw [search] at passed
        obtain rfl : read = samples := Except.ok.inj passed
        exact ⟨header, rows, by simpa [Sample.isFinite] using search⟩
  · rintro ⟨header, rows, finite⟩
    have search : samples.findIdx? (!·.isFinite) = none := by
      simpa [Sample.isFinite] using finite
    exact ⟨samples, ⟨header, rows⟩, by rw [search]; rfl⟩

theorem exists_ofSheet_iff :
    (∃ samples, ofSheet path sheet = .ok samples) ↔
      sheet.header = .ok ["tps", "load", "cycle_end"] ∧
        ∀ row ∈ sheet.rows, ∃ sample, row.IsSample sample ∧
          sample.throttle.isFinite = true ∧ sample.load.isFinite = true := by
  simp only [ofSheet_eq_ok_iff]
  constructor
  · rintro ⟨samples, header, rows, finite⟩
    refine ⟨header, ?_⟩
    intro row member
    rcases exists_of_forall₂ rows member with ⟨sample, given, isSample⟩
    exact ⟨sample, isSample, finite sample given⟩
  · rintro ⟨header, each⟩
    rcases exists_forall₂ each with ⟨samples, rows⟩
    refine ⟨samples, header, rows.imp fun _ _ both => both.1, ?_⟩
    intro sample given
    rcases exists_of_forall₂ rows.flip given with ⟨row, _, _, finite⟩
    exact finite

theorem ofSheet_eq_error_iff :
    ofSheet path sheet = .error fault ↔ Trace.Blamed path sheet fault := by
  simp only [ofSheet, bind_eq_error, DataKind.readSheet_eq_error_iff, DataKind.readSheet_eq_ok_iff,
    DataKind.reads_trace]
  constructor
  · rintro (misreads | ⟨samples, ⟨header, rows⟩, failed⟩)
    · exact .misread misreads
    · cases search : samples.findIdx? (!·.isFinite) with
      | some index =>
          rw [search] at failed
          obtain rfl := Except.error.inj failed
          rw [findIdx?_eq_some_iff_isLeast] at search
          exact .notFinite header rows (by simpa [Sample.isFinite] using search)
      | none =>
          rw [search] at failed
          contradiction
  · rintro (misreads | @⟨samples, index, header, rows, least⟩)
    · exact Or.inl misreads
    · right
      have search : samples.findIdx? (!·.isFinite) = some index :=
        findIdx?_eq_some_iff_isLeast.mpr (by simpa [Sample.isFinite] using least)
      exact ⟨samples, ⟨header, rows⟩, by rw [search]; rfl⟩

end Trace

namespace CurveData

theorem regular_points_iff {points : List (Float32 × Float32)} :
    Regular ⟨points.map Prod.fst, points.map Prod.snd⟩ ↔
      points ≠ [] ∧
        (∀ point ∈ points, point.1.isFinite = true ∧ point.2.isFinite = true) ∧
        (points.map Prod.fst).Pairwise (· < ·) := by
  constructor
  · rintro ⟨⟨nonempty, agesFinite, increasing⟩, _, finite⟩
    refine ⟨by simpa using nonempty, ?_, increasing⟩
    intro point member
    exact ⟨agesFinite _ (List.mem_map_of_mem member), finite _ (List.mem_map_of_mem member)⟩
  · rintro ⟨nonempty, finite, increasing⟩
    refine ⟨⟨by simpa using nonempty, ?_, increasing⟩, by simp, ?_⟩
    · rintro _ member
      rcases List.mem_map.mp member with ⟨point, given, rfl⟩
      exact (finite point given).1
    · rintro _ member
      rcases List.mem_map.mp member with ⟨point, given, rfl⟩
      exact (finite point given).2

theorem ofSheet_eq_ok_iff {data : CurveData} :
    ofSheet path sheet = .ok data ↔
      sheet.header = .ok ["distance", "mult"] ∧
        ∃ points, List.Forall₂ Csv.Row.IsPoint sheet.rows points ∧ points ≠ [] ∧
          (∀ point ∈ points, point.1.isFinite = true ∧ point.2.isFinite = true) ∧
          (points.map Prod.fst).Pairwise (· < ·) ∧
          data = ⟨points.map Prod.fst, points.map Prod.snd⟩ := by
  simp only [ofSheet, bind_eq_ok, DataKind.readSheet_eq_ok_iff, DataKind.reads_taper,
    mapError_eq_ok_iff]
  constructor
  · rintro ⟨points, ⟨header, rows⟩, _, passes, ⟨⟩⟩
    rcases regular_points_iff.mp (check_eq_ok_iff_regular.mp passes) with
      ⟨nonempty, finite, increasing⟩
    exact ⟨header, points, rows, nonempty, finite, increasing, rfl⟩
  · rintro ⟨header, points, rows, nonempty, finite, increasing, rfl⟩
    refine ⟨points, ⟨header, rows⟩, (), ?_, rfl⟩
    exact check_eq_ok_iff_regular.mpr (regular_points_iff.mpr ⟨nonempty, finite, increasing⟩)

theorem ofSheet_eq_error_iff :
    ofSheet path sheet = .error fault ↔ CurveData.Blamed path sheet fault := by
  simp only [ofSheet, bind_eq_error, DataKind.readSheet_eq_error_iff, DataKind.readSheet_eq_ok_iff,
    DataKind.reads_taper, mapError_eq_error_iff]
  constructor
  · rintro (misreads | ⟨points, ⟨header, rows⟩, ⟨_, fails, rfl⟩ | ⟨_, _, ⟨⟩⟩⟩)
    · exact .misread misreads
    · exact .refused header rows fails
  · rintro (misreads | ⟨header, rows, fails⟩)
    · exact Or.inl misreads
    · right
      exact ⟨_, ⟨header, rows⟩, Or.inl ⟨_, fails, rfl⟩⟩

end CurveData

end Loading

/--
A sheet is a trace if and only if it has the header of traces and every row has three fields: two
finite numbers and one of the texts that mark a cycle. The trace has a tick for each row, in order,
with what the row says. If not, the fault is the header; or else the first row that cannot be read,
even if a number in an earlier row is not finite; or else the first row with a number that is not
finite. Rows are numbered from two. A sheet is a taper if and only if it has the header of tapers,
every row can be read, all numbers are finite, and there are ages, each above the one before it;
they and their multipliers are kept in order. If not, the fault is the header, or else the first row
that cannot be read, or else what the check of the taper finds.
-/
theorem ofSheet_whole_or_blamed (path : String) (sheet : Csv.Sheet) :
    ((∃ samples, Trace.ofSheet path sheet = .ok samples) ↔
      sheet.header = .ok ["tps", "load", "cycle_end"] ∧
        ∀ row ∈ sheet.rows, ∃ sample, row.IsSample sample ∧
          sample.throttle.isFinite = true ∧ sample.load.isFinite = true) ∧
      (∀ samples, Trace.ofSheet path sheet = .ok samples ↔
        sheet.header = .ok ["tps", "load", "cycle_end"] ∧
          List.Forall₂ Csv.Row.IsSample sheet.rows samples ∧
          ∀ sample ∈ samples,
            sample.throttle.isFinite = true ∧ sample.load.isFinite = true) ∧
      (∀ fault, Trace.ofSheet path sheet = .error fault ↔ Trace.Blamed path sheet fault) ∧
      (∀ row sample, DataKind.trace.Reads row sample ↔ row.IsSample sample) ∧
      (∀ data, CurveData.ofSheet path sheet = .ok data ↔
        sheet.header = .ok ["distance", "mult"] ∧
          ∃ points, List.Forall₂ Csv.Row.IsPoint sheet.rows points ∧ points ≠ [] ∧
            (∀ point ∈ points, point.1.isFinite = true ∧ point.2.isFinite = true) ∧
            (points.map Prod.fst).Pairwise (· < ·) ∧
            data = ⟨points.map Prod.fst, points.map Prod.snd⟩) ∧
      (∀ fault, CurveData.ofSheet path sheet = .error fault ↔
        CurveData.Blamed path sheet fault) ∧
      ∀ row point, DataKind.taper.Reads row point ↔ row.IsPoint point := by
  refine ⟨Trace.exists_ofSheet_iff, fun _ => Trace.ofSheet_eq_ok_iff,
    fun _ => Trace.ofSheet_eq_error_iff, ?_, fun _ => CurveData.ofSheet_eq_ok_iff,
    fun _ => CurveData.ofSheet_eq_error_iff, ?_⟩
  · intro row sample
    rw [DataKind.reads_trace]
  · intro row point
    rw [DataKind.reads_taper]

/-- The second row is not finite, but the fourth one cannot be read. -/
theorem ofSheet_whole_or_blamed_late_row :
    let sheet := Csv.sheet "tps,load,cycle_end\ninf,1,0\n2,3,true\n4,x,1\n".toUTF8.toList
    let fault : DataFault := .row 4 ⟨3, 4, 36⟩ (.number 1 .malformed)
    Trace.ofSheet "trace.csv" sheet = .error fault ∧ Trace.Blamed "trace.csv" sheet fault := by
  intro sheet fault
  have failed : Trace.ofSheet "trace.csv" sheet = .error fault := by decide +kernel
  rcases ofSheet_whole_or_blamed "trace.csv" sheet with ⟨_, _, blames, _⟩
  exact ⟨failed, (blames fault).mp failed⟩

end TransientFuel
