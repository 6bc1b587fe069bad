import ComputeCloudNode.Lib.TextLines
import ComputeCloudNode.Llm.HfUriRoundTrip
import ComputeCloudNode.LocalExecutor
import ComputeCloudNode.SecurityMonitor

/-! How a scan reads what Docker says of a container. `docker top` writes a table with a row
for each process; what is read from it are the names of these processes, so that a miner
among them is found, and it is found before the CPU usage is asked for.

The text of the table is the one after universal newlines. -/
namespace ComputeCloudNode.ContainerScans
open Uri TextLines SecurityMonitor LocalExecutor

/-- How a call of the Docker CLI ends. -/
inductive Ending
  | exited (returncode : Int) (stdout : List Char)
  /-- A timeout is an exception too. -/
  | raised

/-- `line.split(None, 1)`. -/
def splitOnce (line : List Char) : List (List Char) :=
  let line := line.dropWhile isSpace
  let rest := (line.dropWhile fun c => !isSpace c).dropWhile isSpace
  if line = [] then []
  else if rest = [] then [line.takeWhile fun c => !isSpace c]
  else [line.takeWhile fun c => !isSpace c, rest]

/-- The name in a row, if it has two parts. -/
def processName (line : List Char) : Option (List Char) :=
  match splitOnce line with
  | _ :: name :: _ => some (strip name)
  | _ => none

/-- `_get_container_processes`. -/
def getContainerProcesses : Ending → List String
  | .exited returncode stdout =>
    if returncode ≠ 0 then []
    else
      let lines := (strip stdout).splitOn '\n'
      if lines.length < 2 then [] else (lines.tail.filterMap processName).map String.ofList
  | .raised => []

/-- `_get_container_cpu`. -/
def getContainerCpu {F : Type} [PyFloat F] (zero : F) : Ending → F
  | .exited returncode stdout =>
    if returncode ≠ 0 then zero
    else
      let cpuStr := (strip stdout).rdropWhile (· = '%')
      if cpuStr ≠ [] then (PyFloat.parse (String.ofList cpuStr)).getD zero else zero
  | .raised => zero

/-! ### The table of `docker top` -/

/-- A row of the table, below `PID` and `COMMAND`. -/
structure Row where
  pid : List Char
  gap : List Char
  comm : List Char
  pid_word : pid ≠ [] ∧ ∀ c ∈ pid, ¬ isSpace c
  gap_blank : gap ≠ [] ∧ ∀ c ∈ gap, isSpace c ∧ c ≠ '\n'
  comm_line : '\n' ∉ comm

def Row.text (row : Row) : List Char := row.pid ++ row.gap ++ row.comm

/-- The header of a table, which does not begin with a blank. -/
structure Header where
  first : Char
  rest : List Char
  dark : ¬ isSpace first
  line : '\n' ∉ rest

/-- What `docker top` writes. -/
def table (header : Header) (rows : List Row) : List Char :=
  records '\n' ((header.first :: header.rest) :: rows.map Row.text)

/-! ### Reading a row -/

variable {rows : List Row} {header : Header} {word gap : List Char}

theorem dropWhile_word (dark : ∀ c ∈ word, ¬ isSpace c) (blank : gap ≠ [] → ∀ c ∈ gap.head?, isSpace c) :
    (word ++ gap).dropWhile (fun c => !isSpace c) = gap := by
  rw [List.dropWhile_append_of_pos (by simpa using dark)]
  cases gap with
  | nil => rfl
  | cons c gap =>
    have first : isSpace c := blank (List.cons_ne_nil c gap) c rfl
    rw [List.dropWhile_cons_of_neg (by simp [first])]

theorem dropWhile_dark (some_ : word ≠ []) (dark : ∀ c ∈ word, ¬ isSpace c) (rest : List Char) :
    (word ++ rest).dropWhile isSpace = word ++ rest := by
  cases word with
  | nil => exact absurd rfl some_
  | cons c word => exact List.dropWhile_cons_of_neg (dark c List.mem_cons_self)

/-- A name has nothing but blanks exactly if nothing is left of it. -/
theorem dropWhile_eq_nil_iff_strip (name : List Char) : name.dropWhile isSpace = [] ↔ strip name = [] := by
  rw [strip, List.rdropWhile_eq_nil_iff, List.dropWhile_eq_nil_iff]
  constructor
  · intro blank c member
    exact blank c ((List.dropWhile_sublist _).subset member)
  · intro blank
    by_contra some_
    have left : name.dropWhile isSpace ≠ [] := by
      rw [Ne, List.dropWhile_eq_nil_iff]
      exact some_
    have dark := List.head_dropWhile_not isSpace left
    rw [blank _ (List.head_mem left)] at dark
    cases dark

theorem processName_row (some_ : word ≠ []) (dark : ∀ c ∈ word, ¬ isSpace c) (parted : gap ≠ [])
    (blank : ∀ c ∈ gap, isSpace c) (name : List Char) :
    processName (word ++ gap ++ name) = if strip name = [] then none else some (strip name) := by
  have after : (word ++ gap ++ name).dropWhile isSpace = word ++ (gap ++ name) := by
    rw [List.append_assoc, dropWhile_dark some_ dark]
  have rest : (word ++ (gap ++ name)).dropWhile (fun c => !isSpace c) = gap ++ name := by
    apply dropWhile_word dark
    intro _ c first
    rw [List.head?_append_of_ne_nil _ parted] at first
    exact blank c (List.mem_of_mem_head? first)
  have found : (gap ++ name).dropWhile isSpace = name.dropWhile isSpace := List.dropWhile_append_of_pos blank
  have nonempty : word ++ (gap ++ name) ≠ [] := List.append_ne_nil_of_left_ne_nil some_ _
  simp only [processName, splitOnce, after, rest, found, if_neg nonempty, dropWhile_eq_nil_iff_strip]
  by_cases none_ : strip name = []
  · rw [if_pos none_, if_pos none_]
  · rw [if_neg none_, if_neg none_]
    change some (strip (name.dropWhile isSpace)) = some (strip name)
    rw [strip, strip, List.dropWhile_idempotent]

theorem processName_word (some_ : word ≠ []) (dark : ∀ c ∈ word, ¬ isSpace c) : processName word = none := by
  have after : word.dropWhile isSpace = word := by
    rw [← List.append_nil word, dropWhile_dark some_ dark]
  have rest : word.dropWhile (fun c => !isSpace c) = [] := by
    rw [List.dropWhile_eq_nil_iff]
    simpa using dark
  simp only [processName, splitOnce, after, rest, if_neg some_, List.dropWhile_nil, if_true]

theorem rdropWhile_blank (blank : ∀ c ∈ gap, isSpace c) (word : List Char) :
    (word ++ gap).rdropWhile isSpace = word.rdropWhile isSpace := by
  rw [List.rdropWhile, List.reverse_append, List.dropWhile_append_of_pos (by simpa using blank), List.rdropWhile]

theorem strip_rdropWhile (name : List Char) : strip (name.rdropWhile isSpace) = strip name := by
  by_cases blank : ∀ c ∈ name, isSpace c
  · have none_ : name.dropWhile isSpace = [] := List.dropWhile_eq_nil_iff.mpr blank
    rw [List.rdropWhile_eq_nil_iff.mpr blank, strip, strip, none_, List.dropWhile_nil]
  · push Not at blank
    obtain ⟨c, member, shown⟩ := blank
    obtain ⟨before, after, rfl⟩ := List.append_of_mem member
    have front : ∀ rest, (before ++ c :: rest).dropWhile isSpace = before.dropWhile isSpace ++ c :: rest := by
      intro rest
      rw [List.dropWhile_append, List.dropWhile_cons_of_neg shown]
      split
      next empty => rw [List.isEmpty_iff.mp empty, List.nil_append]
      next => rfl
    rw [HfUri.rdropWhile_append_cons shown, strip, strip, front, front, HfUri.rdropWhile_append_cons shown,
      HfUri.rdropWhile_append_cons shown, List.rdropWhile_idempotent]

/-- The name in a row. -/
def Row.named (row : Row) : Option (List Char) := if strip row.comm = [] then none else some (strip row.comm)

theorem Row.processName (row : Row) : ContainerScans.processName row.text = row.named :=
  processName_row row.pid_word.1 row.pid_word.2 row.gap_blank.1 (fun c member => (row.gap_blank.2 c member).1) row.comm

/-- The blanks at the end of a row do not matter. -/
theorem Row.processName_stripped (row : Row) : ContainerScans.processName (row.text.rdropWhile isSpace) = row.named := by
  obtain ⟨some_, dark⟩ := row.pid_word
  have blank := fun c member => (row.gap_blank.2 c member).1
  by_cases none_ : ∀ c ∈ row.comm, isSpace c
  · have stripped : row.text.rdropWhile isSpace = row.pid := by
      rw [Row.text, rdropWhile_blank none_, rdropWhile_blank blank, List.rdropWhile_eq_self_iff]
      exact fun nonempty => dark _ (List.getLast_mem nonempty)
    have empty : strip row.comm = [] := by
      rw [← dropWhile_eq_nil_iff_strip, List.dropWhile_eq_nil_iff]
      exact none_
    rw [stripped, processName_word some_ dark, Row.named, if_pos empty]
  · push Not at none_
    obtain ⟨c, member, shown⟩ := none_
    obtain ⟨before, after, split⟩ := List.append_of_mem member
    have stripped : row.text.rdropWhile isSpace = row.pid ++ row.gap ++ row.comm.rdropWhile isSpace := by
      rw [Row.text, split, ← List.append_assoc, HfUri.rdropWhile_append_cons shown, HfUri.rdropWhile_append_cons shown,
        ← List.append_assoc]
    rw [stripped, processName_row some_ dark row.gap_blank.1 blank, strip_rdropWhile, Row.named]

/-! ### Reading the table -/

theorem splitOn_records {lines : List (List Char)} {last : List Char} (plain : ∀ line ∈ lines, '\n' ∉ line)
    (ends : '\n' ∉ last) : (records '\n' lines ++ last).splitOn '\n' = lines ++ [last] := by
  induction lines with
  | nil => exact List.splitOn_eq_singleton ends
  | cons line lines ih =>
    obtain ⟨here, later⟩ := List.forall_mem_cons.mp plain
    have front : records '\n' (line :: lines) ++ last = line ++ '\n' :: (records '\n' lines ++ last) := by
      simp [records]
    rw [front, List.splitOn_append_cons_self_of_not_mem here, ih later, List.cons_append]

theorem Row.line (row : Row) : '\n' ∉ row.text := by
  rw [Row.text, List.mem_append, List.mem_append]
  rintro ((inPid | inGap) | inComm)
  · exact row.pid_word.2 _ inPid (by decide)
  · exact (row.gap_blank.2 _ inGap).2 rfl
  · exact row.comm_line inComm

/-- A line that begins with something, as all lines of the table do. -/
theorem strip_table {before : List (List Char)} {c : Char} {rest : List Char} (shown : ¬ isSpace c)
    (starts : ∀ line ∈ before.head?, ∃ d tail, line = d :: tail ∧ ¬ isSpace d) :
    strip (records '\n' (before ++ [c :: rest])) = records '\n' before ++ c :: rest.rdropWhile isSpace := by
  have text : records '\n' (before ++ [c :: rest]) = records '\n' before ++ c :: (rest ++ ['\n']) := by
    simp [records]
  have kept : (records '\n' before ++ c :: (rest ++ ['\n'])).dropWhile isSpace =
      records '\n' before ++ c :: (rest ++ ['\n']) := by
    cases before with
    | nil => exact List.dropWhile_cons_of_neg shown
    | cons line before =>
      obtain ⟨d, tail, rfl, dark⟩ := starts line rfl
      exact List.dropWhile_cons_of_neg dark
  rw [text, strip, kept, HfUri.rdropWhile_append_cons shown, List.rdropWhile_concat_pos _ _ _ (by decide)]

theorem Header.plain (header : Header) : '\n' ∉ header.first :: header.rest := by
  intro member
  rcases List.mem_cons.mp member with same | later
  · exact header.dark (same ▸ by decide)
  · exact header.line later

theorem Row.first (row : Row) : ∃ c rest, row.text = c :: rest ∧ ¬ isSpace c := by
  obtain ⟨some_, dark⟩ := row.pid_word
  obtain ⟨c, rest, spelled⟩ := List.exists_cons_of_ne_nil some_
  refine ⟨c, rest ++ row.gap ++ row.comm, ?_, dark c ?_⟩
  · rw [Row.text, spelled]
    rfl
  · rw [spelled]
    exact List.mem_cons_self

/-- The last row is stripped. -/
theorem lines_table (header : Header) (rows : List Row) (last : Row) :
    (strip (table header (rows ++ [last]))).splitOn '\n' =
      ((header.first :: header.rest) :: rows.map Row.text) ++ [last.text.rdropWhile isSpace] := by
  obtain ⟨c, rest, spelled, shown⟩ := last.first
  have text : table header (rows ++ [last]) =
      records '\n' (((header.first :: header.rest) :: rows.map Row.text) ++ [c :: rest]) := by
    rw [table, List.map_append, List.map_singleton, spelled, List.cons_append]
  have stripped : last.text.rdropWhile isSpace = c :: rest.rdropWhile isSpace := by
    rw [spelled]
    exact HfUri.rdropWhile_append_cons shown [] rest
  have starts : ∀ line ∈ ((header.first :: header.rest) :: rows.map Row.text).head?,
      ∃ d tail, line = d :: tail ∧ ¬ isSpace d := by
    rintro line ⟨⟩
    exact ⟨header.first, header.rest, rfl, header.dark⟩
  have plain : ∀ line ∈ (header.first :: header.rest) :: rows.map Row.text, '\n' ∉ line := by
    intro line member
    rcases List.mem_cons.mp member with rfl | later
    · exact header.plain
    · obtain ⟨row, _, rfl⟩ := List.mem_map.mp later
      exact row.line
  rw [text, strip_table shown starts, ← stripped]
  apply splitOn_records plain
  exact fun member => last.line ((List.rdropWhile_prefix isSpace last.text).subset member)

/-- Every process that has a name is read from the table, in order, and nothing else. -/
theorem getContainerProcesses_table (header : Header) (rows : List Row) :
    getContainerProcesses (.exited 0 (table header rows)) = (rows.filterMap Row.named).map String.ofList := by
  rcases List.eq_nil_or_concat rows with rfl | ⟨rows, last, rfl⟩
  · have stripped : strip (table header []) = header.first :: header.rest.rdropWhile isSpace :=
      @strip_table [] header.first header.rest header.dark nofun
    have plain : '\n' ∉ header.first :: header.rest.rdropWhile isSpace := by
      intro member
      apply header.plain
      rcases List.mem_cons.mp member with same | later
      · exact same ▸ List.mem_cons_self
      · exact List.mem_cons_of_mem _ ((List.rdropWhile_prefix isSpace header.rest).subset later)
    simp only [getContainerProcesses, stripped, List.splitOn_eq_singleton plain]
    rfl
  · have rest : (rows.map Row.text).filterMap processName = rows.filterMap Row.named := by
      rw [List.filterMap_map]
      exact congrArg (List.filterMap · rows) (funext Row.processName)
    have many : ¬ (((header.first :: header.rest) :: rows.map Row.text) ++ [last.text.rdropWhile isSpace]).length < 2 := by
      simp
    rw [List.concat_eq_append, getContainerProcesses, if_neg (by decide), lines_table]
    dsimp only
    rw [if_neg many, List.cons_append, List.tail_cons, List.filterMap_append, List.filterMap_append, rest]
    simp only [List.filterMap_cons, List.filterMap_nil, Row.processName_stripped]

/-! ### A scan -/

variable {F : Type} [PyRuntime F] [PyFloat F] [LinearOrder F] {lower : String → String} {monitor : SecurityMonitor F}
  {zero : F} {top stats : Ending}

variable (lower zero) in
/-- `scan_container`, by what the Docker CLI answers. -/
def scan (monitor : SecurityMonitor F) (top stats : Ending) : Option (Alert F) × SecurityMonitor F :=
  scanContainer lower monitor (getContainerProcesses top) (getContainerCpu zero stats)

omit [PyFloat F] in
/-- A scan that finds no miner says something else, or nothing. -/
theorem scan_other {procNames : List String} {cpuPercent : F} (clean : ¬ NamesMiner lower procNames) :
    (scanContainer lower monitor procNames cpuPercent).1.map Alert.alertType ≠ some .miningDetected := by
  by_cases high : High (monitor.record cpuPercent)
  · rw [(scan_high clean high).1]
    decide
  · by_cases suspicious : NamesSuspicious lower procNames
    · rw [(scan_suspicious clean high suspicious).1]
      decide
    · rw [(scan_quiet clean high suspicious).1]
      decide

/-- The names of the processes in a table. -/
def listed (rows : List Row) : List String := (rows.filterMap Row.named).map String.ofList

variable (monitor zero stats) in
/-- The processes that have a name are read from the table. Whatever the samples of the CPU
usage say, a scan reports mining exactly if the table has a process with a miner in its
name, and then it reports all such processes and takes no sample. If `docker top` fails, a
scan sees no processes. -/
theorem scan_reports_miners_iff (header : Header) (rows : List Row) :
    let report := scan lower zero monitor (.exited 0 (table header rows)) stats
    getContainerProcesses (.exited 0 (table header rows)) = (rows.filterMap Row.named).map String.ofList ∧
      (report.1.map Alert.alertType = some .miningDetected ↔
        ∃ row ∈ rows, ∃ name, row.named = some name ∧
          ∃ miner ∈ knownMinerProcesses, (lower miner).toList <:+: (lower (String.ofList name)).toList) ∧
      (report.1.map Alert.alertType = some .miningDetected →
        report.1.map Alert.processNames = some (checkForMiners lower (listed rows)) ∧ report.2 = monitor) ∧
      ∀ failed, (failed = .raised ∨ ∃ returncode stdout, failed = .exited returncode stdout ∧ returncode ≠ 0) →
        scan lower zero monitor failed stats = scanContainer lower monitor [] (getContainerCpu zero stats) := by
  have read : getContainerProcesses (.exited 0 (table header rows)) = listed rows := getContainerProcesses_table header rows
  have names : NamesMiner lower (listed rows) ↔ ∃ row ∈ rows, ∃ name, row.named = some name ∧
      ∃ miner ∈ knownMinerProcesses, (lower miner).toList <:+: (lower (String.ofList name)).toList := by
    constructor
    · rintro ⟨proc, member, found⟩
      obtain ⟨name, inside, rfl⟩ := List.mem_map.mp member
      obtain ⟨row, inRows, named⟩ := List.mem_filterMap.mp inside
      exact ⟨row, inRows, name, named, found⟩
    · rintro ⟨row, inRows, name, named, found⟩
      exact ⟨_, List.mem_map_of_mem (List.mem_filterMap.mpr ⟨row, inRows, named⟩), found⟩
  dsimp only
  unfold scan
  rw [read, ← names]
  refine ⟨rfl, ⟨fun mining => ?_, fun miner => (scan_miner miner).1⟩, fun mining => ?_, ?_⟩
  · by_contra clean
    exact scan_other clean mining
  · have miner : NamesMiner lower (listed rows) := by
      by_contra clean
      exact scan_other clean mining
    refine ⟨?_, (scan_miner miner).2⟩
    rw [scanContainer, if_pos (checkForMiners_iff.mpr miner)]
    rfl
  · rintro failed (rfl | ⟨returncode, stdout, rfl, nonzero⟩)
    · rfl
    · rw [getContainerProcesses, if_pos nonzero]

end ComputeCloudNode.ContainerScans
