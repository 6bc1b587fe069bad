import Mathlib.Data.Int.Order.Basic
import Mathlib.Order.Lattice
import ComputeCloudNode.Lib.Mealy
import ComputeCloudNode.Llm.HfUri
import ComputeCloudNode.WorkbenchSession

/-! `security_monitor.py`: the scans of a container's processes and of its CPU usage.
What a scan says is what all scans since the last reset say, although the monitor keeps
only the last samples of them.

Left out: how `docker top` and `docker stats` are called and read. A scan that fails to
read them sees no processes, or a usage of zero. -/
namespace ComputeCloudNode
open WorkbenchSession

structure SecurityMonitor (F : Type) where
  cpuThreshold : F
  sustainedChecks : Int
  cpuHistory : List F := []

namespace SecurityMonitor

/-- `KNOWN_MINER_PROCESSES`. -/
def knownMinerProcesses : List String :=
  ["xmrig", "ethminer", "cgminer", "bfgminer", "minerd", "cpuminer", "ccminer", "t-rex", "trex", "teamredminer",
    "nbminer", "phoenixminer", "lolminer", "gminer", "tminer", "minergate", "nicehashminer", "claymore", "ethashminer",
    "progpowminer", "cryptonight", "stratum", "nsfminer", "wildrig", "xmr-stak", "xmrig-amd", "xmrig-cpu",
    "xmrig-nvidia", "cryptodredge", "mkxminer", "sgminer", "zm", "z-enemy"]

/-- The keywords of `_check_suspicious_processes`. -/
def keywords : List String :=
  ["stratum", "mining", "miner", "pool.", "hashrate", "nicehash", "cryptonight", "ethash", "kawpow", "progpow"]

/-- `SecurityAlert`, with nothing for the usage where it is left at its default. -/
structure Alert (F : Type) where
  alertType : AlertType
  severity : Severity
  details : String := ""
  processNames : List String := []
  cpuPercent : Option F := none

/-- `xs[start:]`. -/
def sliceFrom {α : Type} (start : Int) (xs : List α) : List α :=
  if start < 0 then xs.drop (xs.length + start).toNat else xs.drop start.toNat

variable {F : Type}

/-- The sample is appended, and only the last ones are kept. -/
def record (monitor : SecurityMonitor F) (cpuPercent : F) : SecurityMonitor F :=
  let cpuHistory := monitor.cpuHistory ++ [cpuPercent]
  { monitor with cpuHistory :=
      if monitor.sustainedChecks < cpuHistory.length then sliceFrom (-monitor.sustainedChecks) cpuHistory
      else cpuHistory }

/-- `reset`. -/
def reset (monitor : SecurityMonitor F) : SecurityMonitor F := { monitor with cpuHistory := [] }

/-- `needle in text`. -/
def isIn (needle text : String) : Bool := HfUri.contains text.toList needle

variable (lower : String → String)

/-- `_check_for_miners`; `lower` is `str.lower`. -/
def checkForMiners (processNames : List String) : List String :=
  processNames.filter fun proc => knownMinerProcesses.any fun miner => isIn (lower miner) (lower proc)

/-- `_check_suspicious_processes`. -/
def checkSuspiciousProcesses (processNames : List String) : List String :=
  processNames.foldl (fun found proc =>
    keywords.foldl (fun found kw => if isIn kw (lower proc) ∧ proc ∉ found then found ++ [proc] else found) found) []

variable [PyRuntime F] [LinearOrder F]

omit [PyRuntime F] in
/-- The kept samples are enough, and all reach the threshold. -/
def High (monitor : SecurityMonitor F) : Prop :=
  monitor.sustainedChecks ≤ monitor.cpuHistory.length ∧ monitor.cpuHistory.all fun c => monitor.cpuThreshold ≤ c

omit [PyRuntime F] in
instance (monitor : SecurityMonitor F) : Decidable (High monitor) := inferInstanceAs (Decidable (_ ∧ _))

/-- A list of names as an f-string shows it. -/
def shownNames (F : Type) [PyRuntime F] (names : List String) : String :=
  (Value.list (names.map .str) : Value F).repr

/-- `scan_container`, given the processes and, if it comes to that, the CPU usage. -/
def scanContainer (monitor : SecurityMonitor F) (procNames : List String) (cpuPercent : F) :
    Option (Alert F) × SecurityMonitor F :=
  let minersFound := checkForMiners lower procNames
  if minersFound ≠ [] then
    (some {
      alertType := .miningDetected
      severity := .critical
      details := "Known miner process(es) detected: " ++ shownNames F minersFound
      processNames := minersFound }, monitor)
  else
    let monitor := monitor.record cpuPercent
    if monitor.High then
      (some {
        alertType := .anomalyCpu
        severity := .critical
        details := "Sustained CPU >= " ++ PyRuntime.repr monitor.cpuThreshold ++
          s!"% for {monitor.cpuHistory.length} consecutive checks"
        cpuPercent := some cpuPercent }, monitor)
    else
      let suspicious := checkSuspiciousProcesses lower procNames
      if suspicious ≠ [] then
        (some {
          alertType := .suspiciousProcess
          severity := .warning
          details := "Suspicious process(es): " ++ shownNames F suspicious
          processNames := suspicious }, monitor)
      else (none, monitor)

/-! ### Calls -/

/-- A call of the monitor, with what it finds. -/
inductive Call (F : Type)
  | scan (procNames : List String) (cpuPercent : F)
  | reset

def call : Mealy.Machine (SecurityMonitor F) (Call F) (Option (Alert F))
  | monitor, .scan procNames cpuPercent => scanContainer lower monitor procNames cpuPercent
  | monitor, .reset => (none, monitor.reset)

/-- The monitor after these calls. -/
def after (threshold : F) (sustainedChecks : Int) (calls : List (Call F)) : SecurityMonitor F :=
  (Mealy.run (call lower) { cpuThreshold := threshold, sustainedChecks } calls).2

/-! ### The meaning of a scan -/

/-- A process has a known miner in its name, whatever the case. -/
def NamesMiner (procNames : List String) : Prop :=
  ∃ proc ∈ procNames, ∃ miner ∈ knownMinerProcesses, (lower miner).toList <:+: (lower proc).toList

instance (procNames : List String) : Decidable (NamesMiner lower procNames) :=
  inferInstanceAs (Decidable (∃ proc ∈ procNames, _))

def NamesSuspicious (procNames : List String) : Prop :=
  ∃ proc ∈ procNames, ∃ kw ∈ keywords, kw.toList <:+: (lower proc).toList

omit [PyRuntime F] in
/-- There are enough samples, and the last ones all reach the threshold. -/
def Sustained (threshold : F) (sustainedChecks : Int) (samples : List F) : Prop :=
  sustainedChecks ≤ samples.length ∧ ∀ c ∈ samples.drop (samples.length - sustainedChecks.toNat), threshold ≤ c

omit [PyRuntime F] in
instance (threshold : F) (sustainedChecks : Int) (samples : List F) :
    Decidable (Sustained threshold sustainedChecks samples) :=
  inferInstanceAs (Decidable (_ ∧ _))

/-- What a call adds to the samples, of which none is ever dropped but by a reset. -/
def sampled (samples : List F) : Call F → List F
  | .scan procNames cpuPercent => if NamesMiner lower procNames then samples else samples ++ [cpuPercent]
  | .reset => []

/-- The samples of all scans without a miner since the last reset. -/
def samples (calls : List (Call F)) : List F := calls.foldl (sampled lower) []

variable {lower} {monitor : SecurityMonitor F} {procNames : List String} {cpuPercent threshold : F} {n : Int}
  {all : List F} {calls : List (Call F)}

/-! ### Names -/

theorem isIn_iff {needle text : String} : isIn needle text ↔ needle.toList <:+: text.toList :=
  HfUri.contains_iff needle

theorem checkForMiners_iff : checkForMiners lower procNames ≠ [] ↔ NamesMiner lower procNames := by
  simp only [checkForMiners, Ne, List.filter_eq_nil_iff, List.any_eq_true, isIn_iff, NamesMiner]
  push Not
  rfl

/-- The keywords are tried one after the other, and a process is listed once. -/
theorem mem_keywords_foldl {proc name : String} {found kws : List String} :
    name ∈ kws.foldl (fun found kw => if isIn kw (lower proc) ∧ proc ∉ found then found ++ [proc] else found) found ↔
      name ∈ found ∨ name = proc ∧ ∃ kw ∈ kws, kw.toList <:+: (lower proc).toList := by
  induction kws generalizing found with
  | nil => simp
  | cons kw kws ih =>
    rw [List.foldl_cons, ih]
    by_cases listed : isIn kw (lower proc) ∧ proc ∉ found
    · have here := isIn_iff.mp listed.1
      rw [if_pos listed, List.mem_append, List.mem_singleton]
      grind
    · by_cases here : isIn kw (lower proc)
      · have already : proc ∈ found := by
          by_contra missing
          exact listed ⟨here, missing⟩
        simp only [listed, if_false, List.mem_cons, exists_eq_or_imp]
        constructor
        · rintro (old | ⟨rfl, later⟩)
          · exact .inl old
          · exact .inl already
        · rintro (old | ⟨rfl, _⟩)
          · exact .inl old
          · exact .inl already
      · rw [isIn_iff] at here
        simp [listed, here]

theorem checkSuspiciousProcesses_iff : checkSuspiciousProcesses lower procNames ≠ [] ↔ NamesSuspicious lower procNames := by
  have member : ∀ {found : List String} {procs : List String} {name : String},
      name ∈ procs.foldl (fun found proc => keywords.foldl
        (fun found kw => if isIn kw (lower proc) ∧ proc ∉ found then found ++ [proc] else found) found) found ↔
      name ∈ found ∨ name ∈ procs ∧ ∃ kw ∈ keywords, kw.toList <:+: (lower name).toList := by
    intro found procs name
    induction procs generalizing found with
    | nil => simp
    | cons proc procs ih =>
      rw [List.foldl_cons, ih, mem_keywords_foldl, List.mem_cons]
      grind
  constructor
  · intro some_
    obtain ⟨proc, listed⟩ := List.exists_mem_of_ne_nil _ some_
    exact ⟨proc, (member.mp listed).resolve_left List.not_mem_nil⟩
  · rintro ⟨proc, named⟩
    exact List.ne_nil_of_mem (member.mpr (.inr named))

/-! ### The window -/

omit [PyRuntime F] [LinearOrder F] in
/-- The last samples of a window with one more are the last ones of all. -/
theorem record_window (positive : 1 ≤ monitor.sustainedChecks)
    (window : monitor.cpuHistory = all.drop (all.length - monitor.sustainedChecks.toNat)) (cpuPercent : F) :
    (monitor.record cpuPercent).cpuHistory =
      (all ++ [cpuPercent]).drop ((all ++ [cpuPercent]).length - monitor.sustainedChecks.toNat) := by
  obtain ⟨k, counted⟩ := Int.eq_ofNat_of_zero_le (Int.le_trans (by decide) positive)
  have length : monitor.cpuHistory.length = all.length - (all.length - k) := by
    rw [window, counted, Int.toNat_natCast, List.length_drop]
  simp only [record, counted, Int.toNat_natCast, List.length_append, List.length_singleton, length]
  rw [window, counted, Int.toNat_natCast]
  by_cases full : k ≤ all.length
  · -- The window is full, so its first sample leaves.
    rw [if_pos (by omega), sliceFrom, if_pos (by omega), List.length_append, List.length_singleton, List.length_drop]
    have one : (((all.length - (all.length - k) + 1 : Nat) : Int) + -(k : Int)).toNat = 1 := by
      omega
    rw [one, ← List.drop_append_of_le_length (Nat.sub_le _ _), List.drop_drop]
    congr 1
    omega
  · rw [if_neg (by omega)]
    have none_ : all.length - k = 0 ∧ all.length + 1 - k = 0 := by
      omega
    rw [none_.1, none_.2, List.drop_zero, List.drop_zero]

/-- The monitor keeps its settings, and the last of all samples. -/
structure Window (threshold : F) (n : Int) (all : List F) (monitor : SecurityMonitor F) : Prop where
  cpuThreshold : monitor.cpuThreshold = threshold
  sustainedChecks : monitor.sustainedChecks = n
  cpuHistory : monitor.cpuHistory = all.drop (all.length - n.toNat)

omit [PyRuntime F] [LinearOrder F] in
theorem Window.record (window : Window threshold n all monitor) (positive : 1 ≤ n) (cpuPercent : F) :
    Window threshold n (all ++ [cpuPercent]) (monitor.record cpuPercent) := by
  obtain ⟨rfl, rfl, kept⟩ := window
  exact ⟨rfl, rfl, record_window positive kept cpuPercent⟩

/-! ### A scan -/

theorem scan_miner (miner : NamesMiner lower procNames) :
    (scanContainer lower monitor procNames cpuPercent).1.map Alert.alertType = some .miningDetected ∧
      (scanContainer lower monitor procNames cpuPercent).2 = monitor := by
  rw [scanContainer, if_pos (checkForMiners_iff.mpr miner)]
  exact ⟨rfl, rfl⟩

theorem scan_high (clean : ¬ NamesMiner lower procNames) (high : High (monitor.record cpuPercent)) :
    (scanContainer lower monitor procNames cpuPercent).1.map Alert.alertType = some .anomalyCpu ∧
      (scanContainer lower monitor procNames cpuPercent).2 = monitor.record cpuPercent := by
  simp only [scanContainer, if_neg (mt checkForMiners_iff.mp clean), if_pos high]
  exact ⟨rfl, trivial⟩

theorem scan_suspicious (clean : ¬ NamesMiner lower procNames) (low : ¬ High (monitor.record cpuPercent))
    (suspicious : NamesSuspicious lower procNames) :
    (scanContainer lower monitor procNames cpuPercent).1.map Alert.alertType = some .suspiciousProcess ∧
      (scanContainer lower monitor procNames cpuPercent).2 = monitor.record cpuPercent := by
  simp only [scanContainer, if_neg (mt checkForMiners_iff.mp clean), if_neg low,
    if_pos (checkSuspiciousProcesses_iff.mpr suspicious)]
  exact ⟨rfl, trivial⟩

theorem scan_quiet (clean : ¬ NamesMiner lower procNames) (low : ¬ High (monitor.record cpuPercent))
    (unsuspicious : ¬ NamesSuspicious lower procNames) :
    (scanContainer lower monitor procNames cpuPercent).1.map Alert.alertType = none ∧
      (scanContainer lower monitor procNames cpuPercent).2 = monitor.record cpuPercent := by
  simp only [scanContainer, if_neg (mt checkForMiners_iff.mp clean), if_neg low,
    if_neg (mt checkSuspiciousProcesses_iff.mp unsuspicious)]
  exact ⟨rfl, trivial⟩

theorem scan_clean (clean : ¬ NamesMiner lower procNames) :
    (scanContainer lower monitor procNames cpuPercent).2 = monitor.record cpuPercent := by
  by_cases high : High (monitor.record cpuPercent)
  · exact (scan_high clean high).2
  · by_cases suspicious : NamesSuspicious lower procNames
    · exact (scan_suspicious clean high suspicious).2
    · exact (scan_quiet clean high suspicious).2

/-! ### All calls -/

theorem scanContainer_window (window : Window threshold n all monitor) (positive : 1 ≤ n) :
    Window threshold n (sampled lower all (.scan procNames cpuPercent))
      (scanContainer lower monitor procNames cpuPercent).2 := by
  by_cases miner : NamesMiner lower procNames
  · rw [(scan_miner miner).2]
    simpa only [sampled, if_pos miner] using window
  · rw [scan_clean miner]
    simpa only [sampled, if_neg miner] using window.record positive cpuPercent

/-- After all calls: induction on them. -/
theorem after_window (positive : 1 ≤ n) (calls : List (Call F)) :
    Window threshold n (samples lower calls) (after lower threshold n calls) := by
  induction calls using List.reverseRecOn with
  | nil => exact ⟨rfl, rfl, List.drop_nil.symm⟩
  | append_singleton calls last ih =>
    rw [samples, List.foldl_append, ← samples, after, Mealy.run_append, ← after]
    cases last with
    | scan procNames cpuPercent => exact scanContainer_window ih positive
    | reset => exact ⟨ih.cpuThreshold, ih.sustainedChecks, List.drop_nil.symm⟩

omit [PyRuntime F] in
theorem Window.high_iff (window : Window threshold n all monitor) (positive : 1 ≤ n) :
    High monitor ↔ Sustained threshold n all := by
  rw [High, window.cpuThreshold, window.sustainedChecks, window.cpuHistory, Sustained, List.length_drop]
  simp only [List.all_eq_true, decide_eq_true_eq]
  apply and_congr _ Iff.rfl
  omega

omit [PyRuntime F] [LinearOrder F] in
theorem Window.bound (window : Window threshold n all monitor) (positive : 1 ≤ n) : monitor.cpuHistory.length ≤ n := by
  rw [window.cpuHistory, List.length_drop]
  omega

variable (lower threshold) in
/-- What a scan says after any calls is what all samples since the last reset say, and
no more samples are kept than are looked at. -/
theorem scan_meaning (positive : 1 ≤ n) (calls : List (Call F)) (procNames : List String) (cpuPercent : F) :
    let scan := scanContainer lower (after lower threshold n calls) procNames cpuPercent
    let sustained := Sustained threshold n (samples lower calls ++ [cpuPercent])
    (scan.1.map Alert.alertType = some .miningDetected ↔ NamesMiner lower procNames) ∧
      (scan.1.map Alert.alertType = some .anomalyCpu ↔ ¬ NamesMiner lower procNames ∧ sustained) ∧
      (scan.1.map Alert.alertType = some .suspiciousProcess ↔
        ¬ NamesMiner lower procNames ∧ ¬ sustained ∧ NamesSuspicious lower procNames) ∧
      (after lower threshold n calls).cpuHistory.length ≤ n ∧ scan.2.cpuHistory.length ≤ n := by
  have window : Window threshold n (samples lower calls) (after lower threshold n calls) := after_window positive calls
  have high := (window.record positive cpuPercent).high_iff positive
  have scanned : Window threshold n _ (scanContainer lower (after lower threshold n calls) procNames cpuPercent).2 :=
    scanContainer_window window positive
  dsimp only
  rw [← high]
  refine ⟨?_, ?_, ?_, window.bound positive, scanned.bound positive⟩
  all_goals
    by_cases miner : NamesMiner lower procNames
    · simp [(scan_miner miner).1, miner]
    · by_cases above : High ((after lower threshold n calls).record cpuPercent)
      · simp [(scan_high miner above).1, miner, above]
      · by_cases suspicious : NamesSuspicious lower procNames
        · simp [(scan_suspicious miner above suspicious).1, miner, above, suspicious]
        · simp [(scan_quiet miner above suspicious).1, miner, above, suspicious]

/-- Two high samples in a row: the scan between them found a miner and took none. -/
theorem scan_meaning_sustained :
    (scanContainer String.toLower (after String.toLower (95 : Int) 2 [.scan ["bash"] 99, .scan ["XMRig"] 0])
      ["python"] 97).1.map Alert.alertType = some .anomalyCpu := by
  have positive : (1 : Int) ≤ 2 := by
    decide
  apply (scan_meaning String.toLower (95 : Int) positive [.scan ["bash"] 99, .scan ["XMRig"] 0] ["python"] 97).2.1.mpr
  decide +kernel

end SecurityMonitor

end ComputeCloudNode
