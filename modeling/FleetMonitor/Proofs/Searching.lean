import FleetMonitor.Proofs.Lowering

/-!
# Searches in two stores

Both stores seek the terms of a search in the lower case of a line.  A store
in memory lowers lines and terms by the full rules.  A store in a file lowers
only the ASCII letters of lines, and it keeps and compares times in whole
milliseconds.  So they count the same lines since a whole millisecond where
the full rules do not touch the terms, and a line that has the terms letter
for letter is counted where it is lowered as the terms are.
-/

set_option autoImplicit false

namespace FleetMonitor

/-! ## Terms in lines -/

namespace LogSearch

def StandsIn (search text : String) : Prop :=
  ∀ term ∈ Text.words search, term.toList <:+: text.toList

instance (search text : String) : Decidable (StandsIn search text) :=
  inferInstanceAs (Decidable (∀ term ∈ Text.words search, term.toList <:+: text.toList))

theorem occurs_iff (term cs : List Char) : occurs term cs = true ↔ term <:+: cs := by
  induction cs with
  | nil => simp [occurs]
  | cons c rest ih =>
    rw [occurs, Bool.or_eq_true, ih, List.isPrefixOf_iff_prefix, List.infix_cons_iff]

theorem holds_iff (fold : String → String) (search line : String) :
    holds fold search line = true ↔
      ∀ term ∈ Text.words search, (Text.lower term).toList <:+: (fold line).toList := by
  simp [holds, terms, occurs_iff]

theorem holdsFully_of_standsIn {search text : String} (stands : StandsIn search text)
    (inPlace : ∀ term ∈ Text.words search,
      (∀ c ∈ term.toList, Text.isCapitalSigma c = false) ∨ term ∈ Text.words text) :
    holdsFully search text = true :=
  (holds_iff Text.lower search text).mpr fun term isTerm =>
    Text.lower_infix (stands term isTerm) (inPlace term isTerm)

theorem holdsInAscii_of_standsIn {search text : String} (stands : StandsIn search text)
    (plain : ∀ term ∈ Text.words search, ∀ c ∈ term.toList, Text.IsPlain c) :
    holdsInAscii search text = true := by
  refine (holds_iff Text.lowerAscii search text).mpr fun term isTerm => ?_
  rw [Text.lower_of_plain (plain term isTerm)]
  simpa [Text.lowerAscii] using (stands term isTerm).map Char.toLower

/-- Lowering a line beyond ASCII does not touch a search: a character that is
not plain is no letter of a term, and does not become one. -/
def Untouched (search text : String) : Prop :=
  ∀ c ∈ text.toList, Text.IsPlain c ∨
    ∀ term ∈ terms search, ∀ d ∈ c :: Text.lowersOf c, d ∉ term.toList

theorem untouched_iff (search text : String) :
    (text.toList.all fun c => decide (Text.IsPlain c) || (terms search).all fun term =>
      (c :: Text.lowersOf c).all fun d => !term.toList.contains d) = true ↔
        Untouched search text := by
  simp only [Untouched, List.all_eq_true, Bool.or_eq_true, decide_eq_true_eq, Bool.not_eq_true',
    List.contains_eq_mem, decide_eq_false_iff_not]

instance (search text : String) : Decidable (Untouched search text) :=
  decidable_of_iff _ (untouched_iff search text)

theorem holdsInAscii_of_untouched {search text : String} (untouched : Untouched search text) :
    holdsInAscii search text = true ↔ holdsFully search text = true := by
  rw [holdsInAscii, holdsFully, holds_iff, holds_iff]
  refine forall₂_congr fun term isTerm => ?_
  have alike : Text.AlikeFor (Text.lower term).toList (Text.lower text).toList
      (Text.lowerAscii text).toList := by
    rw [Text.lower.eq_def text, Text.lowerAscii, String.toList_ofList, String.toList_ofList]
    exact Text.alikeFor_lower text.toList [] fun c inText =>
      (untouched c inText).imp_right fun apart =>
        apart (Text.lower term) (List.mem_map_of_mem isTerm)
  exact alike.infix_iff.symm

end LogSearch

/-! ## Lines in stores -/

def LogLine.floored (line : LogLine) : LogLine :=
  { line with created := line.created.floorMilli }

theorem LogLine.floored_belongs (line : LogLine) (clusterId : Int) (hostname : String)
    (since : Instant) :
    line.floored.belongs clusterId hostname since.floorMilli =
      line.belongs clusterId hostname since.floorMilli := by
  simp only [belongs, floored, Instant.floorMilli_le_floorMilli_iff]

theorem LogLine.belongs_floorMilli {line : LogLine} {clusterId : Int} {hostname : String}
    {since : Instant} (belongs : line.belongs clusterId hostname since = true) :
    line.belongs clusterId hostname since.floorMilli = true := by
  simp only [LogLine.belongs, Bool.and_eq_true, decide_eq_true_eq] at belongs ⊢
  exact ⟨belongs.1, Int.le_trans since.floorMilli_le belongs.2⟩

def LogLine.countsInMemory (clusterId : Int) (hostname search : String) (since : Instant)
    (line : LogLine) : Bool :=
  line.belongs clusterId hostname since && LogSearch.holdsFully search line.text

/-- A line of the place and the time that a store in a file finds: any time of
the millisecond of the bound will do. -/
def LogLine.countsInFile (clusterId : Int) (hostname search : String) (since : Instant)
    (line : LogLine) : Bool :=
  line.belongs clusterId hostname since.floorMilli && LogSearch.holdsInAscii search line.text

def Store.logging (store : Store) (lines : List LogLine) : Store :=
  lines.foldl (fun store line => store.after (.log line)) store

theorem Store.logging_memory (memory : MemoryStore) (lines : List LogLine) :
    (Store.memory memory).logging lines = .memory { memory with logs := memory.logs ++ lines } := by
  induction lines generalizing memory with
  | nil => simp [logging]
  | cons line lines ih =>
    have step : (Store.memory memory).after (.log line) = .memory (memory.addLog line) := rfl
    rw [logging, List.foldl_cons, step, ← logging, ih]
    simp [MemoryStore.addLog]

theorem Store.logging_file {file : FileStore} (opened : file.isOpen = true)
    (lines : List LogLine) :
    (Store.file file).logging lines =
      .file { file with logs := file.logs ++ lines.map LogLine.floored } := by
  induction lines generalizing file with
  | nil => simp [logging]
  | cons line lines ih =>
    have step : (Store.file file).after (.log line) =
        .file { file with logs := file.logs ++ [line.floored] } := by
      simp [after, addLog, FileStore.addLog, FileStore.whenOpen, opened, Except.map,
        Except.toOption, LogLine.floored]
    rw [logging, List.foldl_cons, step, ← logging, ih (by exact opened)]
    simp

section Counts

variable {memory : MemoryStore} {file : FileStore} (lines : List LogLine)
  (clusterId : Int) (hostname search : String) (since : Instant)

theorem countMatching_logging_memory (noLines : memory.logs = []) :
    ((Store.memory memory).logging lines).countMatching clusterId hostname search since =
      .ok (lines.countP (LogLine.countsInMemory clusterId hostname search since)) := by
  rw [Store.logging_memory, noLines, List.nil_append, List.countP_eq_length_filter]
  rfl

theorem countMatching_logging_file (noLines : file.logs = []) (opened : file.isOpen = true) :
    ((Store.file file).logging lines).countMatching clusterId hostname search since =
      if FileStore.searchDepth search ≤ FileStore.depthLimit then
        .ok (lines.countP (LogLine.countsInFile clusterId hostname search since))
      else .error (.failed FileStore.depthReason) := by
  have found : ((lines.map LogLine.floored).filter fun line =>
      line.belongs clusterId hostname since.floorMilli &&
        LogSearch.holdsInAscii search line.text).length =
      lines.countP (LogLine.countsInFile clusterId hostname search since) := by
    rw [← List.countP_eq_length_filter, List.countP_map]
    refine List.countP_congr fun line _ => ?_
    simp only [Function.comp_apply, LogLine.floored_belongs]
    rfl
  rw [Store.logging_file opened, noLines, List.nil_append, Store.countMatching,
    FileStore.countMatching, FileStore.whenOpen, if_pos opened, found]
  by_cases shallow : FileStore.searchDepth search ≤ FileStore.depthLimit
  · rw [if_pos shallow]
    exact if_neg (Nat.not_lt.mpr shallow)
  · rw [if_neg shallow]
    exact if_pos (Nat.not_le.mp shallow)

end Counts

/-- What two stores, one in memory and one in a file, tell of a search after
the same lines.  The number in a file for a bound is the one in memory for the
millisecond of the bound, as long as lowering beyond ASCII does not touch the
terms in the lines of the place.  A line from the bound on in which each term
stands letter for letter is counted in memory if no term has a capital sigma
inside of a word, and in a file if the terms have no letters outside ASCII to
lower. -/
theorem searches_count_lines (memory : MemoryStore) (file : FileStore)
    (noLines : memory.logs = [] ∧ file.logs = []) (opened : file.isOpen = true)
    (lines : List LogLine) (clusterId : Int) (hostname search : String) (since : Instant) :
    let inMemory := (Store.memory memory).logging lines
    let inFile := (Store.file file).logging lines
    inMemory.countMatching clusterId hostname search since =
        .ok (lines.countP (LogLine.countsInMemory clusterId hostname search since)) ∧
      inFile.countMatching clusterId hostname search since =
        (if FileStore.searchDepth search ≤ FileStore.depthLimit then
          .ok (lines.countP (LogLine.countsInFile clusterId hostname search since))
        else .error (.failed FileStore.depthReason)) ∧
      ((∀ line ∈ lines, line.clusterId = clusterId → line.hostname = hostname →
          LogSearch.Untouched search line.text) →
        FileStore.searchDepth search ≤ FileStore.depthLimit →
        inFile.countMatching clusterId hostname search since =
          inMemory.countMatching clusterId hostname search since.floorMilli) ∧
      ∀ line ∈ lines, line.belongs clusterId hostname since = true →
        LogSearch.StandsIn search line.text →
          ((∀ term ∈ Text.words search, (∀ c ∈ term.toList, Text.isCapitalSigma c = false) ∨
              term ∈ Text.words line.text) →
            line.countsInMemory clusterId hostname search since = true) ∧
          ((∀ term ∈ Text.words search, ∀ c ∈ term.toList, Text.IsPlain c) →
            line.countsInFile clusterId hostname search since = true) := by
  intro inMemory inFile
  obtain ⟨noneInMemory, noneInFile⟩ := noLines
  have toldInFile := countMatching_logging_file lines clusterId hostname search since
    noneInFile opened
  refine ⟨countMatching_logging_memory lines clusterId hostname search since noneInMemory,
    toldInFile, fun untouched shallow => ?_, fun line _ belongs stands => ⟨fun inPlace => ?_,
      fun plain => ?_⟩⟩
  · rw [toldInFile, if_pos shallow,
      countMatching_logging_memory lines clusterId hostname search _ noneInMemory]
    refine congrArg Except.ok (List.countP_congr fun line isLine => ?_)
    simp only [LogLine.countsInFile, LogLine.countsInMemory, Bool.and_eq_true]
    refine and_congr_right fun belongs => ?_
    simp only [LogLine.belongs, Bool.and_eq_true, beq_iff_eq] at belongs
    exact LogSearch.holdsInAscii_of_untouched (untouched line isLine belongs.1.1 belongs.1.2)
  · rw [LogLine.countsInMemory, belongs, LogSearch.holdsFully_of_standsIn stands inPlace]
    rfl
  · rw [LogLine.countsInFile, LogLine.belongs_floorMilli belongs,
      LogSearch.holdsInAscii_of_standsIn stands plain]
    rfl

def earlyLine : LogLine :=
  ⟨1, "web", ⟨500⟩, "ÜBERLAUF: disk /dev/sda1 full"⟩

theorem full_disk_counts :
    ((default : MemoryStore).logs = [] ∧ (FileStore.create "logs").logs = []) ∧
      (FileStore.create "logs").isOpen = true ∧
      earlyLine.countsInFile 1 "web" "disk full" ⟨300⟩ = true ∧
      ((Store.file (FileStore.create "logs")).logging [earlyLine]).countMatching 1 "web"
          "disk full" ⟨300⟩ =
        ((Store.memory default).logging [earlyLine]).countMatching 1 "web" "disk full" ⟨0⟩ := by
  obtain ⟨-, -, alike, found⟩ := searches_count_lines default (FileStore.create "logs")
    ⟨rfl, rfl⟩ rfl [earlyLine] 1 "web" "disk full" ⟨300⟩
  refine ⟨⟨rfl, rfl⟩, rfl, ?_, ?_⟩
  · have plain : ((Text.words "disk full").all fun term =>
        term.toList.all fun c => decide (Text.IsPlain c)) = true := by decide +kernel
    simp only [List.all_eq_true, decide_eq_true_eq] at plain
    exact (found earlyLine (by simp) (by decide +kernel) (by decide +kernel)).2 plain
  · refine alike (fun line isLine _ _ => ?_) (by decide +kernel)
    obtain rfl := List.mem_singleton.mp isLine
    decide +kernel

/-- In memory the line comes before the bound, in a file it is of its
millisecond; and a letter outside ASCII is lowered in a term but not in the lines
of a file. -/
theorem stores_count_differently :
    ((Store.memory default).logging [earlyLine]).countMatching 1 "web" "disk" ⟨700⟩ = .ok 0 ∧
      ((Store.file (FileStore.create "logs")).logging [earlyLine]).countMatching 1 "web" "disk"
        ⟨700⟩ = .ok 1 ∧
      ((Store.memory default).logging [earlyLine]).countMatching 1 "web" "ÜBERLAUF" ⟨0⟩ = .ok 1 ∧
      ((Store.file (FileStore.create "logs")).logging [earlyLine]).countMatching 1 "web" "ÜBERLAUF"
        ⟨0⟩ = .ok 0 := by
  refine ⟨?_, ?_, ?_, ?_⟩ <;> rfl

end FleetMonitor
