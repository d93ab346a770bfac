import DocRepair.Proofs.Json.DecodedValues
import DocRepair.Proofs.Outcome
import DocRepair.Proofs.Report.WrittenIntegers
import DocRepair.Report.File

/-!
Which entries of a report become diagnostics.

An entry is used if it has a text as its message and a line that counts as an integer. The
diagnostics are those of the used entries, in the order of the report, and all other entries may be
deleted. An entry is not passed over but stops the reading if its line looks like an integer and is
none, or if it is used and its column looks so, or its file has a name that is too long.
-/

namespace DocRepair.Report

open Outcome

/-! ### Entries -/

/-- A value that may be absent counts as an integer. -/
def Counts (found : Option Datum) (n : Int) : Prop :=
  ∃ value, found = some value ∧ CountsAs value n

/-- A value that may be absent looks like an integer and is none. -/
def Deceives (found : Option Datum) : Prop :=
  ∃ value, found = some value ∧ Misleads value

/-- An entry can be used: it has a message and a line. -/
def Usable (entry : Datum) : Prop :=
  (∃ message, entry.get? "message" = some (.text message)) ∧ ∃ line, Counts (entry.get? "line") line

section

variable (locate : Text → Except PathFault Text)

/-- An issue is what an entry for a file says. -/
structure Tells (file : Text) (entry : Datum) (issue : Issue) : Prop where
  file : locate file = .ok issue.file
  message : entry.get? "message" = some (.text issue.message)
  line : Counts (entry.get? "line") issue.line
  identifier : ∀ t, issue.identifier = some t ↔ entry.get? "identifier" = some (.text t)
  column : ∀ n, issue.column = some n ↔ Counts (entry.get? "column") n

/-- An entry for a file cannot be passed over. -/
inductive Stops (file : Text) (entry : Datum) : Prop
  | line {message : Text} (named : entry.get? "message" = some (.text message))
    (deceives : Deceives (entry.get? "line"))
  | file {fault : PathFault} (usable : Usable entry) (refused : locate file = .error fault)
  | column (usable : Usable entry) (deceives : Deceives (entry.get? "column"))

/-- Issues are those of the entries that can be used, in order. -/
inductive Told : List (Text × Datum) → List Issue → Prop
  | nil : Told [] []
  | pass {file : Text} {entry : Datum} {rest : List (Text × Datum)} {issues : List Issue}
    (unusable : ¬Usable entry) (told : Told rest issues) : Told ((file, entry) :: rest) issues
  | tell {file : Text} {entry : Datum} {issue : Issue} {rest : List (Text × Datum)}
    {issues : List Issue} (tells : Tells locate file entry issue) (told : Told rest issues) :
    Told ((file, entry) :: rest) (issue :: issues)

end

/-! ### Deleting entries -/

/-- The items of a list that are kept; other values stay. -/
def keepItems (keep : Datum → Bool) : Datum → Datum
  | .list items => .list (items.filter keep)
  | other => other

/-- Entries of a mapping with another value under a key. -/
def changeAt (key : Text) (change : Datum → Datum) (fields : List (Datum × Datum)) :
    List (Datum × Datum) :=
  fields.map fun (k, value) => (k, if k.isText key then change value else value)

/-- What is listed for a file, with the messages that are kept. -/
def keepMessages (keep : Datum → Bool) : Datum → Datum
  | .map fields => .map (changeAt "messages" (keepItems keep) fields)
  | other => other

/-- The files of a report with the messages that are kept. -/
def keepFiles (keep : Datum → Bool) : Datum → Datum
  | .map files => .map (files.map fun (file, data) => (file, keepMessages keep data))
  | other => other

/-- A report with the entries that are kept, in either form. -/
def keepEntries (keep : Datum → Bool) (fields : List (Datum × Datum)) : List (Datum × Datum) :=
  changeAt "messages" (keepItems keep) (changeAt "files" (keepFiles keep) fields)

theorem lookup_changeAt (key : Text) (change : Datum → Datum) (fields : List (Datum × Datum))
    (other : Text) : Datum.lookup (changeAt key change fields) other =
      if other = key then (Datum.lookup fields other).map change else Datum.lookup fields other := by
  induction fields with
  | nil => simp [changeAt, Datum.lookup]
  | cons entry rest ih =>
    obtain ⟨k, value⟩ := entry
    by_cases here : k = .text other
    · subst here
      by_cases same : other = key
      · simp [changeAt, Datum.lookup, Datum.isText, same]
      · simp [changeAt, Datum.lookup, Datum.isText, same]
    · have skipped : k.isText other = false := by
        rw [Bool.eq_false_iff, ne_eq, Datum.isText_iff]
        exact here
      have later : ∀ value rest, Datum.lookup ((k, value) :: rest) other = Datum.lookup rest other := by
        intro value rest
        simp [Datum.lookup, skipped]
      rw [later, ← ih, changeAt, List.map_cons]
      exact later _ _

theorem get?_keepMessages (keep : Datum → Bool) (data : Datum) :
    (keepMessages keep data).get? "messages" = (data.get? "messages").map (keepItems keep) := by
  cases data with
  | map fields => exact (lookup_changeAt _ _ _ _).trans (if_pos rfl)
  | _ => rfl

def ofFileData (file data : Datum) : List (Text × Datum) :=
  match file, data.get? "messages" with
  | .text path, some (.list messages) => messages.map (path, ·)
  | _, _ => []

def withFile? (entry : Datum) : Option (Text × Datum) :=
  match entry.get? "file" with
  | some (.text path) => some (path, entry)
  | _ => none

theorem withFile?_snd {entry : Datum} {pair : Text × Datum} (found : withFile? entry = some pair) :
    pair.2 = entry := by
  unfold withFile? at found
  split at found
  · cases found
    rfl
  · cases found

/-- The entries of one list, each with the file that it names. -/
def listed (messages : Option Datum) : List (Text × Datum) :=
  match messages with
  | some (.list messages) => messages.filterMap withFile?
  | _ => []

theorem entries_of_files {fields files : List (Datum × Datum)}
    (found : Datum.lookup fields "files" = some (.map files)) :
    entries fields = files.flatMap fun (file, data) => ofFileData file data := by
  rw [entries, found]
  rfl

theorem entries_of_list {fields : List (Datum × Datum)}
    (noFiles : ∀ files, Datum.lookup fields "files" ≠ some (.map files)) :
    entries fields = listed (Datum.lookup fields "messages") := by
  unfold entries
  split
  · rename_i files found
    exact absurd found (noFiles files)
  · rename_i messages found _
    rw [found]
    rfl
  · rename_i noList
    unfold listed
    split
    · rename_i messages found
      exact absurd found (noList _)
    · rfl

theorem ofFileData_keepMessages (keep : Datum → Bool) (file data : Datum) :
    ofFileData file (keepMessages keep data) =
      (ofFileData file data).filter fun entry => keep entry.2 := by
  unfold ofFileData
  rw [get?_keepMessages]
  cases file with
  | text path =>
    cases data.get? "messages" with
    | none => rfl
    | some value =>
      cases value with
      | list messages => simp [keepItems, List.filter_map, Function.comp_def]
      | _ => rfl
  | _ => rfl

theorem listed_keepItems (keep : Datum → Bool) (messages : Option Datum) :
    listed (messages.map (keepItems keep)) =
      (listed messages).filter fun entry => keep entry.2 := by
  cases messages with
  | none => rfl
  | some value =>
    cases value with
    | list messages =>
      have same : ∀ entry, (if keep entry = true then withFile? entry else none) =
          (withFile? entry).filter fun found => keep found.2 := by
        intro entry
        cases found : withFile? entry with
        | none => simp
        | some pair => rw [Option.filter_some, withFile?_snd found]
      simp only [listed, keepItems, Option.map_some, List.filterMap_filter, List.filter_filterMap,
        same]
    | _ => rfl

theorem entries_keepEntries (keep : Datum → Bool) (fields : List (Datum × Datum)) :
    entries (keepEntries keep fields) = (entries fields).filter fun entry => keep entry.2 := by
  have files : Datum.lookup (keepEntries keep fields) "files" =
      (Datum.lookup fields "files").map (keepFiles keep) := by
    rw [keepEntries, lookup_changeAt, if_neg (by decide), lookup_changeAt, if_pos rfl]
  have messages : Datum.lookup (keepEntries keep fields) "messages" =
      (Datum.lookup fields "messages").map (keepItems keep) := by
    rw [keepEntries, lookup_changeAt, if_pos rfl, lookup_changeAt, if_neg (by decide)]
  by_cases byFile : ∃ inside, Datum.lookup fields "files" = some (.map inside)
  · obtain ⟨inside, found⟩ := byFile
    rw [found, Option.map_some, keepFiles] at files
    rw [entries_of_files files, entries_of_files found, List.flatMap_map, List.filter_flatMap]
    simp only [ofFileData_keepMessages]
  · have noFiles : ∀ inside, Datum.lookup (keepEntries keep fields) "files" ≠ some (.map inside) := by
      intro inside kept
      rw [files] at kept
      obtain ⟨value, found, same⟩ := Option.map_eq_some_iff.mp kept
      cases value with
      | map before => exact byFile ⟨before, found⟩
      | _ => cases same
    rw [entries_of_list noFiles, entries_of_list (not_exists.mp byFile), messages, listed_keepItems]

/-! ### Reading -/

section Reading

variable {found : Option Datum} {m n : Int}

theorem counts_iff : integer? (found.getD .null) = .ok (some n) ↔ Counts found n := by
  cases found with
  | none => exact iff_of_false (fun read => nomatch read) fun ⟨_, absent, _⟩ => nomatch absent
  | some value => simp [Counts, integer?_eq_some_iff]

theorem deceives_iff : (∃ fault, integer? (found.getD .null) = .error fault) ↔ Deceives found := by
  cases found with
  | none =>
    exact iff_of_false (fun ⟨_, failed⟩ => nomatch failed) fun ⟨_, absent, _⟩ => nomatch absent
  | some value => simp [Deceives, ← integer?_fails_iff]

theorem not_deceives {counted : Option Int} (read : integer? (found.getD .null) = .ok counted) :
    ¬Deceives found := by
  intro deceives
  obtain ⟨fault, failed⟩ := deceives_iff.mpr deceives
  cases read.symm.trans failed

theorem Counts.unique (first : Counts found m) (second : Counts found n) : m = n :=
  Option.some.inj (Except.ok.inj ((counts_iff.mpr first).symm.trans (counts_iff.mpr second)))

variable {locate : Text → Except PathFault Text} {file : Text} {entry : Datum} {issue other : Issue}

theorem Tells.usable (tells : Tells locate file entry issue) : Usable entry :=
  ⟨⟨_, tells.message⟩, _, tells.line⟩

/-- Of the entries that cannot be used only those with a misleading line stop the reading. -/
theorem not_stops_of_unusable (unusable : ¬Usable entry)
    (straight : ∀ message, entry.get? "message" = some (.text message) →
      ¬Deceives (entry.get? "line")) : ¬Stops locate file entry := by
  intro stops
  cases stops with
  | line named deceives => exact straight _ named deceives
  | file usable _ => exact unusable usable
  | column usable _ => exact unusable usable

/-- An entry tells one issue only. -/
theorem Tells.unique (tells : Tells locate file entry issue) (again : Tells locate file entry other) :
    issue = other := by
  have column : issue.column = other.column := by
    apply Option.ext
    intro n
    rw [tells.column, again.column]
  have identifier : issue.identifier = other.identifier := by
    apply Option.ext
    intro t
    rw [tells.identifier, again.identifier]
  cases issue
  cases other
  rw [Issue.mk.injEq]
  exact ⟨Except.ok.inj (tells.file.symm.trans again.file), tells.line.unique again.line,
    Datum.text.inj (Option.some.inj (tells.message.symm.trans again.message)), identifier, column⟩

/-- What reading an entry gives: nothing or the issue that it tells, if it does not stop the
reading. -/
inductive Gives (locate : Text → Except PathFault Text) (file : Text) (entry : Datum) :
    Except ReportError (Option Issue) → Prop
  | nothing (passes : ¬Stops locate file entry) (unusable : ¬Usable entry) :
    Gives locate file entry (.ok none)
  | issue {issue : Issue} (passes : ¬Stops locate file entry)
    (tells : Tells locate file entry issue) : Gives locate file entry (.ok (some issue))
  | error {error : ReportError} (stops : Stops locate file entry)
    (unreported : (FileError.report error).isReported = false) : Gives locate file entry (.error error)

theorem issue?_of_message {message : Text} (named : entry.get? "message" = some (.text message)) :
    issue? locate file entry = do
      match ← (integer? ((entry.get? "line").getD .null)).mapError .integer with
      | none => return none
      | some line =>
        let path ← (locate file).mapError .unresolved
        let column ← (integer? ((entry.get? "column").getD .null)).mapError .integer
        return some ⟨path, line, message, (entry.get? "identifier").bind Datum.text?, column⟩ := by
  cases entry with
  | map fields =>
    have found : Datum.lookup fields "message" = some (.text message) := named
    rw [issue?, found]
    rfl
  | _ => cases named

theorem issue?_of_no_message (unnamed : ∀ message, entry.get? "message" ≠ some (.text message)) :
    issue? locate file entry = .ok none := by
  cases entry with
  | map fields =>
    rw [issue?]
    split
    · rename_i message found
      exact absurd found (unnamed message)
    · rfl
  | _ => rfl

theorem issue?_gives (locate : Text → Except PathFault Text) (file : Text) (entry : Datum) :
    Gives locate file entry (issue? locate file entry) := by
  by_cases named : ∃ message, entry.get? "message" = some (.text message)
  · obtain ⟨message, text⟩ := named
    rw [issue?_of_message text]
    cases line : integer? ((entry.get? "line").getD .null) with
    | error fault => exact .error (.line text (deceives_iff.mp ⟨fault, line⟩)) rfl
    | ok found =>
      have straight := not_deceives line
      cases found with
      | none =>
        have unusable : ¬Usable entry := fun ⟨_, n, counts⟩ => by
          cases line.symm.trans (counts_iff.mpr counts)
        exact .nothing (not_stops_of_unusable unusable fun _ _ => straight) unusable
      | some n =>
        have counts := counts_iff.mp line
        have usable : Usable entry := ⟨⟨message, text⟩, n, counts⟩
        cases place : locate file with
        | error name => exact .error (.file usable place) rfl
        | ok path =>
          cases column : integer? ((entry.get? "column").getD .null) with
          | error fault => exact .error (.column usable (deceives_iff.mp ⟨fault, column⟩)) rfl
          | ok c =>
            have passes : ¬Stops locate file entry := by
              intro stops
              cases stops with
              | line _ deceives => exact straight deceives
              | file _ refused => cases place.symm.trans refused
              | column _ deceives => exact not_deceives column deceives
            refine .issue passes ⟨place, text, counts, fun t => Datum.bind_text?_eq_some_iff,
              fun n => ?_⟩
            rw [← counts_iff, column, Except.ok.injEq]
  · have unnamed := not_exists.mp named
    have unusable : ¬Usable entry := fun usable => named usable.1
    rw [issue?_of_no_message unnamed]
    exact .nothing (not_stops_of_unusable unusable fun message text =>
      absurd text (unnamed message)) unusable

variable {rest : List (Text × Datum)} {told : List Issue}

theorem told_cons_of_unusable (unusable : ¬Usable entry) :
    Told locate ((file, entry) :: rest) told ↔ Told locate rest told := by
  refine ⟨fun all => ?_, .pass unusable⟩
  cases all with
  | pass _ others => exact others
  | tell tells _ => exact absurd tells.usable unusable

theorem told_cons_of_tells (tells : Tells locate file entry issue) :
    Told locate ((file, entry) :: rest) told ↔
      ∃ others, told = issue :: others ∧ Told locate rest others := by
  constructor
  · intro all
    cases all with
    | pass unusable _ => exact absurd tells.usable unusable
    | tell again others => exact ⟨_, by rw [tells.unique again], others⟩
  · rintro ⟨others, rfl, all⟩
    exact .tell tells all

/-- The diagnostics are read exactly if no entry stops the reading, and they are those of the
entries that can be used. -/
theorem issues_eq_ok_iff {listed : List (Text × Datum)} :
    issues locate listed = .ok told ↔
      (∀ entry ∈ listed, ¬Stops locate entry.1 entry.2) ∧ Told locate listed told := by
  induction listed generalizing told with
  | nil =>
    rw [issues, Except.ok.injEq]
    refine ⟨fun same => ⟨by simp, same ▸ .nil⟩, fun ⟨_, all⟩ => ?_⟩
    cases all
    rfl
  | cons pair rest ih =>
    obtain ⟨file, entry⟩ := pair
    rw [issues, List.forall_mem_cons]
    have gives := issue?_gives locate file entry
    generalize issue? locate file entry = read at gives
    simp only [bind_eq_ok_iff, pure, Except.pure, Except.ok.injEq]
    cases gives with
    | nothing passes unusable =>
      rw [told_cons_of_unusable unusable, and_iff_right passes, ← ih]
      simp
    | issue passes tells =>
      rw [told_cons_of_tells tells, and_iff_right passes]
      constructor
      · rintro ⟨_, ⟨⟩, others, read, rfl⟩
        obtain ⟨passes, all⟩ := ih.mp read
        exact ⟨passes, others, rfl, all⟩
      · rintro ⟨passes, others, rfl, all⟩
        exact ⟨_, rfl, others, ih.mpr ⟨passes, all⟩, rfl⟩
    | error stops _ => simp [stops]

theorem exists_told {listed : List (Text × Datum)}
    (passes : ∀ entry ∈ listed, ¬Stops locate entry.1 entry.2) : ∃ told, Told locate listed told := by
  induction listed with
  | nil => exact ⟨[], .nil⟩
  | cons pair rest ih =>
    obtain ⟨here, later⟩ := List.forall_mem_cons.mp passes
    obtain ⟨told, all⟩ := ih later
    have gives := issue?_gives locate pair.1 pair.2
    generalize issue? locate pair.1 pair.2 = read at gives
    cases gives with
    | nothing _ unusable => exact ⟨told, .pass unusable all⟩
    | @issue issue _ tells => exact ⟨issue :: told, .tell tells all⟩
    | error stops _ => exact absurd stops here

theorem issues_failsAs (listed : List (Text × Datum)) :
    FailsAs (fun error => (FileError.report error).isReported = false) (issues locate listed) := by
  induction listed with
  | nil => exact failsAs_ok _ _
  | cons pair rest ih =>
    have first := issue?_gives locate pair.1 pair.2
    refine FailsAs.bind (fun error failed => ?_) fun found _ => ih.bind fun _ _ => failsAs_ok _ _
    rw [failed] at first
    cases first
    assumption

/-- Entries that cannot be used may be left out. -/
theorem Told.filter {listed : List (Text × Datum)} {keep : Datum → Bool}
    (all : Told locate listed told) (kept : ∀ entry ∈ listed, Usable entry.2 → keep entry.2 = true) :
    Told locate (listed.filter fun entry => keep entry.2) told := by
  induction all with
  | nil => exact .nil
  | @pass file entry rest _ unusable _ ih =>
    have others := ih (List.forall_mem_cons.mp kept).2
    by_cases here : keep entry = true
    · simp only [List.filter_cons, here, if_true]
      exact .pass unusable others
    · simp only [List.filter_cons, here, Bool.false_eq_true, if_false]
      exact others
  | @tell file entry _ rest _ tells _ ih =>
    obtain ⟨here, later⟩ := List.forall_mem_cons.mp kept
    simp only [List.filter_cons, here tells.usable, if_true]
    exact .tell tells (ih later)

variable {document : Text} {fields : List (Datum × Datum)} {contents : Contents}

theorem read_eq (json : Json.read document = .ok (.map fields)) :
    Report.read locate document =
      (issues locate (entries fields)).map fun found => ⟨found, total fields⟩ := by
  rw [read, json]

theorem read_eq_ok_iff (json : Json.read document = .ok (.map fields)) :
    read locate document = .ok contents ↔
      issues locate (entries fields) = .ok contents.issues ∧ contents.total = total fields := by
  rw [read_eq json]
  cases issues locate (entries fields) with
  | error fault => simp [Except.map]
  | ok found =>
    simp only [Except.map, Except.ok.injEq]
    constructor
    · rintro rfl
      exact ⟨rfl, rfl⟩
    · rintro ⟨rfl, same⟩
      rw [← same]

theorem read_succeeds_iff (json : Json.read document = .ok (.map fields)) :
    (∃ contents, read locate document = .ok contents) ↔
      ∀ entry ∈ entries fields, ¬Stops locate entry.1 entry.2 := by
  simp only [read_eq_ok_iff json, issues_eq_ok_iff]
  constructor
  · rintro ⟨_, ⟨passes, _⟩, _⟩
    exact passes
  · intro passes
    obtain ⟨told, all⟩ := exists_told passes
    exact ⟨⟨told, total fields⟩, ⟨passes, all⟩, rfl⟩

theorem read_failsAs (json : Json.read document = .ok (.map fields)) :
    FailsAs (fun error => (FileError.report error).isReported = false) (read locate document) := by
  rw [read_eq json]
  cases failed : issues locate (entries fields) with
  | error fault => exact failsAs_error (issues_failsAs _ fault failed)
  | ok found => exact failsAs_ok _ _

end Reading

end DocRepair.Report

namespace DocRepair

open DocRepair.Report in
/-- A report is read exactly if no entry stops the reading. Its diagnostics are then those of the
entries that can be used, in order, and deleting other entries makes no difference. A text that is no
report is reported, unless it holds an integer with too many digits. -/
theorem usable_entries (locate : Text → Except PathFault Text) (document : Text) :
    (∀ fields, Json.read document = .ok (.map fields) →
      ((∃ contents, Report.read locate document = .ok contents) ↔
        ∀ entry ∈ entries fields, ¬Stops locate entry.1 entry.2) ∧
      (∀ error, Report.read locate document = .error error →
        (FileError.report error).isReported = false) ∧
      ∀ contents, Report.read locate document = .ok contents →
        Told locate (entries fields) contents.issues ∧
        ∀ keep : Datum → Bool, (∀ entry ∈ entries fields, Usable entry.2 → keep entry.2 = true) →
          ∀ other, Json.read other = .ok (.map (keepEntries keep fields)) →
            ∃ same, Report.read locate other = .ok same ∧ same.issues = contents.issues) ∧
    ((∀ fields, Json.read document ≠ .ok (.map fields)) →
      ∃ error, Report.read locate document = .error error ∧
        ((FileError.report error).isReported = true ↔
          ∀ digits, Json.read document ≠ .error (.longInteger digits))) := by
  refine ⟨fun fields json => ⟨read_succeeds_iff json, read_failsAs json, fun contents found => ?_⟩,
    fun noReport => ?_⟩
  · obtain ⟨passes, told⟩ := issues_eq_ok_iff.mp ((read_eq_ok_iff json).mp found).1
    refine ⟨told, fun keep kept other json' => ?_⟩
    have left : issues locate (entries (keepEntries keep fields)) = .ok contents.issues := by
      rw [entries_keepEntries]
      exact issues_eq_ok_iff.mpr
        ⟨fun entry member => passes entry (List.mem_of_mem_filter member), told.filter kept⟩
    exact ⟨⟨contents.issues, Report.total (keepEntries keep fields)⟩,
      (read_eq_ok_iff json').mpr ⟨left, rfl⟩, rfl⟩
  · unfold Report.read
    split
    · rename_i error failed
      refine ⟨_, rfl, ?_⟩
      cases error with
      | fault what place => simp [FileError.isReported, failed]
      | longInteger digits => simp [FileError.isReported, failed]
    · rename_i fields json
      exact absurd json (noReport fields)
    · rename_i value _ json
      exact ⟨_, rfl, by simp [FileError.isReported, json]⟩

open DocRepair.Report in
/-- Two entries of a file, the second without a usable line, and the report without it. -/
theorem usable_entries_sample :
    let entry (line : Text) : Datum := .map [(.text "line", .text line), (.text "message", .text "m")]
    let report (entries : List Datum) : List (Datum × Datum) :=
      [(.text "files", .map [(.text "a", .map [(.text "messages", .list entries)])])]
    let issue : Issue := ⟨"a", -3, "m", none, none⟩
    Json.read ("\x7b\"files\": \x7b\"a\": \x7b\"messages\": [" ++
      "\x7b\"line\": \" -3\", \"message\": \"m\"\x7d, " ++
      "\x7b\"line\": \"-x\", \"message\": \"m\"\x7d]\x7d\x7d\x7d") =
        .ok (.map (report [entry " -3", entry "-x"])) ∧
    Json.read ("\x7b\"files\": \x7b\"a\": \x7b\"messages\": [" ++
      "\x7b\"line\": \" -3\", \"message\": \"m\"\x7d]\x7d\x7d\x7d") =
        .ok (.map (report [entry " -3"])) ∧
    ∃ contents same,
      Report.read .ok ("\x7b\"files\": \x7b\"a\": \x7b\"messages\": [" ++
        "\x7b\"line\": \" -3\", \"message\": \"m\"\x7d, " ++
        "\x7b\"line\": \"-x\", \"message\": \"m\"\x7d]\x7d\x7d\x7d") = .ok contents ∧
      Report.read .ok ("\x7b\"files\": \x7b\"a\": \x7b\"messages\": [" ++
        "\x7b\"line\": \" -3\", \"message\": \"m\"\x7d]\x7d\x7d\x7d") = .ok same ∧
      contents.issues = [issue] ∧ same.issues = contents.issues := by
  intro entry report issue
  have json : Json.read ("\x7b\"files\": \x7b\"a\": \x7b\"messages\": [" ++
      "\x7b\"line\": \" -3\", \"message\": \"m\"\x7d, " ++
      "\x7b\"line\": \"-x\", \"message\": \"m\"\x7d]\x7d\x7d\x7d") =
        .ok (.map (report [entry " -3", entry "-x"])) := by
    rfl
  have json' : Json.read ("\x7b\"files\": \x7b\"a\": \x7b\"messages\": [" ++
      "\x7b\"line\": \" -3\", \"message\": \"m\"\x7d]\x7d\x7d\x7d") =
        .ok (.map (report [entry " -3"])) := by
    rfl
  have built : Report.read .ok ("\x7b\"files\": \x7b\"a\": \x7b\"messages\": [" ++
      "\x7b\"line\": \" -3\", \"message\": \"m\"\x7d, " ++
      "\x7b\"line\": \"-x\", \"message\": \"m\"\x7d]\x7d\x7d\x7d") = .ok ⟨[issue], 2⟩ := by
    rw [read_eq json]
    rfl
  let keep (entry : Datum) : Bool := (entry.get? "line").bind Datum.text? != some "-x"
  have kept : ∀ pair ∈ entries (report [entry " -3", entry "-x"]),
      Usable pair.2 → keep pair.2 = true := by
    have both : entries (report [entry " -3", entry "-x"]) =
        [(("a" : Text), entry " -3"), (("a" : Text), entry "-x")] := rfl
    rw [both, List.forall_mem_cons, List.forall_mem_singleton]
    refine ⟨fun _ => rfl, fun ⟨_, n, counts⟩ => ?_⟩
    have none : integer? (((entry "-x").get? "line").getD .null) = .ok none := rfl
    cases none.symm.trans (counts_iff.mpr counts)
  obtain ⟨-, -, listed⟩ := (usable_entries .ok _).1 _ json
  obtain ⟨-, deleted⟩ := listed _ built
  obtain ⟨same, again, unchanged⟩ := deleted keep kept _ json'
  exact ⟨json, json', _, same, built, again, rfl, unchanged⟩

open DocRepair.Report in
/-- An entry whose line has two minus signs cannot be used, and is not passed over either. -/
theorem usable_entries_excludes :
    ∃ document fields error, Json.read document = .ok (.map fields) ∧
      (∀ entry ∈ entries fields, ¬Usable entry.2) ∧ Report.read .ok document = .error error ∧
      (FileError.report error).isReported = false := by
  let entry : Datum := .map [(.text "file", .text "a"), (.text "line", .text "--5"),
    (.text "message", .text "m")]
  have json : Json.read ("\x7b\"messages\": [" ++
      "\x7b\"file\": \"a\", \"line\": \"--5\", \"message\": \"m\"\x7d]\x7d") =
        .ok (.map [(.text "messages", .list [entry])]) := by
    rfl
  refine ⟨_, _, .integer (.notInteger "--5"), json, ?_, ?_, rfl⟩
  · have only : entries [(.text "messages", .list [entry])] = [(("a" : Text), entry)] := rfl
    rw [only, List.forall_mem_singleton]
    rintro ⟨-, n, counts⟩
    have failed : integer? ((entry.get? "line").getD .null) = .error (.notInteger "--5") := rfl
    cases failed.symm.trans (counts_iff.mpr counts)
  · rw [read_eq json]
    rfl

end DocRepair
