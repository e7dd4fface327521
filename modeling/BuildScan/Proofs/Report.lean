import BuildScan.CommandLine
import BuildScan.Proofs.Action
import BuildScan.Proofs.Lookups
import BuildScan.Proofs.Records
import BuildScan.Proofs.Utf8
import BuildScan.Proofs.Json.Sequence

/-!
# What a scan shows

Once the files are extracted, each with its outcome (`Entry`), the program shows a document for
every success, reports every failure, and ends with a verdict (`conclude`).  `conclude_after` gives
both streams as texts, entry by entry.  `cuts_decode` says that the documents can be told apart and
read again.
-/

namespace BuildScan

open BuildScan.Text BuildScan.Json CommandLine

variable {σ : Type}

/-- A file with the outcome of its extraction. -/
abbrev Entry := String × Except BuildError SourceUnit

/-- What is shown for a file. -/
def shownFor : Entry → String
  | (file, .ok unit) => document file unit ++ "\n"
  | (_, .error _) => ""

/-- What is reported for a file. -/
def reportedFor : Entry → String
  | (_, .ok _) => ""
  | (file, .error e) => s!"{file}:{e.message}\n"

/-- The number of files that failed. -/
def failureCount (entries : List Entry) : Nat := (entries.filter fun e => isFailure e.2).length

/-- What is reported at the end. -/
def summary (failures : Nat) : String :=
  if failures = 0 then "" else s!"gbuild: {failures} file(s) could not be scanned\n"

/-- All that is shown for some files. -/
def shownText (entries : List Entry) : String := String.join (entries.map shownFor)

/-- All that is reported for some files. -/
def reportedText (entries : List Entry) : String :=
  String.join (entries.map reportedFor) ++ summary (failureCount entries)

/-- What the program does with the outcomes of a scan. -/
def conclude (entries : List Entry) : Action σ Nat := do
  entries.forM fun e => showFile e.1 e.2
  if failureCount entries = 0 then return 0
  else
    let message := s!"{failureCount entries} file(s) could not be scanned"
    report s!"{programName}: {message}\n"
    return 1

/-- The outcomes of a scan. -/
def entriesOf [Go.Parser] (host : Host σ) (config : Config) (files : List String)
    (testMode : Bool) :
    Action σ (List Entry) := do
  let session ← scanSession host config
  Action.log .info s!"Scanning {files.length} file(s)..."
  session.extractFiles host files testMode

theorem scanSession_notes (host : Host σ) (config : Config) (t : Trace σ) :
    t.Notes ((scanSession host config).after t) := by
  have hOpened : t.Notes ((Session.withToolchain host config none).after t) := ⟨_, rfl⟩
  rw [scanSession, Action.after_bind]
  dsimp only
  split
  · exact hOpened
  · exact hOpened.trans (log_notes _ _ _)

/-- A scan collects its outcomes first. -/
theorem run_scan [Go.Parser] {args : List String} {arguments : Arguments} {files : List String}
    {testMode : Bool} (hArgs : Arguments.ofList args = .ok arguments)
    (hRequest : arguments.request = .scan files testMode) (host : Host σ) :
    run host args = (do
      let machine ← Action.machine
      let entries ← entriesOf host (arguments.platform.config (host.lookup machine)) files testMode
      conclude entries) := by
  rw [run, hArgs]
  simp only [hRequest, perform, scanFiles, entriesOf, conclude, bind_assoc]
  refine bind_congr fun machine => bind_congr fun session => bind_congr fun _ =>
    bind_congr fun entries => bind_congr fun _ => ?_
  rw [failureCount]
  split <;> rfl

/-! ### The streams -/

/-- The streams are as they were. -/
structure Trace.SameStreams (t u : Trace σ) : Prop where
  stdout : u.stdout = t.stdout
  stderr : u.stderr = t.stderr

theorem Trace.SameStreams.refl (t : Trace σ) : t.SameStreams t := ⟨rfl, rfl⟩

theorem Trace.SameStreams.trans {t u v : Trace σ} (h : t.SameStreams u) (hNext : u.SameStreams v) :
    t.SameStreams v := ⟨hNext.stdout.trans h.stdout, hNext.stderr.trans h.stderr⟩

theorem Trace.Notes.sameStreams {t u : Trace σ} (h : t.Notes u) : t.SameStreams u := by
  obtain ⟨events, rfl⟩ := h
  exact ⟨rfl, rfl⟩

/-- The trace with some more text on the streams. -/
def Trace.print (t : Trace σ) (shown reported : String) : Trace σ :=
  { t with stdout := t.stdout ++ bytesOf shown, stderr := t.stderr ++ bytesOf reported }

theorem Trace.print_empty (t : Trace σ) : t.print "" "" = t := by
  rw [Trace.print, bytesOf_empty, List.append_nil, List.append_nil]

theorem Trace.print_print (t : Trace σ) (a b c d : String) :
    (t.print a b).print c d = t.print (a ++ c) (b ++ d) := by
  simp only [Trace.print, bytesOf_append, List.append_assoc]

theorem put_after (s : String) (t : Trace σ) : (put s).after t = t.print s "" := by
  rw [Trace.print, bytesOf_empty]
  rfl

theorem report_after (s : String) (t : Trace σ) : (report s).after t = t.print "" s := by
  rw [Trace.print, bytesOf_empty]
  rfl

theorem showFile_after (e : Entry) (t : Trace σ) :
    (showFile e.1 e.2).after t = t.print (shownFor e) (reportedFor e) := by
  obtain ⟨file, outcome⟩ := e
  cases outcome with
  | ok unit => exact put_after _ t
  | error e => exact report_after _ t

/-- The entries are shown one after the other, each for itself. -/
theorem forM_showFile_after (entries : List Entry) (t : Trace σ) :
    (entries.forM fun e => showFile e.1 e.2).after t =
      t.print (shownText entries) (String.join (entries.map reportedFor)) := by
  induction entries generalizing t with
  | nil => exact t.print_empty.symm
  | cons e entries ih =>
    have hStep : ((e :: entries).forM fun e => showFile e.1 e.2) =
        (showFile (σ := σ) e.1 e.2 >>= fun _ => entries.forM fun e => showFile e.1 e.2) := rfl
    rw [hStep, Action.after_bind, showFile_after, ih, Trace.print_print]
    simp only [shownText, List.map_cons, String.join_cons]

theorem conclude_result (entries : List Entry) (t : Trace σ) :
    (conclude entries).result t = if failureCount entries = 0 then 0 else 1 := by
  rw [conclude, Action.result_bind]
  split <;> rfl

theorem summary_line (n : Nat) :
    let message := s!"{n} file(s) could not be scanned"
    s!"{programName}: {message}\n" = s!"gbuild: {n} file(s) could not be scanned\n" := by
  have hToString (s : String) : toString s = s := rfl
  apply String.toList_inj.mp
  simp [programName, hToString]

theorem conclude_after (entries : List Entry) (t : Trace σ) :
    (conclude entries).after t = t.print (shownText entries) (reportedText entries) := by
  rw [conclude, Action.after_bind, forM_showFile_after, reportedText, summary]
  by_cases hNone : failureCount entries = 0
  · rw [if_pos hNone, if_pos hNone, String.append_empty]
    rfl
  · rw [if_neg hNone, if_neg hNone, Action.after_bind, report_after, Trace.print_print,
      String.append_empty, summary_line]
    rfl

/-- From one trace to another the outcomes are shown and reported, each for itself and in their
order, and the exit code tells whether there was a failure. -/
structure Reports (t : Trace σ) (entries : List Entry) (code : Nat) (u : Trace σ) : Prop where
  code_eq : code = if failureCount entries = 0 then 0 else 1
  stdout : u.stdout = t.stdout ++ bytesOf (shownText entries)
  stderr : u.stderr = t.stderr ++ bytesOf (reportedText entries)

theorem conclude_reports {t u : Trace σ} (h : t.SameStreams u) (entries : List Entry) :
    Reports t entries ((conclude entries).result u) ((conclude entries).after u) := by
  rw [conclude_result, conclude_after]
  refine ⟨rfl, ?_, ?_⟩
  · rw [Trace.print, h.stdout]
  · rw [Trace.print, h.stderr]

/-! ### The documents -/

/-- The files that were extracted, with their units. -/
def extracted (entries : List Entry) : List (String × SourceUnit) :=
  entries.filterMap fun e => e.2.toOption.map fun unit => (e.1, unit)

/-- The file and the unit that a document is about. -/
def described? (v : Value) : Option (String × SourceUnit) := do
  match ← v.fields? ["file"] with
  | [some file] => return (← file.string?, ← SourceUnit.ofJson? v)
  | _ => none

/-- The value of a document. -/
def documentValue (described : String × SourceUnit) : Value :=
  .ofMembers (("file", .ofString described.1) :: described.2.members)

theorem writable_documentValue (described : String × SourceUnit) :
    (documentValue described).Writable :=
  writable_ofMembers
    (List.forall_mem_cons.mpr ⟨writable_ofString described.1, described.2.writable_members⟩)

theorem described?_documentValue (described : String × SourceUnit) :
    described? (documentValue described) = some described := by
  obtain ⟨file, unit⟩ := described
  have hFile : (documentValue (file, unit)).fields? ["file"] = some [some (.ofString file)] := rfl
  -- for the unit the file is a text under another name
  have hUnit : Describes SourceUnit.fieldNames unit.members
      (("file", .ofString file) :: unit.members) := by
    have hSelf : Describes SourceUnit.fieldNames unit.members unit.members := describes_self rfl
    refine ⟨?_, fun m hm hUnknown => ?_⟩
    · rw [List.filter_cons_of_neg (by simp [SourceUnit.fieldNames])]
      exact hSelf.known
    · rcases List.mem_cons.mp hm with rfl | hm
      · exact ⟨file, rfl⟩
      · exact hSelf.unknown m hm hUnknown
  rw [described?, hFile]
  simp only [Option.bind_eq_bind, Option.bind_some, string?_ofString]
  rw [documentValue, SourceUnit.ofJson?_members hUnit]
  rfl

/-- The text is cut into pieces that are a value each. -/
structure Cuts (text : String) (pieces : List String) : Prop where
  joined : String.join pieces = text
  values : ∀ p ∈ pieces, ∃ v, read? p = some v

/-- The documents as they are shown. -/
def documents (entries : List Entry) : List String :=
  (extracted entries).map fun d => document d.1 d.2 ++ "\n"

theorem toList_document (described : String × SourceUnit) :
    (document described.1 described.2 ++ "\n").toList =
      (documentValue described).write .pretty 0 ++ ['\n'] := by
  rw [document, Value.render, String.toList_append, String.toList_ofList]
  rfl

theorem extracted_cons (e : Entry) (entries : List Entry) :
    extracted (e :: entries) =
      (e.2.toOption.map fun unit => (e.1, unit)).toList ++ extracted entries := by
  rw [extracted, List.filterMap_cons]
  cases e.2.toOption <;> rfl

theorem join_documents (entries : List Entry) :
    String.join (documents entries) = shownText entries := by
  induction entries with
  | nil => rfl
  | cons e entries ih =>
    obtain ⟨file, outcome⟩ := e
    rw [shownText, List.map_cons, String.join_cons, ← shownText, ← ih, documents, extracted_cons]
    cases outcome with
    | ok unit => exact String.join_cons
    | error e => exact String.empty_append.symm

theorem toList_shownText (entries : List Entry) :
    (shownText entries).toList = writeLines .pretty ((extracted entries).map documentValue) := by
  rw [← join_documents, String.toList_join, documents, writeLines, List.flatMap_map,
    List.flatMap_map]
  exact List.flatMap_congr fun d _ => toList_document d

/-- What is shown is cut into the documents. -/
theorem cuts_documents (entries : List Entry) : Cuts (shownText entries) (documents entries) := by
  refine ⟨join_documents entries, fun p hp => ?_⟩
  obtain ⟨d, -, rfl⟩ := List.mem_map.mp hp
  refine ⟨documentValue d, read?_eq_some_iff.mpr ?_⟩
  rw [toList_document]
  exact reads_line pretty_isBlank (writable_documentValue d)

/-- **Every way of cutting gives the same descriptions**: those of the files that were extracted. -/
theorem cuts_decode {entries : List Entry} {pieces : List String}
    (h : Cuts (shownText entries) pieces) :
    pieces.map (ofJsonText described?) = (extracted entries).map .ok := by
  have hText : (pieces.map String.toList).flatten =
      writeLines .pretty ((extracted entries).map documentValue) := by
    rw [← toList_shownText, ← h.joined, String.toList_join, List.flatMap]
  have hReads : List.Forall₂ ReadsAs (pieces.map String.toList)
      ((extracted entries).map documentValue) := by
    refine reads_of_flatten pretty_isBlank (fun v hv => ?_) (fun v hv => ?_) (fun p hp => ?_)
      (congrArg skipGap hText)
    · obtain ⟨d, -, rfl⟩ := List.mem_map.mp hv
      trivial
    · obtain ⟨d, -, rfl⟩ := List.mem_map.mp hv
      exact writable_documentValue d
    · obtain ⟨s, hs, rfl⟩ := List.mem_map.mp hp
      obtain ⟨v, hRead⟩ := h.values s hs
      exact ⟨v, read?_eq_some_iff.mp hRead⟩
  rw [List.forall₂_map_left_iff, List.forall₂_map_right_iff] at hReads
  rw [← List.forall₂_eq_eq_eq, List.forall₂_map_left_iff, List.forall₂_map_right_iff]
  refine hReads.imp fun s d hRead => ofJsonText_eq_ok_iff.mpr ?_
  exact ⟨_, read?_eq_some_iff.mpr hRead, described?_documentValue d⟩

end BuildScan
