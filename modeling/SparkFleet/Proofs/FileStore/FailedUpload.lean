import SparkFleet.Proofs.FileStore.Protocol

/-!
# Uploads that fail

The platform refuses the calls of an endpoint all or none while an upload runs, so a block that is
refused is the first one.  The handle is closed all the same, and closing is what makes a file of
what has been sent, which is nothing.  An upload that fails therefore leaves all files and
directories as they were, unless it is broken off like this and the close is accepted: then an
empty file is at its path, also in place of one that was there (`failed_upload`).
-/

namespace SparkFleet

open SparkFleet.Action (exec)

namespace Platform

variable {p q r : Platform}

/-- The entries of the file store stay. -/
structure SameEntries (p q : Platform) : Prop where
  files : q.files = p.files
  dirs : q.dirs = p.dirs

theorem SameEntries.trans (hFirst : SameEntries p q) (hSecond : SameEntries q r) :
    SameEntries p r :=
  ⟨hSecond.files.trans hFirst.files, hSecond.dirs.trans hFirst.dirs⟩

theorem sameEntries_count (p : Platform) (endpoint : String) : SameEntries p (p.count endpoint) :=
  ⟨rfl, rfl⟩

/-- What becomes of a file depends on the entries alone. -/
theorem SameEntries.writeFile (hSame : SameEntries p q) (path : String) (content : ByteArray) :
    SameEntries (p.writeFile path content) (q.writeFile path content) where
  files := congrArg (·.insert path content) hSame.files
  dirs := by
    simp only [Platform.writeFile, makeDirs]
    rw [hSame.dirs]

theorem sameEntries_opened (p : Platform) (path : String) : SameEntries p (p.opened path) :=
  ⟨rfl, rfl⟩

end Platform

namespace FileStore

open Platform (SameEntries)

variable {s t : Simulation Platform} {path : String} {content : ByteArray} {handle : Int64}
  {e : Error}

/-! ### Blocks -/

/-- There are no blocks only of no data. -/
theorem blocks_eq_nil_iff {size : Nat} (hSize : 0 < size) (data : ByteArray) :
    blocks size data = [] ↔ data.size = 0 := by
  have hLe := le_blockCount_mul hSize data.size
  rw [← List.length_eq_zero_iff, length_blocks]
  constructor
  · intro hCount
    rw [hCount] at hLe
    omega
  · intro hEmpty
    rw [hEmpty, blockCount, Nat.zero_add]
    exact Nat.div_eq_of_lt (Nat.sub_lt hSize Nat.one_pos)

/-- Where blocks are accepted only the close can be refused, and then no file has been written. -/
theorem send_failed {parts : List ByteArray}
    (hAccepts : parts ≠ [] → s.state.failure? "dbfs/add-block" = none)
    (hUpload : s.state.uploads.get? handle = some ⟨path, content⟩)
    (hFailed : exec Platform.handler (send handle parts) s = (.error e, t)) :
    SameEntries s.state t.state := by
  induction parts generalizing s content with
  | nil =>
    rw [send, Action.exec_ask] at hFailed
    rcases hClose : s.state.serve (.files (.close handle)) with ⟨cause | u, q⟩
    · -- The close is refused, so nothing becomes a file and the call is only counted.
      rw [Platform.answer_handler hClose, (Platform.serve_eq_error hClose).1] at hFailed
      rw [← (Prod.mk.inj hFailed).2]
      exact Platform.sameEntries_count ..
    · rw [Platform.answer_handler hClose] at hFailed
      cases (Prod.mk.inj hFailed).1
  | cons block rest ih =>
    have hUpload' : (s.state.count "dbfs/add-block").uploads.get? handle = some ⟨path, content⟩ :=
      hUpload
    let sent : Platform := { s.state.count "dbfs/add-block" with
      uploads := s.state.uploads.insert handle ⟨path, content ++ block⟩ }
    have hBlock : s.state.serve (.files (.addBlock handle block)) = (.ok (), sent) :=
      Platform.serve_of_ok (hAccepts (List.cons_ne_nil block rest))
        (appendBlock_of_open hUpload' block)
    have hSent : sent.uploads.get? handle = some ⟨path, content ++ block⟩ :=
      (SortedMap.get?_insert ..).trans (if_pos rfl)
    have hSame : SameEntries s.state sent := ⟨rfl, rfl⟩
    rw [(send_of_accepted (Platform.answer_handler hBlock) rest).1] at hFailed
    exact hSame.trans (ih (s := { s with state := sent })
      (fun _ => hAccepts (List.cons_ne_nil block rest)) hSent hFailed)

/-- Where blocks are refused the first one is, and what has been sent before becomes the file if the
handle is closed. -/
theorem send_refused {cause : ApiError} (hRefuses : s.state.failure? "dbfs/add-block" = some cause)
    (hUpload : s.state.uploads.get? handle = some ⟨path, content⟩) (block : ByteArray)
    (rest : List ByteArray) :
    ∃ t, exec Platform.handler (send handle (block :: rest)) s = (.error (.transport cause), t) ∧
      (s.state.failure? "dbfs/close" = none →
        SameEntries (s.state.writeFile path content) t.state) ∧
      (s.state.failure? "dbfs/close" ≠ none → SameEntries s.state t.state) := by
  let refused := s.state.count "dbfs/add-block"
  have hBlock : s.state.serve (.files (.addBlock handle block)) = (.error cause, refused) :=
    Platform.serve_of_injected hRefuses
  refine ⟨_, (send_of_refused (Platform.answer_handler hBlock) rest).1, fun hCloses => ?_,
    fun hCloses => ?_⟩
  · -- Nothing has been added to the upload, so the close writes what was there before.
    have hUpload' : (refused.count "dbfs/close").uploads.get? handle = some ⟨path, content⟩ :=
      hUpload
    have hClose := Platform.serve_of_ok (c := .files (.close handle)) (p := refused) hCloses
      (closeUpload_of_open hUpload')
    rw [Platform.answer_handler hClose]
    exact ⟨rfl, rfl⟩
  · obtain ⟨cause', hCloses⟩ := Option.ne_none_iff_exists'.1 hCloses
    have hClose := Platform.serve_of_injected (c := .files (.close handle)) (p := refused) hCloses
    rw [Platform.answer_handler hClose]
    exact ⟨rfl, rfl⟩

/-! ### Uploads -/

/-- An upload that is opened breaks off at its first block and is closed without any. -/
structure BreaksOff (p : Platform) (path : String) (data : ByteArray) (overwrite : Bool) :
    Prop extends p.Opens path overwrite where
  filled : 0 < data.size
  refuses : p.failure? "dbfs/add-block" ≠ none
  closes : p.failure? "dbfs/close" = none

/-- Where blocks are refused, an upload of some data that is opened fails, and an empty file is at
its path if the handle is closed. -/
theorem put_refused {data : ByteArray} {overwrite : Bool} {cause : ApiError}
    (hOpens : s.state.Opens (pathOf path) overwrite) (hFilled : 0 < data.size)
    (hRefuses : s.state.failure? "dbfs/add-block" = some cause) :
    ∃ t, exec Platform.handler (put path data overwrite) s = (.error (.transport cause), t) ∧
      (s.state.failure? "dbfs/close" = none →
        SameEntries (s.state.writeFile (pathOf path) .empty) t.state) ∧
      (s.state.failure? "dbfs/close" ≠ none → SameEntries s.state t.state) := by
  have hSome : blocks blockSize data ≠ [] :=
    mt (blocks_eq_nil_iff blockSize_pos data).1 (Nat.ne_of_gt hFilled)
  obtain ⟨block, rest, hBlocks⟩ := List.exists_cons_of_ne_nil hSome
  have hSame := Platform.sameEntries_opened s.state (pathOf path)
  obtain ⟨t, hExec, hClosed, hOpen⟩ :=
    send_refused (s := { s with state := s.state.opened (pathOf path) }) hRefuses
      (Platform.uploads_opened ..) block rest
  rw [exec_put_of_opens hOpens, hBlocks]
  exact ⟨t, hExec, fun hCloses => (hSame.writeFile ..).trans (hClosed hCloses),
    fun hCloses => hSame.trans (hOpen hCloses)⟩

/-- An upload that fails without being broken off leaves all entries. -/
theorem put_of_not_breaksOff {data : ByteArray} {overwrite : Bool}
    (hNot : ¬BreaksOff s.state (pathOf path) data overwrite)
    (hFailed : exec Platform.handler (put path data overwrite) s = (.error e, t)) :
    SameEntries s.state t.state := by
  by_cases hOpens : s.state.Opens (pathOf path) overwrite
  · by_cases hSent : 0 < data.size ∧ s.state.failure? "dbfs/add-block" ≠ none
    · -- The first block is refused, so it must be the close that is refused as well.
      obtain ⟨cause, hRefuses⟩ := Option.ne_none_iff_exists'.1 hSent.2
      obtain ⟨t', hExec, -, hKept⟩ := put_refused hOpens hSent.1 hRefuses
      rw [(Prod.mk.inj (hFailed.symm.trans hExec)).2]
      exact hKept fun hCloses => hNot ⟨hOpens, hSent.1, hSent.2, hCloses⟩
    · have hAccepts (hSome : blocks blockSize data ≠ []) :
          s.state.failure? "dbfs/add-block" = none := by
        by_contra hRefuses
        refine hSent ⟨Nat.pos_of_ne_zero ?_, hRefuses⟩
        exact mt (blocks_eq_nil_iff blockSize_pos data).2 hSome
      rw [exec_put_of_opens hOpens] at hFailed
      exact (Platform.sameEntries_opened s.state (pathOf path)).trans
        (send_failed (s := { s with state := s.state.opened (pathOf path) }) hAccepts
          (Platform.uploads_opened ..) hFailed)
  · rw [exec_put_of_not_opens hOpens] at hFailed
    rw [← (Prod.mk.inj hFailed).2]
    exact Platform.sameEntries_count ..

/-- An upload that fails leaves every other path as it was, and all directories and its own path as
well, unless it is broken off.  Then it leaves an empty file at its path. -/
theorem failed_upload {data : ByteArray} {overwrite : Bool}
    (hFailed : exec Platform.handler (put path data overwrite) s = (.error e, t)) :
    (∀ other ≠ pathOf path, t.state.files.get? other = s.state.files.get? other) ∧
      (¬BreaksOff s.state (pathOf path) data overwrite → SameEntries s.state t.state) ∧
      (BreaksOff s.state (pathOf path) data overwrite →
        SameEntries (s.state.writeFile (pathOf path) .empty) t.state) := by
  have hKept (hNot : ¬BreaksOff s.state (pathOf path) data overwrite) :
      SameEntries s.state t.state := put_of_not_breaksOff hNot hFailed
  have hEmptied (hBreaks : BreaksOff s.state (pathOf path) data overwrite) :
      SameEntries (s.state.writeFile (pathOf path) .empty) t.state := by
    obtain ⟨cause, hRefuses⟩ := Option.ne_none_iff_exists'.1 hBreaks.refuses
    obtain ⟨t', hExec, hClosed, -⟩ := put_refused hBreaks.toOpens hBreaks.filled hRefuses
    rw [(Prod.mk.inj (hFailed.symm.trans hExec)).2]
    exact hClosed hBreaks.closes
  refine ⟨fun other hOther => ?_, hKept, hEmptied⟩
  by_cases hBreaks : BreaksOff s.state (pathOf path) data overwrite
  · rw [(hEmptied hBreaks).files]
    exact (SortedMap.get?_insert ..).trans (if_neg hOther)
  · rw [(hKept hBreaks).files]

/-- A platform with a file of two bytes, on which the calls of an endpoint are refused. -/
def storeRefusing (endpoint : String) : Simulation Platform :=
  ⟨({} : Platform).after [.addFile "/a" ⟨#[1, 2]⟩, .injectFailure endpoint 500], ⟨0⟩, .empty⟩

/-- Where the close is refused the file is not replaced. -/
theorem failed_upload_unclosed :
    (exec Platform.handler (put "/a" ⟨#[3]⟩ true) (storeRefusing "dbfs/close")).1 =
        .error (.transport (Platform.injected "dbfs/close" 500)) ∧
      SameEntries (storeRefusing "dbfs/close").state
        (exec Platform.handler (put "/a" ⟨#[3]⟩ true) (storeRefusing "dbfs/close")).2.state := by
  have hFailed : (exec Platform.handler (put "/a" ⟨#[3]⟩ true) (storeRefusing "dbfs/close")).1 =
      .error (.transport (Platform.injected "dbfs/close" 500)) := rfl
  refine ⟨hFailed, (failed_upload (Prod.ext hFailed rfl)).2.1 fun hBreaks => ?_⟩
  exact nomatch hBreaks.closes

/-- Where blocks are refused the file is replaced by an empty one, though the upload fails. -/
theorem failed_upload_emptied :
    (storeRefusing "dbfs/add-block").state.Reachable ∧
      (∃ e, (exec Platform.handler (put "/a" ⟨#[3]⟩ true) (storeRefusing "dbfs/add-block")).1 =
        .error e) ∧
      (storeRefusing "dbfs/add-block").state.files.get? "/a" = some ⟨#[1, 2]⟩ ∧
      (exec Platform.handler (put "/a" ⟨#[3]⟩ true)
        (storeRefusing "dbfs/add-block")).2.state.files.get? "/a" = some .empty :=
  ⟨⟨_, rfl⟩, ⟨_, rfl⟩, rfl, rfl⟩

end FileStore

end SparkFleet
