import SparkFleet.Proofs.Calls
import SparkFleet.Proofs.Platform.Reading

/-!
# Uploads to the platform

Data is sent in blocks and becomes a file when its handle is closed.  `Platform.Opens` says when an
upload is opened at all.  The main statement `put_spec` says that a successful upload leaves a file
with exactly the data at its path, whatever the size.
-/

namespace SparkFleet

namespace Platform

variable {p : Platform} {path : String} {overwrite : Bool}

/-! ### Opening -/

/-- The platform with an upload to a path that has just been opened. -/
def opened (p : Platform) (path : String) : Platform :=
  { (p.count "dbfs/create").withNextNumber with
    uploads := p.uploads.insert p.nextHandle { path := path } }

theorem uploads_opened (p : Platform) (path : String) :
    (p.opened path).uploads.get? p.nextHandle = some ⟨path, .empty⟩ :=
  (SortedMap.get?_insert ..).trans (if_pos rfl)

/-- An upload to a path is opened if no failure is injected and no file is to be kept there. -/
structure Opens (p : Platform) (path : String) (overwrite : Bool) : Prop where
  served : p.failure? "dbfs/create" = none
  free : ¬(p.files.contains path ∧ overwrite = false)

theorem Opens.serve (hOpens : p.Opens path overwrite) :
    p.serve (.files (.create path overwrite)) = (.ok p.nextHandle, p.opened path) := by
  have hFree : ¬(p.files.contains path && !overwrite) = true := by
    simpa using hOpens.free
  exact serve_of_ok hOpens.served (if_neg hFree)

theorem serve_create_of_not_opens (hNot : ¬p.Opens path overwrite) :
    p.serve (.files (.create path overwrite)) =
      (.error ((p.failure? "dbfs/create").getD (entryExists path)), p.count "dbfs/create") := by
  cases hServed : p.failure? "dbfs/create" with
  | some cause => exact serve_of_injected hServed
  | none =>
    -- No failure is injected, so it is the file that keeps the upload from being opened.
    have hTaken : (p.files.contains path && !overwrite) = true := by
      by_contra hFree
      exact hNot ⟨hServed, by simpa using hFree⟩
    exact serve_of_error hServed (if_pos hTaken)

end Platform

namespace FileStore

open SparkFleet.Action (Ends exec)

/-! ### Blocks -/

theorem blockSize_pos : 0 < blockSize := by decide

/-- So many blocks hold a beginning of the data. -/
theorem foldl_extract (size : Nat) (data content : ByteArray) (n : Nat) :
    ((List.range n).map fun i => data.extract (i * size) ((i + 1) * size)).foldl (· ++ ·) content =
      content ++ data.extract 0 (n * size) := by
  induction n with
  | zero => simp
  | succ n ih =>
    rw [List.range_succ, List.map_append, List.foldl_append, ih]
    have hSplit : data.extract 0 ((n + 1) * size) =
        data.extract 0 (n * size) ++ data.extract (n * size) ((n + 1) * size) := by
      refine ByteArray.extract_eq_extract_append_extract (n * size) (Nat.zero_le _) ?_
      exact Nat.mul_le_mul_right size (Nat.le_succ n)
    rw [hSplit, ← ByteArray.append_assoc]
    rfl

/-- The blocks are large enough to hold all of the data. -/
theorem le_blockCount_mul {size : Nat} (hSize : 0 < size) (bytes : Nat) :
    bytes ≤ blockCount size bytes * size := by
  -- The number of blocks is the quotient rounded up, and the remainder is less than a block.
  have hDiv := Nat.div_add_mod (bytes + size - 1) size
  have hMod := Nat.mod_lt (bytes + size - 1) hSize
  rw [Nat.mul_comm] at hDiv
  unfold blockCount
  omega

/-- The blocks of the data are the data. -/
theorem foldl_blocks {size : Nat} (hSize : 0 < size) (data content : ByteArray) :
    (blocks size data).foldl (· ++ ·) content = content ++ data := by
  have hAll : data.extract 0 (blockCount size data.size * size) = data := by
    have hLe := le_blockCount_mul hSize data.size
    refine ByteArray.ext ?_
    rw [ByteArray.data_extract]
    exact Array.extract_eq_self_of_le hLe
  rw [blocks, foldl_extract, hAll]

/-! ### Sending -/

variable {s : Simulation Platform}

/-- A block is appended to what has been sent through an open handle. -/
theorem appendBlock_of_open {p : Platform} {handle : Int64} {upload : Upload}
    (hOpen : p.uploads.get? handle = some upload) (block : ByteArray) :
    p.appendBlock handle block =
      .ok ((), { p with
        uploads :=
          p.uploads.insert handle { upload with content := upload.content ++ block } }) := by
  rw [Platform.appendBlock, Platform.findUpload_eq_ok_iff.2 hOpen]
  rfl

/-- What has been sent through an open handle becomes the file. -/
theorem closeUpload_of_open {p : Platform} {handle : Int64} {upload : Upload}
    (hOpen : p.uploads.get? handle = some upload) :
    p.closeUpload handle =
      .ok ((), { p.writeFile upload.path upload.content with
        uploads := p.uploads.erase handle }) := by
  rw [Platform.closeUpload, Platform.findUpload_eq_ok_iff.2 hOpen]
  rfl

/-- Blocks that are sent through an open handle become the file, after what has been sent before,
and are refused only where a failure is injected. -/
theorem send_spec {handle : Int64} {path : String} {content : ByteArray}
    (hUpload : s.state.uploads.get? handle = some ⟨path, content⟩) (parts : List ByteArray) :
    Ends Platform.handler (send handle parts) s
      (fun _ t => t.state.files = s.state.files.insert path (parts.foldl (· ++ ·) content))
      fun _ _ => ¬s.state.Serving := by
  -- What has been sent so far grows by a block with each step, at the same handle.
  induction parts generalizing s content with
  | nil =>
    have hUpload' : (s.state.count "dbfs/close").uploads.get? handle = some ⟨path, content⟩ :=
      hUpload
    have hClose := closeUpload_of_open hUpload'
    refine Platform.ends_ask (fun _ q hServe => ?_) fun e _ hServe hServing => ?_
    · have hDone : (s.state.count "dbfs/close").closeUpload handle = .ok ((), q) :=
        Platform.serve_eq_ok hServe
      cases hClose.symm.trans hDone
      rfl
    · exact nomatch hClose.symm.trans ((Platform.serve_eq_error hServe).2 hServing)
  | cons block rest ih =>
    have hUpload' : (s.state.count "dbfs/add-block").uploads.get? handle = some ⟨path, content⟩ :=
      hUpload
    have hAppend := appendBlock_of_open hUpload' block
    refine Platform.ends_tryAsk (fun _ q hServe => ?_) fun e q hServe => ?_
    · have hDone : (s.state.count "dbfs/add-block").appendBlock handle block = .ok ((), q) :=
        Platform.serve_eq_ok hServe
      have hSent : q.uploads.get? handle = some ⟨path, content ++ block⟩ := by
        cases hAppend.symm.trans hDone
        exact (SortedMap.get?_insert ..).trans (if_pos rfl)
      have hFiles : q.files = s.state.files := by
        cases hAppend.symm.trans hDone
        rfl
      have hServing : q.Serving ↔ s.state.Serving := by
        have hIff :=
          Platform.serving_serve_iff (p := s.state) (c := .files (.addBlock handle block))
        rwa [hServe] at hIff
      refine (ih (s := { s with state := q }) hSent).mono (fun _ t hEnd => ?_) fun _ _ hNot => ?_
      · exact hFiles ▸ hEnd
      · exact mt hServing.2 hNot
    · -- The handle of an upload that fails is closed; what is then at the path is not claimed.
      have hFailed : ¬s.state.Serving := fun hServing =>
        nomatch hAppend.symm.trans ((Platform.serve_eq_error hServe).2 hServing)
      refine Platform.ends_tryAsk (fun _ _ _ => ?_) fun _ _ _ => ?_ <;> exact hFailed

section

variable {path : String} {overwrite : Bool}

/-- An upload that is opened is sent through the new handle. -/
theorem exec_put_of_opens (hOpens : s.state.Opens (pathOf path) overwrite) (data : ByteArray) :
    exec Platform.handler (put path data overwrite) s =
      exec Platform.handler (send s.state.nextHandle (blocks blockSize data))
        { s with state := s.state.opened (pathOf path) } :=
  (Action.ask_bind_of_ok (Platform.answer_handler hOpens.serve) _).1

/-- An upload that is not opened ends with the call that was to open it. -/
theorem exec_put_of_not_opens (hNot : ¬s.state.Opens (pathOf path) overwrite) (data : ByteArray) :
    exec Platform.handler (put path data overwrite) s =
      (.error (.transport
        ((s.state.failure? "dbfs/create").getD (Platform.entryExists (pathOf path)))),
        { s with state := s.state.count "dbfs/create" }) :=
  (Action.ask_bind_of_error
    (Platform.answer_handler (Platform.serve_create_of_not_opens hNot)) _).1

end

/-- Data that is written to a path is then the file at the path, and all other files stay.  Where no
failure is injected it is refused only because a file is there that is not to be replaced, and then
all files stay. -/
theorem put_spec (path : String) (data : ByteArray) (overwrite : Bool) :
    Ends Platform.handler (put path data overwrite) s
      (fun _ t => t.state.files = s.state.files.insert (pathOf path) data ∧
        ¬(s.state.files.contains (pathOf path) ∧ overwrite = false))
      fun e t => s.state.Serving →
        (s.state.files.contains (pathOf path) ∧ overwrite = false) ∧
          e = .transport (Platform.entryExists (pathOf path)) ∧ t.state.files = s.state.files := by
  by_cases hOpens : s.state.Opens (pathOf path) overwrite
  · have hBlocks := foldl_blocks blockSize_pos data .empty
    rw [ByteArray.empty_append] at hBlocks
    have hSend := send_spec (s := { s with state := s.state.opened (pathOf path) })
      (Platform.uploads_opened ..) (blocks blockSize data)
    rw [hBlocks] at hSend
    refine .intro (fun _ t hExec => ?_) fun e t hExec hServing => ?_
    · rw [exec_put_of_opens hOpens] at hExec
      exact ⟨hSend.of_ok hExec, hOpens.free⟩
    · rw [exec_put_of_opens hOpens] at hExec
      exact (hSend.of_error hExec hServing).elim
  · refine .intro (fun _ t hExec => ?_) fun e t hExec hServing => ?_
    · rw [exec_put_of_not_opens hOpens] at hExec
      cases (Prod.mk.inj hExec).1
    · -- Where no failure is injected, an upload is not opened only for the sake of a file.
      have hKept : s.state.files.contains (pathOf path) ∧ overwrite = false := by
        by_contra hFree
        exact hOpens ⟨hServing _, hFree⟩
      rw [exec_put_of_not_opens hOpens, hServing, Option.getD_none] at hExec
      obtain ⟨hError, rfl⟩ := Prod.mk.inj hExec
      exact ⟨hKept, (Except.error.inj hError).symm, rfl⟩

/-- A local file that is written to a path is then the file at the path. -/
theorem putFile_spec (localPath path : String) (overwrite : Bool) :
    Ends Platform.handler (putFile localPath path overwrite) s
      (fun _ t => ∃ data, s.files.read localPath = .ok data ∧
        t.state.files.get? (pathOf path) = some data) fun _ _ => True := by
  refine (Action.ends_bind _).2 ((Action.ends_readLocal _).2 ?_)
  split
  · next data hRead =>
    refine Action.Ends.mono (put_spec path data overwrite) ?_ fun _ _ _ => trivial
    rintro - t ⟨hFiles, -⟩
    have hFile : (s.state.files.insert (pathOf path) data).get? (pathOf path) = some data :=
      (SortedMap.get?_insert ..).trans (if_pos rfl)
    exact ⟨data, hRead, hFiles ▸ hFile⟩
  · trivial

end FileStore

end SparkFleet
