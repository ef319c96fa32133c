import Mathlib.Data.List.Induction
import SparkFleet.Proofs.FileStore.Upload
import SparkFleet.Proofs.Platform.Lasting

/-!
# Uploads that are open at the same time

Any number of uploads may be open on the platform, also to one path.  `UploadStep` lists what one
event can do to the upload of a handle.  An upload is therefore what its own history says, whatever
else happens in between: it was opened through its handle (`OpenedIn`), and its content is what has
been sent through the handle since (`upload_traced`).

The main statement `uploads_do_not_mix` says of every history that a handle that is closed leaves
exactly this as the file at the path it was opened for, that no handle is given twice, and that
nothing is sent through a handle once it is closed.
-/

namespace SparkFleet

/-- The handle that a call needs to be open. -/
def Call.handle? : Call → Option Int64
  | .files (.addBlock handle _) => some handle
  | .files (.close handle) => some handle
  | _ => none

namespace Platform

variable {p q : Platform} {handle : Int64} {e : Event}

/-- The failure where a handle is not open. -/
def notOpen (handle : Int64) : ApiError :=
  notFound ("Handle " ++ toString handle.toInt ++ " does not exist.")

/-! ### Blocks that are sent -/

/-- The block that an event sends through a handle, if the platform accepts it. -/
def Event.sent? (handle : Int64) (p : Platform) : Event → Option ByteArray
  | .call (.files (.addBlock other block)) =>
    if other = handle ∧ (p.serve (.files (.addBlock other block))).1.isOk then some block else none
  | _ => none

/-- The blocks that are sent through a handle in a history and accepted, in order. -/
def sentBlocks (handle : Int64) : Platform → List Event → List ByteArray
  | _, [] => []
  | p, e :: rest => (e.sent? handle p).toList ++ sentBlocks handle (e.apply p) rest

theorem sentBlocks_eq_gathered (handle : Int64) (p : Platform) (history : List Event) :
    sentBlocks handle p history = gathered (fun p e => (e.sent? handle p).toList) p history := by
  induction history generalizing p with
  | nil => rfl
  | cons e history ih => rw [sentBlocks, gathered, ih]

theorem sentBlocks_concat (handle : Int64) (p : Platform) (history : List Event) (e : Event) :
    sentBlocks handle p (history ++ [e]) =
      sentBlocks handle p history ++ (e.sent? handle (p.after history)).toList := by
  simp only [sentBlocks_eq_gathered, gathered_concat]

/-! ### Calls about a handle -/

/-- A block is accepted only through a handle that is open. -/
theorem Event.sent?_eq_some {block : ByteArray} (hSent : e.sent? handle p = some block) :
    e = .call (.files (.addBlock handle block)) ∧
      ∃ upload, p.uploads.get? handle = some upload := by
  unfold Event.sent? at hSent
  split at hSent
  · next other block' =>
    split at hSent
    · next hAccepted =>
      obtain ⟨rfl, hOk⟩ := hAccepted
      obtain rfl := Option.some.inj hSent
      obtain ⟨u, q, hServe, hPerform⟩ | ⟨cause, hServe, -⟩ :=
        p.serve_cases (.files (.addBlock other block'))
      · obtain ⟨upload, hOpen, -⟩ :=
          appendBlock_eq_ok (p := p.count "dbfs/add-block") (u := u) hPerform
        exact ⟨rfl, upload, hOpen⟩
      · rw [hServe] at hOk
        cases hOk
    · cases hSent
  · cases hSent

/-- A handle that is not open is not found, unless a failure is injected. -/
theorem serve_of_notOpen {c : Call} (hNeeds : c.handle? = some handle)
    (hNone : p.uploads.get? handle = none) :
    p.serve c = (.error ((p.failure? c.endpoint).getD (notOpen handle)), p.count c.endpoint) := by
  have hFind : (p.count c.endpoint).findUpload handle = .error (notOpen handle) := by
    have hNone' : (p.count c.endpoint).uploads.get? handle = none := hNone
    rw [findUpload, hNone']
    rfl
  -- Only two calls need a handle, and both look for the upload before they do anything else.
  have hPerform : (p.count c.endpoint).perform c = .error (notOpen handle) := by
    cases c with
    | files call =>
      cases call with
      | addBlock other block =>
        obtain rfl := Option.some.inj hNeeds
        simp only [perform, performFiles, appendBlock, hFind]
        rfl
      | close other =>
        obtain rfl := Option.some.inj hNeeds
        simp only [perform, performFiles, closeUpload, hFind]
        rfl
      | _ => cases hNeeds
    | _ => cases hNeeds
  simp only [serve, hPerform]
  cases p.failure? c.endpoint <;> rfl

/-! ### One event -/

/-- What an event that leads from one platform to another can do to the upload of a handle: what is
open before and after it. -/
inductive UploadStep (p q : Platform) (handle : Int64) :
    Event → Option Upload → Option Upload → Prop where
  /-- The upload is left as it is. -/
  | same {e : Event} (before : Option Upload) (hSent : e.sent? handle p = none) :
      UploadStep p q handle e before before
  | opened (path : String) (overwrite : Bool) (before : Option Upload)
      (hAnswer : (p.serve (.files (.create path overwrite))).1 = .ok handle)
      (hHandle : handle = p.nextHandle) (hLast : q.lastNumber = p.nextNumber) :
      UploadStep p q handle (.call (.files (.create path overwrite))) before
        (some ⟨path, .empty⟩)
  | sent {e : Event} (upload : Upload) (block : ByteArray)
      (hSent : e.sent? handle p = some block) :
      UploadStep p q handle e (some upload)
        (some { upload with content := upload.content ++ block })
  | closed (before : Option Upload) :
      UploadStep p q handle (.call (.files (.close handle))) before none

theorem UploadStep.of_eq (hUploads : q.uploads = p.uploads) (hSent : e.sent? handle p = none) :
    UploadStep p q handle e (p.uploads.get? handle) (q.uploads.get? handle) := by
  rw [hUploads]
  exact .same _ hSent

theorem uploadStep_create {path : String} {overwrite : Bool} {a : Int64}
    (hServe : p.serve (.files (.create path overwrite)) = (.ok a, q)) :
    UploadStep p q handle (.call (.files (.create path overwrite))) (p.uploads.get? handle)
      (q.uploads.get? handle) := by
  obtain ⟨rfl, rfl⟩ := openUpload_eq_ok (p := p.count "dbfs/create") (serve_eq_ok hServe)
  -- The upload is put in under the next number alone; a handle is seen to open only if it is that.
  by_cases hHandle : handle = p.nextHandle
  · have hNew : (p.uploads.insert p.nextHandle ⟨path, .empty⟩).get? handle =
        some ⟨path, .empty⟩ := (SortedMap.get?_insert ..).trans (if_pos hHandle)
    refine hNew ▸ .opened path overwrite _ ?_ hHandle rfl
    rw [hServe, hHandle]
    rfl
  · have hSame : (p.uploads.insert p.nextHandle ⟨path, .empty⟩).get? handle =
        p.uploads.get? handle := (SortedMap.get?_insert ..).trans (if_neg hHandle)
    exact hSame ▸ .same _ rfl

theorem uploadStep_addBlock {other : Int64} {block : ByteArray} {u : Unit}
    (hServe : p.serve (.files (.addBlock other block)) = (.ok u, q)) :
    UploadStep p q handle (.call (.files (.addBlock other block))) (p.uploads.get? handle)
      (q.uploads.get? handle) := by
  obtain ⟨upload, hOpen, rfl⟩ :=
    appendBlock_eq_ok (p := p.count "dbfs/add-block") (serve_eq_ok hServe)
  have hOpen' : p.uploads.get? other = some upload := hOpen
  have hGet := SortedMap.get?_insert p.uploads other handle
    { upload with content := upload.content ++ block }
  have hSent : (Event.call (.files (.addBlock other block))).sent? handle p =
      if other = handle then some block else none := by
    rw [Event.sent?, hServe]
    simp [Except.isOk, Except.toBool]
  by_cases hHandle : handle = other
  · subst hHandle
    rw [if_pos rfl] at hGet hSent
    rw [hOpen']
    exact hGet ▸ .sent upload block hSent
  · rw [if_neg hHandle] at hGet
    rw [if_neg (Ne.symm hHandle)] at hSent
    exact hGet ▸ .same _ hSent

theorem uploadStep_close {other : Int64} {u : Unit}
    (hServe : p.serve (.files (.close other)) = (.ok u, q)) :
    UploadStep p q handle (.call (.files (.close other))) (p.uploads.get? handle)
      (q.uploads.get? handle) := by
  obtain ⟨upload, -, rfl⟩ := closeUpload_eq_ok (p := p.count "dbfs/close") (serve_eq_ok hServe)
  have hGet := SortedMap.get?_erase p.uploads other handle
  by_cases hHandle : handle = other
  · subst hHandle
    rw [if_pos rfl] at hGet
    exact hGet ▸ .closed _
  · rw [if_neg hHandle] at hGet
    exact hGet ▸ .same _ rfl

/-- A call that is refused sends nothing. -/
theorem sent?_of_refused {c : Call} {cause : ApiError} (hServe : p.serve c = (.error cause, q)) :
    (Event.call c).sent? handle p = none := by
  cases c with
  | files call =>
    cases call with
    | addBlock other block =>
      rw [Event.sent?, hServe]
      exact if_neg fun hAccepted => nomatch hAccepted.2
    | _ => rfl
  | _ => rfl

theorem uploadStep_files {c : FileCall} {a : c.Answer} (hServe : p.serve (.files c) = (.ok a, q)) :
    UploadStep p q handle (.call (.files c)) (p.uploads.get? handle) (q.uploads.get? handle) := by
  have hPerform := serve_eq_ok hServe
  cases c with
  | create path overwrite => exact uploadStep_create hServe
  | addBlock other block => exact uploadStep_addBlock hServe
  | close other => exact uploadStep_close hServe
  | read path offset length =>
    obtain ⟨content, -, h⟩ := map_eq_ok hPerform
    cases h
    exact .of_eq rfl rfl
  | getStatus path | list path =>
    obtain ⟨found, -, h⟩ := map_eq_ok hPerform
    cases h
    exact .of_eq rfl rfl
  | delete path recursive =>
    -- Deleting and moving may change files and directories, but never what is open.
    simp only [perform, performFiles, deleteFile] at hPerform
    split at hPerform
    · cases hPerform
      exact .of_eq rfl rfl
    · split at hPerform
      · cases hPerform
      · cases hPerform
        exact .of_eq rfl rfl
  | move source destination =>
    simp only [perform, performFiles, moveFile] at hPerform
    split at hPerform
    · cases hPerform
    · obtain ⟨content, -, h⟩ := bind_eq_ok hPerform
      cases h
      exact .of_eq rfl rfl
  | mkdirs path =>
    cases hPerform
    exact .of_eq rfl rfl

/-- What an event can do to the upload of a handle. -/
theorem uploadStep_apply (p : Platform) (e : Event) (handle : Int64) :
    UploadStep p (e.apply p) handle e (p.uploads.get? handle)
      ((e.apply p).uploads.get? handle) := by
  cases e with
  | call c =>
    obtain ⟨a, q, hServe, hPerform⟩ | ⟨cause, hServe, -⟩ := p.serve_cases c
    · have hApply : (Event.call c).apply p = q := congrArg Prod.snd hServe
      rw [hApply]
      cases c with
      | files call => exact uploadStep_files hServe
      | clusters | jobs | libraries | workspace =>
        exact .of_eq (perform_frame_of_not_files (p := p.count _) hPerform (by simp)).2 rfl
    · have hApply : (Event.call c).apply p = p.count c.endpoint := congrArg Prod.snd hServe
      rw [hApply]
      exact .of_eq rfl (sent?_of_refused hServe)
  | settleCluster cluster =>
    refine .of_eq ?_ rfl
    simp only [Event.apply]
    rw [settleCluster_frame]
  | failCluster cluster =>
    refine .of_eq ?_ rfl
    simp only [Event.apply]
    rw [failCluster_frame]
  | addFile path content =>
    refine .of_eq ?_ rfl
    simp only [Event.apply, addFile]
    rw [writeFile_frame]
  | settleReads | injectFailure | clearFailure | offerVersions | offerNodeTypes | offerZones
  | putCluster | addRunningCluster | putJob | putRun | setRunOutput | finishRun | setLibraryStatus
  | addNotebook => exact .of_eq rfl rfl

/-! ### Handles -/

/-- Every handle that is open has been given out. -/
def HandlesIssued (p : Platform) : Prop := p.uploads.All fun handle _ => p.Issued handle

theorem HandlesIssued.apply (hIssued : p.HandlesIssued) (e : Event) :
    (e.apply p).HandlesIssued := by
  have hMono := lastNumber_le_apply (p := p) e
  intro handle upload hOpen
  have hStep := uploadStep_apply p e handle
  rw [hOpen] at hStep
  generalize hBefore : p.uploads.get? handle = before at hStep
  cases hStep with
  | same => exact (hIssued hBefore).mono hMono
  | opened path overwrite _ hAnswer hHandle hLast =>
    -- Of all events this one alone opens a handle, and it gives the handle out as it does.
    rw [hHandle]
    exact issued_nextNumber hLast
  | sent upload block hSent => exact (hIssued hBefore).mono hMono

theorem Reachable.handlesIssued (hReach : p.Reachable) : p.HandlesIssued :=
  hReach.induction .empty fun _ e hIssued => hIssued.apply e

/-- A handle that is closed is not opened again. -/
theorem uploads_stay_closed (hIssued : p.Issued handle) (hNone : p.uploads.get? handle = none)
    (history : List Event) (hLimit : (p.after history).lastNumber < numberLimit) :
    (p.after history).uploads.get? handle = none := by
  induction history generalizing p with
  | nil => exact hNone
  | cons e history ih =>
    refine ih (hIssued.mono (lastNumber_le_apply e)) ?_ hLimit
    have hStep := uploadStep_apply p e handle
    rw [hNone] at hStep
    generalize hAfter : (e.apply p).uploads.get? handle = now at hStep
    cases hStep with
    | same => rfl
    | closed => rfl
    | opened path overwrite _ hAnswer hHandle hLast =>
      -- A handle that has been given out is behind the counter, and what is opened is the next.
      have hNext : p.nextNumber < numberLimit :=
        hLast ▸ Nat.lt_of_le_of_lt (lastNumber_le_after history) hLimit
      exact absurd hHandle (hIssued.ne_next hNext)

/-! ### Histories -/

/-- A call is answered after a history. -/
def Answers (history : List Event) (c : Call) (a : c.Answer) : Prop :=
  ((({} : Platform).after history).serve c).1 = .ok a

/-- A handle has been given for an upload to a path. -/
def OpenedIn (history : List Event) (path : String) (handle : Int64) : Prop :=
  ∃ before overwrite rest,
    history = before ++ .call (.files (.create path overwrite)) :: rest ∧
      Answers before (.files (.create path overwrite)) handle

variable {history : List Event} {path : String}

theorem OpenedIn.concat (hOpened : OpenedIn history path handle) (e : Event) :
    OpenedIn (history ++ [e]) path handle := by
  obtain ⟨before, overwrite, rest, rfl, hAnswer⟩ := hOpened
  exact ⟨before, overwrite, rest ++ [e], by simp, hAnswer⟩

/-- Nothing is sent through a handle before it has been given out. -/
theorem sentBlocks_eq_nil (hNew : ¬(({} : Platform).after history).Issued handle) :
    sentBlocks handle {} history = [] := by
  induction history using List.reverseRecOn with
  | nil => rfl
  | append_singleton history e ih =>
    rw [after_append] at hNew
    have hNew' : ¬(({} : Platform).after history).Issued handle :=
      mt (·.mono (lastNumber_le_apply e)) hNew
    rw [sentBlocks_concat, ih hNew', List.nil_append]
    cases hSent : e.sent? handle (({} : Platform).after history) with
    | none => rfl
    | some block =>
      obtain ⟨-, upload, hOpen⟩ := Event.sent?_eq_some hSent
      exact absurd (Reachable.handlesIssued ⟨history, rfl⟩ hOpen) hNew'

/-- An upload that is open is what its history says: it has been opened through its handle, and its
content is what has been sent through the handle. -/
theorem upload_traced {upload : Upload}
    (hLimit : (({} : Platform).after history).lastNumber < numberLimit)
    (hOpen : (({} : Platform).after history).uploads.get? handle = some upload) :
    OpenedIn history upload.path handle ∧
      upload.content = (sentBlocks handle {} history).foldl (· ++ ·) .empty := by
  induction history using List.reverseRecOn generalizing upload with
  | nil => cases hOpen
  | append_singleton history e ih =>
    rw [after_append] at hLimit hOpen
    have hLimit' : (({} : Platform).after history).lastNumber < numberLimit :=
      Nat.lt_of_le_of_lt (lastNumber_le_apply e) hLimit
    have hStep := uploadStep_apply (({} : Platform).after history) e handle
    rw [after_cons, after_nil] at hOpen
    rw [hOpen] at hStep
    generalize hBefore : (({} : Platform).after history).uploads.get? handle = before at hStep
    rw [sentBlocks_concat]
    cases hStep with
    | same _ hSent =>
      obtain ⟨hOpened, hContent⟩ := ih hLimit' hBefore
      rw [hSent, Option.toList_none, List.append_nil]
      exact ⟨hOpened.concat e, hContent⟩
    | opened path overwrite _ hAnswer hHandle hLast =>
      -- The handle is new, so nothing has been sent through it.
      have hNew : ¬(({} : Platform).after history).Issued handle := fun hIssued =>
        hIssued.ne_next (hLast ▸ hLimit) hHandle
      rw [sentBlocks_eq_nil hNew]
      exact ⟨⟨history, overwrite, [], rfl, hAnswer⟩, rfl⟩
    | sent upload block hSent =>
      obtain ⟨hOpened, hContent⟩ := ih hLimit' hBefore
      rw [hSent, Option.toList_some, List.foldl_append, ← hContent]
      exact ⟨hOpened.concat e, rfl⟩

theorem create_answered {path : String} {overwrite : Bool}
    (hServe : p.serve (.files (.create path overwrite)) = (.ok handle, q)) :
    handle = p.nextHandle ∧ q.lastNumber = p.nextNumber := by
  obtain ⟨hHandle, rfl⟩ := openUpload_eq_ok (p := p.count "dbfs/create") (serve_eq_ok hServe)
  exact ⟨hHandle, rfl⟩

/-- A close that is answered leaves its upload as a file, and the handle is not open any more. -/
theorem close_answered {u : Unit} (hServe : p.serve (.files (.close handle)) = (.ok u, q)) :
    (∃ upload, p.uploads.get? handle = some upload ∧
        q.files = p.files.insert upload.path upload.content) ∧
      q.uploads.get? handle = none := by
  obtain ⟨upload, hOpen, rfl⟩ := closeUpload_eq_ok (p := p.count "dbfs/close") (serve_eq_ok hServe)
  exact ⟨⟨upload, hOpen, rfl⟩, (SortedMap.get?_erase ..).trans (if_pos rfl)⟩

/-- What it means that uploads do not mix in a history. -/
structure Unmixed (history : List Event) : Prop where
  /-- A close that is answered leaves all that has been sent through the handle as the file at the
  path that the handle was given for, and changes no other file. -/
  published : ∀ first rest handle,
    history = first ++ .call (.files (.close handle)) :: rest →
    Answers first (.files (.close handle)) () →
      ∃ path, OpenedIn first path handle ∧
        (({} : Platform).after (first ++ [.call (.files (.close handle))])).files =
          (({} : Platform).after first).files.insert path
            ((sentBlocks handle {} first).foldl (· ++ ·) .empty)
  /-- No handle is given twice. -/
  fresh : ∀ first between rest path path' overwrite overwrite' handle handle',
    history = first ++ .call (.files (.create path overwrite)) ::
      (between ++ .call (.files (.create path' overwrite')) :: rest) →
    Answers first (.files (.create path overwrite)) handle →
    Answers (first ++ .call (.files (.create path overwrite)) :: between)
      (.files (.create path' overwrite')) handle' →
      handle ≠ handle'
  /-- After a close that is answered, a call that needs the handle fails: the handle is not found,
  or a failure is injected.  The call changes nothing but what is counted. -/
  gone : ∀ first between rest handle c,
    history = first ++ .call (.files (.close handle)) :: (between ++ rest) →
    Answers first (.files (.close handle)) () → c.handle? = some handle →
      let p := ({} : Platform).after (first ++ .call (.files (.close handle)) :: between)
      p.serve c = (.error ((p.failure? c.endpoint).getD (notOpen handle)), p.count c.endpoint)

theorem lastNumber_lt_of_append {first rest : List Event}
    (hLimit : (p.after (first ++ rest)).lastNumber < numberLimit) :
    (p.after first).lastNumber < numberLimit := by
  rw [after_append] at hLimit
  exact Nat.lt_of_le_of_lt (lastNumber_le_after rest) hLimit

/-- However the calls of uploads follow one another in a history of the platform, and whatever else
happens in between, the uploads do not mix. -/
theorem uploads_do_not_mix
    (hLimit : (({} : Platform).after history).lastNumber < numberLimit) : Unmixed history where
  published first rest handle hHistory hAnswer := by
    rw [hHistory] at hLimit
    obtain ⟨⟨upload, hOpen, hFiles⟩, -⟩ := close_answered (Prod.ext hAnswer rfl)
    obtain ⟨hOpened, hContent⟩ := upload_traced (lastNumber_lt_of_append hLimit) hOpen
    refine ⟨upload.path, hOpened, ?_⟩
    rw [after_append, ← hContent]
    exact hFiles
  fresh first between rest path path' overwrite overwrite' handle handle' hHistory hFirst
      hSecond := by
    rw [hHistory, ← List.cons_append, ← List.append_assoc] at hLimit
    obtain ⟨rfl, hLast⟩ := create_answered (Prod.ext hFirst rfl)
    obtain ⟨rfl, hLast'⟩ := create_answered (Prod.ext hSecond rfl)
    -- The second handle is the next one at a time when the first has been given out.
    rw [after_append, after_cons] at hLimit
    have hNext := hLast' ▸ Nat.lt_of_le_of_lt (lastNumber_le_after rest) hLimit
    rw [after_append, after_cons] at hNext ⊢
    exact ((issued_nextNumber hLast).mono (lastNumber_le_after between)).ne_next hNext
  gone first between rest handle c hHistory hAnswer hNeeds := by
    rw [hHistory, ← List.cons_append, ← List.append_assoc] at hLimit
    obtain ⟨⟨upload, hOpen, -⟩, hClosed⟩ := close_answered (Prod.ext hAnswer rfl)
    have hIssued := Reachable.handlesIssued ⟨first, rfl⟩ hOpen
    have hLimit' := lastNumber_lt_of_append hLimit
    rw [after_append, after_cons] at hLimit' ⊢
    have hIssued' := hIssued.mono (lastNumber_le_apply (.call (.files (.close handle))))
    exact serve_of_notOpen hNeeds (uploads_stay_closed hIssued' hClosed between hLimit')

/-- Two uploads to one path whose blocks alternate.  The file of the first is moved away before the
second is closed, and a block that comes too late is lost. -/
def alternating : List Event := [
  .call (.files (.create "/a" false)),
  .call (.files (.create "/a" false)),
  .call (.files (.addBlock 1 ⟨#[1]⟩)),
  .call (.files (.addBlock 2 ⟨#[2]⟩)),
  .call (.files (.addBlock 1 ⟨#[3]⟩)),
  .call (.files (.close 1)),
  .call (.files (.move "/a" "/b")),
  .call (.files (.addBlock 1 ⟨#[4]⟩)),
  .call (.files (.close 2))]

/-- Each of the two files is what has been sent through its own handle. -/
theorem uploads_do_not_mix_alternating :
    (({} : Platform).after alternating).lastNumber < numberLimit ∧
      (({} : Platform).after alternating).files.get? "/b" = some ⟨#[1, 3]⟩ ∧
      ∃ path, OpenedIn (alternating.take 8) path 2 ∧
        (({} : Platform).after alternating).files =
          (({} : Platform).after (alternating.take 8)).files.insert path ⟨#[2]⟩ := by
  have hLimit : (({} : Platform).after alternating).lastNumber < numberLimit := by decide
  exact ⟨hLimit, rfl, (uploads_do_not_mix hLimit).published (alternating.take 8) [] 2 rfl rfl⟩

end Platform

end SparkFleet
