import Mathlib.Algebra.Order.Floor.Div
import SparkFleet.Proofs.Calls
import SparkFleet.Proofs.FileStore.Upload

/-!
# What an upload calls

An upload opens a handle, sends the blocks of its data and closes the handle.  `Uploads` says which
lists of calls and answers come of that: none follows a handle that is not opened, the blocks are
sent in order up to the first that is refused, and then the handle is closed.  `Cuts` says what the
blocks are: none is empty, all but the last are full, and together they are the data.

The main statement `upload_protocol` says that every upload goes like this, whatever is answered,
that it closes what it has opened once, and that its result is the first failure, if there is one.
-/

namespace SparkFleet

open SparkFleet.Action (exec)

namespace Exchange

/-- The handle that the call opens. -/
def opened? : Exchange → Option Int64
  | ⟨.files (.create _ _), .ok handle⟩ => some handle
  | _ => none

/-- The handle that the call is to close, whatever comes of it. -/
def closed? : Exchange → Option Int64
  | ⟨.files (.close handle), _⟩ => some handle
  | _ => none

/-- The block that the call sends, whatever comes of it. -/
def block? : Exchange → Option ByteArray
  | ⟨.files (.addBlock _ block), _⟩ => some block
  | _ => none

end Exchange

namespace FileStore

/-! ### Blocks -/

/-- The parts are the data cut into pieces of a size. -/
structure Cuts (size : Nat) (data : ByteArray) (parts : List ByteArray) : Prop where
  joined : parts.foldl (· ++ ·) .empty = data
  length : parts.length = data.size ⌈/⌉ size
  bounds : ∀ part ∈ parts, 0 < part.size ∧ part.size ≤ size
  /-- Only the last part may be shorter. -/
  full : ∀ part ∈ parts.dropLast, part.size = size

variable {size : Nat}

/-- A block begins within the data. -/
theorem mul_lt_of_lt_blockCount (hSize : 0 < size) {i bytes : Nat}
    (hi : i < blockCount size bytes) : i * size < bytes := by
  -- The number of blocks is rounded up, so one block more would reach beyond the data.
  have hLe : (i + 1) * size ≤ bytes + size - 1 := (Nat.le_div_iff_mul_le hSize).1 hi
  rw [Nat.succ_mul] at hLe
  omega

theorem size_block (data : ByteArray) (i : Nat) :
    (data.extract (i * size) ((i + 1) * size)).size = min size (data.size - i * size) := by
  rw [ByteArray.size_extract, Nat.succ_mul]
  omega

/-- The blocks that are sent are the data cut into pieces. -/
theorem cuts_blocks (hSize : 0 < size) (data : ByteArray) : Cuts size data (blocks size data) where
  joined := by rw [foldl_blocks hSize, ByteArray.empty_append]
  length := by rw [length_blocks, Nat.ceilDiv_eq_add_pred_div, blockCount]
  bounds part hMem := by
    obtain ⟨i, hi, rfl⟩ := List.mem_map.1 hMem
    have hStart := mul_lt_of_lt_blockCount hSize (List.mem_range.1 hi)
    rw [size_block]
    omega
  full part hMem := by
    rw [blocks, ← List.map_dropLast] at hMem
    obtain ⟨i, hi, rfl⟩ := List.mem_map.1 hMem
    have hNext : i + 1 < blockCount size data.size := by
      cases hCount : blockCount size data.size with
      | zero => simp [hCount] at hi
      | succ n =>
        rw [hCount, List.range_succ, List.dropLast_concat, List.mem_range] at hi
        omega
    have hStart := mul_lt_of_lt_blockCount hSize hNext
    rw [Nat.succ_mul] at hStart
    rw [size_block]
    omega

/-! ### Calls -/

/-- A block that is sent and accepted. -/
def accepted (handle : Int64) (block : ByteArray) : Exchange :=
  ⟨.files (.addBlock handle block), .ok ()⟩

/-- Parts are sent through a handle, all of them or up to the first that is refused, and then the
handle is closed. -/
inductive Sends (handle : Int64) (parts : List ByteArray) : List Exchange → Prop where
  | all (answer : Except ApiError Unit) :
      Sends handle parts (parts.map (accepted handle) ++ [⟨.files (.close handle), answer⟩])
  | refused (before : List ByteArray) {after : List ByteArray} {block : ByteArray}
      (hParts : parts = before ++ block :: after) (cause : ApiError)
      (answer : Except ApiError Unit) :
      Sends handle parts (before.map (accepted handle) ++
        [⟨.files (.addBlock handle block), .error cause⟩, ⟨.files (.close handle), answer⟩])

/-- A handle is opened and parts are sent through it, or nothing follows. -/
inductive Uploads (path : String) (overwrite : Bool) (parts : List ByteArray) :
    List Exchange → Prop where
  | unopened (cause : ApiError) :
      Uploads path overwrite parts [⟨.files (.create path overwrite), .error cause⟩]
  | opened (handle : Int64) {trace : List Exchange} (hSends : Sends handle parts trace) :
      Uploads path overwrite parts (⟨.files (.create path overwrite), .ok handle⟩ :: trace)

/-- What comes of calls if the first failure counts. -/
def resultOf (trace : List Exchange) : Except Error Unit :=
  match trace.findSome? Exchange.failure? with
  | none => .ok ()
  | some cause => .error (.transport cause)

theorem resultOf_eq_ok_iff {trace : List Exchange} :
    resultOf trace = .ok () ↔ trace.findSome? Exchange.failure? = none := by
  unfold resultOf
  cases trace.findSome? Exchange.failure? with
  | none => exact iff_of_true rfl rfl
  | some cause => exact iff_of_false (by simp) (by simp)

theorem Sends.cons {handle : Int64} {parts : List ByteArray} {trace : List Exchange}
    (block : ByteArray) (hSends : Sends handle parts trace) :
    Sends handle (block :: parts) (accepted handle block :: trace) := by
  cases hSends with
  | all answer => exact .all answer
  | refused before hParts cause answer =>
    exact .refused (block :: before) (by rw [hParts, List.cons_append]) cause answer

theorem filterMap_closed_accepted (handle : Int64) (parts : List ByteArray) :
    (parts.map (accepted handle)).filterMap Exchange.closed? = [] := by
  simp [List.filterMap_map, accepted, Exchange.closed?, Function.comp_def]

theorem filterMap_opened_accepted (handle : Int64) (parts : List ByteArray) :
    (parts.map (accepted handle)).filterMap Exchange.opened? = [] := by
  simp [List.filterMap_map, accepted, Exchange.opened?, Function.comp_def]

theorem Sends.filterMap_closed {handle : Int64} {parts : List ByteArray} {trace : List Exchange}
    (hSends : Sends handle parts trace) : trace.filterMap Exchange.closed? = [handle] := by
  cases hSends <;> rw [List.filterMap_append, filterMap_closed_accepted] <;> rfl

theorem Sends.filterMap_opened {handle : Int64} {parts : List ByteArray} {trace : List Exchange}
    (hSends : Sends handle parts trace) : trace.filterMap Exchange.opened? = [] := by
  cases hSends <;> rw [List.filterMap_append, filterMap_opened_accepted] <;> rfl

/-- The handle that is opened is closed once, and no other. -/
theorem Uploads.closed_eq_opened {path : String} {overwrite : Bool} {parts : List ByteArray}
    {trace : List Exchange} (hUploads : Uploads path overwrite parts trace) :
    trace.filterMap Exchange.closed? = trace.filterMap Exchange.opened? := by
  cases hUploads with
  | unopened cause => rfl
  | opened handle hSends =>
    exact hSends.filterMap_closed.trans (congrArg (handle :: ·) hSends.filterMap_opened.symm)

theorem filterMap_block_accepted (handle : Int64) (parts : List ByteArray) :
    (parts.map (accepted handle)).filterMap Exchange.block? = parts := by
  simp [List.filterMap_map, accepted, Exchange.block?, Function.comp_def]

/-- The blocks that are sent are the first of the parts, and all of them if no call fails. -/
theorem Sends.blocks {handle : Int64} {parts : List ByteArray} {trace : List Exchange}
    (hSends : Sends handle parts trace) :
    trace.filterMap Exchange.block? <+: parts ∧
      (trace.findSome? Exchange.failure? = none → trace.filterMap Exchange.block? = parts) := by
  cases hSends with
  | all answer =>
    have hClose : [(⟨.files (.close handle), answer⟩ : Exchange)].filterMap Exchange.block? = [] :=
      rfl
    rw [List.filterMap_append, filterMap_block_accepted, hClose, List.append_nil]
    exact ⟨List.prefix_rfl, fun _ => rfl⟩
  | refused before hParts cause answer =>
    -- The block that is refused has been sent too, and it is the next of the parts.
    rw [List.filterMap_append, filterMap_block_accepted, List.findSome?_append]
    refine ⟨?_, fun hNone => ?_⟩
    · rw [hParts]
      exact (List.prefix_append_right_inj before).2 ⟨_, rfl⟩
    · cases (Option.or_eq_none_iff.1 hNone).2

theorem Uploads.blocks {path : String} {overwrite : Bool} {parts : List ByteArray}
    {trace : List Exchange} (hUploads : Uploads path overwrite parts trace) :
    trace.filterMap Exchange.block? <+: parts ∧
      (trace.findSome? Exchange.failure? = none → trace.filterMap Exchange.block? = parts) := by
  cases hUploads with
  | unopened cause => exact ⟨List.nil_prefix, nofun⟩
  | opened handle hSends => exact hSends.blocks

section

variable {σ : Type} {h : Program.Handler σ} {s t : σ}

/-- A block that is accepted is followed by the rest. -/
theorem send_of_accepted {handle : Int64} {block : ByteArray}
    (hAnswer : h.answer (.files (.addBlock handle block)) s = (.ok (), t))
    (rest : List ByteArray) :
    exec h (send handle (block :: rest)) s = exec h (send handle rest) t ∧
      Program.exchanges h (send handle (block :: rest)).run s =
        accepted handle block :: Program.exchanges h (send handle rest).run t :=
  Action.tryAsk_bind hAnswer _

/-- After a block that is refused the handle is closed, and the refusal is the result. -/
theorem send_of_refused {handle : Int64} {block : ByteArray} {cause : ApiError}
    (hAnswer : h.answer (.files (.addBlock handle block)) s = (.error cause, t))
    (rest : List ByteArray) :
    exec h (send handle (block :: rest)) s =
        (.error (.transport cause), (h.answer (.files (.close handle)) t).2) ∧
      Program.exchanges h (send handle (block :: rest)).run s =
        [⟨.files (.addBlock handle block), .error cause⟩,
          ⟨.files (.close handle), (h.answer (.files (.close handle)) t).1⟩] :=
  Action.tryAsk_bind hAnswer _

/-- Parts are sent as far as they are accepted, and the first failure is the result. -/
theorem send_protocol (handle : Int64) (parts : List ByteArray) (s : σ) :
    Sends handle parts (Program.exchanges h (send handle parts).run s) ∧
      (exec h (send handle parts) s).1 =
        resultOf (Program.exchanges h (send handle parts).run s) := by
  induction parts generalizing s with
  | nil =>
    rw [send, Action.exchanges_ask, Action.exec_ask]
    refine ⟨.all _, ?_⟩
    cases (h.answer (.files (.close handle)) s).1 <;> rfl
  | cons block rest ih =>
    rcases hBlock : h.answer (.files (.addBlock handle block)) s with ⟨cause | u, t⟩
    · obtain ⟨hExec, hTrace⟩ := send_of_refused hBlock rest
      rw [hExec, hTrace]
      exact ⟨.refused [] rfl cause _, rfl⟩
    · obtain ⟨hExec, hTrace⟩ := send_of_accepted hBlock rest
      obtain ⟨hSends, hResult⟩ := ih t
      rw [hExec, hTrace]
      exact ⟨hSends.cons block, hResult⟩

/-- Parts are sent through a handle that is opened, and the first failure is the result. -/
theorem open_send_protocol (path : String) (overwrite : Bool) (parts : List ByteArray) (s : σ) :
    let upload : Action Unit := .ask (.files (.create path overwrite)) >>= (send · parts)
    Uploads path overwrite parts (Program.exchanges h upload.run s) ∧
      (exec h upload s).1 = resultOf (Program.exchanges h upload.run s) := by
  intro upload
  rcases hCreate : h.answer (.files (.create path overwrite)) s with ⟨cause | handle, t⟩
  · obtain ⟨hExec, hTrace⟩ := Action.ask_bind_of_error hCreate (send · parts)
    rw [hExec, hTrace]
    exact ⟨.unopened cause, rfl⟩
  · obtain ⟨hExec, hTrace⟩ := Action.ask_bind_of_ok hCreate (send · parts)
    obtain ⟨hSends, hResult⟩ := send_protocol (h := h) handle parts t
    rw [hExec, hTrace]
    exact ⟨.opened handle hSends, hResult⟩

/-- Whatever a backend answers, an upload that is not opened makes no other call.  One that is
opened sends the blocks of the data in order, up to the first that is refused, and then closes its
handle, once.  The blocks are the data cut into pieces of the block size.  The upload succeeds if
all calls do, and its error is otherwise that of the first call that fails. -/
theorem upload_protocol (h : Program.Handler σ) (s : σ) (path : String) (data : ByteArray)
    (overwrite : Bool) :
    let trace := Program.exchanges h (put path data overwrite).run s
    Uploads (pathOf path) overwrite (blocks blockSize data) trace ∧
      Cuts blockSize data (blocks blockSize data) ∧
      trace.filterMap Exchange.closed? = trace.filterMap Exchange.opened? ∧
      (exec h (put path data overwrite) s).1 = resultOf trace := by
  -- The protocol holds of any parts; that they are the data cut into blocks is said apart from it.
  obtain ⟨hUploads, hResult⟩ :=
    open_send_protocol (h := h) (pathOf path) overwrite (blocks blockSize data) s
  exact ⟨hUploads, cuts_blocks blockSize_pos data, hUploads.closed_eq_opened, hResult⟩

end

/-! ### An upload that is broken off -/

/-- A backend that accepts one block and then nothing more.  It counts the calls. -/
def tiring : Program.Handler Nat where
  answer
    | .files (.create _ _), n => (.ok 7, n + 1)
    | .files (.addBlock _ _), n => (if n ≤ 1 then .ok () else .error .unauthorized, n + 1)
    | _, n => (.error .unauthenticated, n + 1)
  pause _ n := n
  readLocal _ _ := .error .notFound

/-- Two full blocks and one byte. -/
def threeBlocks : ByteArray := ⟨Array.replicate (2 * blockSize + 1) 0⟩

theorem length_blocks_threeBlocks : (blocks blockSize threeBlocks).length = 3 := by
  have hSize : threeBlocks.size = 2 * blockSize + 1 := Array.size_replicate
  rw [length_blocks, hSize]
  decide

theorem exchanges_tiring {data first second third : ByteArray}
    (hBlocks : blocks blockSize data = [first, second, third]) :
    Program.exchanges tiring (put "/a" data false).run 0 =
      [⟨.files (.create (pathOf "/a") false), .ok 7⟩, accepted 7 first,
        ⟨.files (.addBlock 7 second), .error .unauthorized⟩,
        ⟨.files (.close 7), .error .unauthenticated⟩] := by
  rw [put, hBlocks]
  rfl

/-- The second of three blocks is refused, and so is the close that follows it. -/
theorem upload_protocol_brokenOff :
    ∃ first second third, blocks blockSize threeBlocks = [first, second, third] ∧
      (first.size = blockSize ∧ second.size = blockSize ∧ 0 < third.size) ∧
      Program.exchanges tiring (put "/a" threeBlocks false).run 0 =
        [⟨.files (.create (pathOf "/a") false), .ok 7⟩, accepted 7 first,
          ⟨.files (.addBlock 7 second), .error .unauthorized⟩,
          ⟨.files (.close 7), .error .unauthenticated⟩] ∧
      (exec tiring (put "/a" threeBlocks false) 0).1 = .error (.transport .unauthorized) := by
  obtain ⟨-, hCuts, -, hResult⟩ := upload_protocol tiring 0 "/a" threeBlocks false
  obtain ⟨first, second, third, hBlocks⟩ := List.length_eq_three.1 length_blocks_threeBlocks
  have hTrace := exchanges_tiring hBlocks
  rw [hBlocks] at hCuts
  refine ⟨first, second, third, hBlocks, ⟨?_, ?_, ?_⟩, hTrace, ?_⟩
  · exact hCuts.full first (by simp)
  · exact hCuts.full second (by simp)
  · exact (hCuts.bounds third (by simp)).1
  · rw [hResult, hTrace]
    rfl

end FileStore

end SparkFleet
