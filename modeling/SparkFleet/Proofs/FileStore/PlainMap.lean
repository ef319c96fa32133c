import Mathlib.Logic.Function.Basic
import SparkFleet.Proofs.FileStore.Upload

/-!
# The file store as a map

A plain map holds the content at each path.  `FileOperation.Does` says what writing, reading, moving
and deleting answer on such a map and what they leave, and `FollowsMap` that operations which are
done one after another do that.

The main statement `operations_follow_map` says that any operations on the platform follow the plain
map of its files, as long as no failure is injected, and that a file of `n` bytes is read in
`n / b + 1` windows of `b` bytes.
-/

namespace SparkFleet

open SparkFleet.Action (Ends exec)
open FileStore

/-- The content at each path where a file is. -/
abbrev FileMap := String → Option ByteArray

/-- The files of the platform as a plain map. -/
def Simulation.fileMap (s : Simulation Platform) : FileMap := s.state.files.get?

/-- The path goes on after that of the directory and a slash. -/
def LiesBelow (path dir : String) : Prop := ∃ rest, path = dir ++ "/" ++ rest

/-- Content whose size can be said with 64 bits, as that of anything in memory can. -/
def Addressable (content : ByteArray) : Prop := content.size < UInt64.size

/-- The failure where a directory is not empty. -/
def Platform.directoryNotEmpty (path : String) : ApiError :=
  refused "IO_ERROR" ("Directory " ++ path ++ " is not empty")

/-- An operation on files. -/
inductive FileOperation where
  | put (path : String) (data : ByteArray) (overwrite : Bool)
  | get (path : String)
  | move (source destination : String)
  | delete (path : String) (recursive : Bool)

namespace FileOperation

/-- What an operation answers. -/
@[reducible] def Answer : FileOperation → Type
  | .get _ => ByteArray
  | .put _ _ _ | .move _ _ | .delete _ _ => Unit

/-- What an operation does by calls. -/
def action : (op : FileOperation) → Action op.Answer
  | .put path data overwrite => FileStore.put path data overwrite
  | .get path => FileStore.get path
  | .move source destination => FileStore.move source destination
  | .delete path recursive => FileStore.delete path recursive

/-- The data that is written can be addressed. -/
def Fits : FileOperation → Prop
  | .put _ data _ => Addressable data
  | .get _ | .move _ _ | .delete _ _ => True

instance : DecidablePred Fits
  | .put _ data _ => inferInstanceAs (Decidable (data.size < UInt64.size))
  | .get _ | .move _ _ | .delete _ _ => .isTrue trivial

open Classical in
/-- What an operation answers on a plain map, and the map after it.  Of the root as a directory it
is said only that no file is written. -/
def Does (before : FileMap) : (op : FileOperation) → Except Error op.Answer → FileMap → Prop
  | .put path data overwrite, answer, after =>
    if (before (pathOf path)).isSome ∧ overwrite = false then
      answer = .error (.transport (Platform.entryExists (pathOf path))) ∧ after = before
    else
      answer = .ok () ∧ after = Function.update before (pathOf path) (some data)
  | .get path, answer, after =>
    after = before ∧
      match before (pathOf path) with
      | some content => answer = .ok content
      | none => answer = .error (.transport (Platform.noEntry (pathOf path)))
  | .move source destination, answer, after =>
    match before (pathOf destination), before (pathOf source) with
    | some _, _ =>
      answer = .error (.transport (Platform.entryExists (pathOf destination))) ∧ after = before
    | none, none =>
      answer = .error (.transport (Platform.noEntry (pathOf source))) ∧ after = before
    | none, some content =>
      answer = .ok () ∧
        after = Function.update (Function.update before (pathOf source) none) (pathOf destination)
          (some content)
  | .delete path recursive, answer, after =>
    let dir := Path.directory (pathOf path)
    if (before (pathOf path)).isSome then
      answer = .ok () ∧ after = Function.update before (pathOf path) none
    else if recursive then
      if dir = Path.root then
        ∀ file, after file = none ∨ after file = before file
      else
        answer = .ok () ∧ ∀ file, after file = if LiesBelow file dir then none else before file
    else
      after = before ∧
        (dir ≠ Path.root →
          answer =
            if ∃ file, LiesBelow file dir ∧ (before file).isSome then
              .error (.transport (Platform.directoryNotEmpty (pathOf path)))
            else
              .ok ())

/-- The call that reads one window of a file. -/
@[reducible] def windowCall (path : String) (i : Nat) : Call :=
  .files (.read path (.ofNat (i * blockSize)) (.ofNat blockSize))

/-- A file is read window by window, up to the first one that is not full. -/
def ReadsThrough (s : Simulation Platform) : FileOperation → Prop
  | .get path => ∀ content, s.fileMap (pathOf path) = some content →
    Program.calls Platform.handler (FileStore.get path).run s =
      (List.range (content.size / blockSize + 1)).map (windowCall (pathOf path))
  | .put _ _ _ | .move _ _ | .delete _ _ => True

end FileOperation

/-- Operations that are done one after another do what they do to a plain map. -/
def FollowsMap (s : Simulation Platform) : List FileOperation → Prop
  | [] => True
  | op :: rest =>
    let (answer, after) := exec Platform.handler op.action s
    op.Does s.fileMap answer after.fileMap ∧ op.ReadsThrough s ∧ FollowsMap after rest

variable {s : Simulation Platform}

/-! ### Single calls -/

/-- A call about files is performed, or it is only counted, where no failure is injected. -/
theorem answer_files (hServing : s.state.Serving) (c : FileCall) :
    Platform.handler.answer (.files c) s =
      match (s.state.count c.endpoint).performFiles c with
      | .ok (a, q) => (.ok a, { s with state := q })
      | .error e => (.error e, { s with state := s.state.count c.endpoint }) := by
  obtain ⟨a, q, hServe, hPerform⟩ | ⟨e, hServe, hPerform⟩ := s.state.serve_cases (.files c)
  · have hFiles : (s.state.count c.endpoint).performFiles c = .ok (a, q) := hPerform
    rw [hFiles]
    exact Platform.answer_handler hServe
  · have hFiles : (s.state.count c.endpoint).performFiles c = .error e := hPerform hServing
    rw [hFiles]
    exact Platform.answer_handler hServe

theorem exec_ask_of_ok (hServing : s.state.Serving) {c : FileCall} {a : c.Answer} {q : Platform}
    (hPerform : (s.state.count c.endpoint).performFiles c = .ok (a, q)) :
    exec Platform.handler (.ask (.files c)) s = (.ok a, { s with state := q }) := by
  rw [Action.exec_ask, answer_files hServing, hPerform]
  rfl

theorem exec_ask_of_error (hServing : s.state.Serving) {c : FileCall} {e : ApiError}
    (hPerform : (s.state.count c.endpoint).performFiles c = .error e) :
    exec Platform.handler (.ask (.files c)) s =
      (.error (.transport e), { s with state := s.state.count c.endpoint }) := by
  rw [Action.exec_ask, answer_files hServing, hPerform]
  rfl

/-! ### Reading -/

/-- What an action that begins with a call asks for. -/
theorem Action.calls_ask_bind {σ β : Type} (h : Program.Handler σ) (c : Call)
    (f : c.Answer → Action β) (s : σ) :
    Program.calls h (ask c >>= f).run s =
      c :: match h.answer c s with
        | (.ok a, t) => Program.calls h (f a).run t
        | (.error _, _) => [] := by
  change c :: Program.calls h _ (h.answer c s).2 = _
  rcases h.answer c s with ⟨e | a, t⟩ <;> rfl

theorem size_extract_beginning {content : ByteArray} {n : Nat} (hLe : n ≤ content.size) :
    (content.extract 0 n).size = n := by
  rw [ByteArray.size_extract]
  omega

/-- The window after the ones that have been read goes on where they end. -/
theorem extract_append_window {content : ByteArray} {i : Nat}
    (hStart : i * blockSize ≤ content.size) :
    content.extract 0 (i * blockSize) ++ Platform.window content (i * blockSize) blockSize =
      content.extract 0 (min ((i + 1) * blockSize) content.size) := by
  have hEnd : (i + 1) * blockSize = i * blockSize + blockSize := Nat.succ_mul i blockSize
  rw [Platform.window, hEnd]
  refine (ByteArray.extract_eq_extract_append_extract (i * blockSize) (Nat.zero_le _) ?_).symm
  omega

theorem size_window {content : ByteArray} (i : Nat) :
    (Platform.window content (i * blockSize) blockSize).size =
      min ((i + 1) * blockSize) content.size - i * blockSize := by
  have hEnd : (i + 1) * blockSize = i * blockSize + blockSize := Nat.succ_mul i blockSize
  rw [Platform.window, ByteArray.size_extract, hEnd]
  omega

section Windows

variable {σ : Type} {h : Program.Handler σ} {path : String} {content : ByteArray}
  {kept : σ → Prop} {s : σ}

/-- In states of a kind, each window of some content that begins within it is answered, and the
state stays of the kind. -/
def AnswersWindows (h : Program.Handler σ) (kept : σ → Prop) (path : String)
    (content : ByteArray) : Prop :=
  ∀ i s, i * blockSize ≤ content.size → kept s → ∃ t, kept t ∧
    h.answer (FileOperation.windowCall path i) s =
      (.ok (Platform.window content (i * blockSize) blockSize), t)

/-- Content is read to its end from wherever windows have been read up to. -/
theorem readOn_of_windows (hWindows : AnswersWindows h kept path content) (hKept : kept s)
    {i windows : Nat} (hStart : i * blockSize ≤ content.size)
    (hEnough : content.size / blockSize < i + windows) :
    ∃ t, kept t ∧
      exec h (readOn path (content.extract 0 (i * blockSize)) windows) s = (.ok content, t) ∧
      Program.calls h (readOn path (content.extract 0 (i * blockSize)) windows).run s =
        (List.range' i (content.size / blockSize + 1 - i)).map (FileOperation.windowCall path) := by
  induction windows generalizing i s with
  | zero =>
    -- The loop ends before its windows do, so this case is not reached.
    have hLe := (Nat.le_div_iff_mul_le blockSize_pos).2 hStart
    omega
  | succ windows ih =>
    obtain ⟨t, hKept', hAnswer⟩ := hWindows i s hStart hKept
    unfold readOn
    rw [size_extract_beginning hStart, Action.exec_bind, Action.calls_ask_bind, Action.exec_ask]
    rw [hAnswer]
    simp only [Action.ofAnswer, size_window, extract_append_window hStart]
    have hEnd : (i + 1) * blockSize = i * blockSize + blockSize := Nat.succ_mul i blockSize
    by_cases hShort : content.size < (i + 1) * blockSize
    · -- The window is not full, and the content ends with it.
      have hMin : min ((i + 1) * blockSize) content.size = content.size := by omega
      have hDiv : content.size / blockSize = i :=
        Nat.div_eq_of_lt_le hStart hShort
      have hAll : content.extract 0 content.size = content := ByteArray.extract_zero_size
      rw [hMin, if_pos (by omega), hAll, hDiv, Nat.add_sub_cancel_left]
      exact ⟨t, hKept', rfl, rfl⟩
    · -- The window is full, and there is at least one more, empty if the content ends here.
      have hMin : min ((i + 1) * blockSize) content.size = (i + 1) * blockSize := by omega
      have hNext : i + 1 ≤ content.size / blockSize :=
        (Nat.le_div_iff_mul_le blockSize_pos).2 (by omega)
      obtain ⟨u, hLast, hExec, hCalls⟩ := ih hKept' (i := i + 1) (by omega) (by omega)
      have hRange : content.size / blockSize + 1 - i =
          content.size / blockSize + 1 - (i + 1) + 1 := by omega
      rw [hMin, if_neg (by omega), hRange, List.range'_succ, List.map_cons]
      exact ⟨u, hLast, hExec, congrArg _ hCalls⟩

/-- Where the windows of some content are answered, it is read, window by window. -/
theorem get_of_windows {path : String} (hWindows : AnswersWindows h kept (pathOf path) content)
    (hFits : Addressable content) (hKept : kept s) :
    ∃ t, kept t ∧ exec h (FileStore.get path) s = (.ok content, t) ∧
      Program.calls h (FileStore.get path).run s =
        (List.range (content.size / blockSize + 1)).map
          (FileOperation.windowCall (pathOf path)) := by
  have hEnough : content.size / blockSize < 0 + windowLimit := by
    have hSize : content.size < blockSize * (0 + windowLimit) := hFits
    exact Nat.div_lt_of_lt_mul hSize
  have hNothing : content.extract 0 (0 * blockSize) = .empty := by
    simp
  have hRead := readOn_of_windows hWindows hKept (i := 0) (by simp) hEnough
  rwa [hNothing, Nat.sub_zero, ← List.range_eq_range'] at hRead

end Windows

/-- The windows of a file are answered, and no file changes. -/
theorem answersWindows_of_file {files : FileMap} {path : String} {content : ByteArray}
    (hFits : Addressable content) (hFile : files path = some content) :
    AnswersWindows Platform.handler (fun s => s.state.Serving ∧ s.fileMap = files) path
      content := by
  rintro i s hStart ⟨hServing, rfl⟩
  refine ⟨{ s with state := s.state.count "dbfs/read" }, ⟨hServing, rfl⟩, ?_⟩
  -- The offset fits its type because the content can be addressed.
  have hLt : i * blockSize < UInt64.size := Nat.lt_of_le_of_lt hStart hFits
  have hOffset : (UInt64.ofNat (i * blockSize)).toNat = i * blockSize :=
    UInt64.toNat_ofNat_of_lt' hLt
  have hLength : (UInt64.ofNat blockSize).toNat = blockSize := by decide
  have hFind : (s.state.count "dbfs/read").findFile path = .ok content := by
    change (match s.fileMap path with | some content => _ | none => _) = _
    rw [hFile]
  have hPerform : (s.state.count "dbfs/read").performFiles
      (.read path (.ofNat (i * blockSize)) (.ofNat blockSize)) =
        .ok (Platform.window content (i * blockSize) blockSize, s.state.count "dbfs/read") := by
    rw [Platform.performFiles, hFind, hOffset, hLength]
    rfl
  rw [answer_files hServing]
  simp only [FileCall.endpoint, hPerform]

/-- Where no file is, the first window is not found. -/
theorem exec_get_of_none {path : String} (hServing : s.state.Serving)
    (hNone : s.fileMap (pathOf path) = none) :
    exec Platform.handler (FileStore.get path) s =
      (.error (.transport (Platform.noEntry (pathOf path))),
        { s with state := s.state.count "dbfs/read" }) := by
  -- The limit must be seen not to be zero, without counting it down.
  obtain ⟨windows, hWindows⟩ : ∃ windows, windowLimit = windows + 1 := ⟨17592186044415, rfl⟩
  have hFind : (s.state.count "dbfs/read").findFile (pathOf path) =
      .error (Platform.noEntry (pathOf path)) := by
    show (match s.fileMap (pathOf path) with | some content => _ | none => _) = _
    rw [hNone]
  have hAnswer (offset : UInt64) :
      Platform.handler.answer (.files (.read (pathOf path) offset (.ofNat blockSize))) s =
        (.error (Platform.noEntry (pathOf path)),
          { s with state := s.state.count "dbfs/read" }) := by
    rw [answer_files hServing]
    simp only [Platform.performFiles, FileCall.endpoint, hFind]
    rfl
  rw [FileStore.get, hWindows, readOn, Action.exec_bind, Action.exec_ask, hAnswer]
  rfl

/-- A file is read to its end, window by window, and reading changes no file. -/
theorem FileOperation.get_does (path : String) (hServing : s.state.Serving)
    (hFits : ∀ content, s.fileMap (pathOf path) = some content → Addressable content) :
    (get path).Does s.fileMap (exec Platform.handler (get path).action s).1
        (exec Platform.handler (get path).action s).2.fileMap ∧
      (get path).ReadsThrough s := by
  change ((exec Platform.handler (FileStore.get path) s).2.fileMap = s.fileMap ∧
    match s.fileMap (pathOf path) with
    | some content => (exec Platform.handler (FileStore.get path) s).1 = .ok content
    | none => (exec Platform.handler (FileStore.get path) s).1 =
        .error (.transport (Platform.noEntry (pathOf path)))) ∧
    ∀ content, s.fileMap (pathOf path) = some content → _
  cases hFile : s.fileMap (pathOf path) with
  | some content =>
    have hWindows := answersWindows_of_file (hFits content hFile) hFile
    obtain ⟨t, ⟨-, hSame⟩, hExec, hCalls⟩ :=
      get_of_windows hWindows (hFits content hFile) (s := s) ⟨hServing, rfl⟩
    refine ⟨?_, ?_⟩
    · rw [hExec]
      exact ⟨hSame, rfl⟩
    · intro content' hContent
      obtain rfl := Option.some.inj hContent
      exact hCalls
  | none =>
    rw [exec_get_of_none hServing hFile]
    refine ⟨⟨rfl, rfl⟩, ?_⟩
    rintro _ ⟨⟩

/-! ### Writing, moving and deleting -/

theorem fileMap_insert {m : SortedMap String ByteArray} (path : String) (content : ByteArray) :
    (m.insert path content).get? = Function.update m.get? path (some content) := by
  funext file
  rw [SortedMap.get?_insert, Function.update_apply]

theorem fileMap_erase {m : SortedMap String ByteArray} (path : String) :
    (m.erase path).get? = Function.update m.get? path none := by
  funext file
  rw [SortedMap.get?_erase, Function.update_apply]

theorem isBelow_iff {path dir : String} : Path.isBelow path dir = true ↔ LiesBelow path dir := by
  rw [Path.isBelow, List.isPrefixOf_iff_prefix]
  constructor
  · rintro ⟨rest, hRest⟩
    refine ⟨String.ofList rest, String.toList_inj.1 ?_⟩
    rw [String.toList_append, String.toList_append, ← hRest]
    exact congrArg (dir.toList ++ ['/'] ++ ·) String.toList_ofList.symm
  · rintro ⟨rest, rfl⟩
    refine ⟨rest.toList, ?_⟩
    rw [String.toList_append, String.toList_append]
    rfl

/-- Data is written where no file is in the way. -/
theorem FileOperation.put_does (path : String) (data : ByteArray) (overwrite : Bool)
    (hServing : s.state.Serving) :
    (put path data overwrite).Does s.fileMap
      (exec Platform.handler (put path data overwrite).action s).1
      (exec Platform.handler (put path data overwrite).action s).2.fileMap := by
  have hPut := FileStore.put_spec (s := s) path data overwrite
  show if _ then _ else _
  change if (s.state.files.contains (pathOf path)) ∧ overwrite = false then _ else _
  rcases hExec : exec Platform.handler (put path data overwrite).action s with ⟨e | u, t⟩
  · -- Where nothing is refused, an upload fails only because a file is in the way.
    obtain ⟨hTaken, rfl, hFiles⟩ := hPut.of_error hExec hServing
    rw [if_pos hTaken]
    exact ⟨rfl, congrArg SortedMap.get? hFiles⟩
  · obtain ⟨hFiles, hFree⟩ := hPut.of_ok hExec
    rw [if_neg hFree]
    exact ⟨rfl, (congrArg SortedMap.get? hFiles).trans (fileMap_insert _ _)⟩

/-- A file is moved where none is in the way. -/
theorem FileOperation.move_does (source destination : String) (hServing : s.state.Serving) :
    (move source destination).Does s.fileMap
      (exec Platform.handler (move source destination).action s).1
      (exec Platform.handler (move source destination).action s).2.fileMap := by
  let p := s.state.count "dbfs/move"
  -- What the platform does, in terms of the plain map.
  have hMove : p.moveFile (pathOf source) (pathOf destination) =
      if (s.fileMap (pathOf destination)).isSome then
        .error (Platform.entryExists (pathOf destination))
      else
        (match s.fileMap (pathOf source) with
          | some content => .ok content
          | none => .error (Platform.noEntry (pathOf source))) >>= fun content =>
        return ((), { p with files := p.files.erase (pathOf source) }.writeFile
          (pathOf destination) content) := rfl
  show match s.fileMap (pathOf destination), s.fileMap (pathOf source) with
    | some _, _ => _
    | none, none => _
    | none, some content => _
  cases hTaken : s.fileMap (pathOf destination) with
  | some content =>
    rw [hTaken, if_pos Option.isSome_some] at hMove
    have hExec : exec Platform.handler (move source destination).action s = _ :=
      exec_ask_of_error (c := .move _ _) hServing hMove
    rw [hExec]
    exact ⟨rfl, rfl⟩
  | none =>
    rw [hTaken, Option.isSome_none, if_neg Bool.false_ne_true] at hMove
    cases hSource : s.fileMap (pathOf source) with
    | none =>
      rw [hSource] at hMove
      have hExec : exec Platform.handler (move source destination).action s = _ :=
        exec_ask_of_error (c := .move _ _) hServing hMove
      rw [hExec]
      exact ⟨rfl, rfl⟩
    | some content =>
      rw [hSource] at hMove
      have hExec : exec Platform.handler (move source destination).action s = _ :=
        exec_ask_of_ok (c := .move _ _) hServing hMove
      rw [hExec]
      refine ⟨rfl, ?_⟩
      show ((s.state.files.erase (pathOf source)).insert (pathOf destination) content).get? = _
      rw [fileMap_insert, fileMap_erase]
      rfl

/-- Some file is below a directory. -/
theorem any_isBelow_iff {m : SortedMap String ByteArray} {dir : String} :
    m.any (fun file _ => Path.isBelow file dir) = true ↔
      ∃ file, LiesBelow file dir ∧ (m.get? file).isSome := by
  rw [SortedMap.any_key_iff]
  exact exists_congr fun file => and_comm.trans (and_congr_left fun _ => isBelow_iff)

open Classical in
/-- Removing what is below a directory leaves all other files. -/
theorem get?_filter_isBelow {m : SortedMap String ByteArray} (dir file : String) :
    (m.filter fun f _ => !(Path.isBelow f dir)).get? file =
      if LiesBelow file dir then none else m.get? file := by
  rw [SortedMap.get?_filter]
  split
  · next hBelow =>
    have hTest : Path.isBelow file dir = true := isBelow_iff.2 hBelow
    cases m.get? file <;> simp [Option.filter, hTest]
  · next hBelow =>
    have hTest : Path.isBelow file dir = false := Bool.eq_false_iff.2 (mt isBelow_iff.1 hBelow)
    cases m.get? file <;> simp [Option.filter, hTest]

open Classical in
/-- A file or what is below a directory is deleted. -/
theorem FileOperation.delete_does (path : String) (recursive : Bool) (hServing : s.state.Serving) :
    (delete path recursive).Does s.fileMap
      (exec Platform.handler (delete path recursive).action s).1
      (exec Platform.handler (delete path recursive).action s).2.fileMap := by
  let p := s.state.count "dbfs/delete"
  let dir := Path.directory (pathOf path)
  have hDelete : p.deleteFile (pathOf path) recursive =
      if (s.fileMap (pathOf path)).isSome then
        .ok ((), { p with files := p.files.erase (pathOf path) })
      else if !recursive && s.state.files.any fun f _ => Path.isBelow f dir then
        .error (Platform.directoryNotEmpty (pathOf path))
      else
        .ok ((), { p.removeDirs dir with
          files := p.files.filter fun f _ => !(Path.isBelow f dir) }) := rfl
  show if _ then _ else _
  -- A file at the path is meant before a directory.
  cases hFile : (s.fileMap (pathOf path)).isSome with
  | true =>
    rw [hFile, if_pos rfl] at hDelete
    have hExec : exec Platform.handler (delete path recursive).action s = _ :=
      exec_ask_of_ok (c := .delete _ _) hServing hDelete
    rw [hExec, if_pos rfl]
    exact ⟨rfl, fileMap_erase _⟩
  | false =>
    rw [hFile, if_neg Bool.false_ne_true] at hDelete
    rw [if_neg Bool.false_ne_true]
    let rest := s.state.files.filter fun f _ => !(Path.isBelow f dir)
    have hRest (file : String) : rest.get? file =
        if LiesBelow file dir then none else s.fileMap file := get?_filter_isBelow dir file
    cases recursive with
    | true =>
      have hExec : exec Platform.handler (delete path true).action s = _ :=
        exec_ask_of_ok (c := .delete _ _) hServing hDelete
      rw [hExec, if_pos rfl]
      -- Of the root only this is said, as no canonical path begins with its text and another slash.
      split
      · intro file
        show rest.get? file = none ∨ rest.get? file = s.fileMap file
        rw [hRest]
        by_cases hBelow : LiesBelow file dir
        · exact .inl (if_pos hBelow)
        · exact .inr (if_neg hBelow)
      · exact ⟨rfl, hRest⟩
    | false =>
      rw [if_neg Bool.false_ne_true]
      -- Without `recursive` the directory goes only if no file is below it.
      by_cases hBelow : ∃ file, LiesBelow file dir ∧ (s.fileMap file).isSome
      · have hAny := any_isBelow_iff.2 hBelow
        rw [hAny, Bool.not_false, Bool.true_and, if_pos rfl] at hDelete
        have hExec : exec Platform.handler (delete path false).action s = _ :=
          exec_ask_of_error (c := .delete _ _) hServing hDelete
        rw [hExec, if_pos hBelow]
        exact ⟨rfl, fun _ => rfl⟩
      · have hAny := Bool.eq_false_iff.2 (mt any_isBelow_iff.1 hBelow)
        rw [hAny, Bool.not_false, Bool.true_and, if_neg Bool.false_ne_true] at hDelete
        have hExec : exec Platform.handler (delete path false).action s = _ :=
          exec_ask_of_ok (c := .delete _ _) hServing hDelete
        rw [hExec, if_neg hBelow]
        refine ⟨funext fun file => (hRest file).trans ?_, fun _ => rfl⟩
        split
        · next hLies =>
          -- Nothing is below the directory, so nothing has been removed.
          exact (Option.not_isSome_iff_eq_none.1 fun hSome => hBelow ⟨file, hLies, hSome⟩).symm
        · rfl

/-! ### All operations -/

/-- All files can be addressed. -/
def FileMap.Fits (m : FileMap) : Prop :=
  ∀ path content, m path = some content → Addressable content

theorem FileMap.Fits.update {m : FileMap} (hFits : m.Fits) (path : String)
    {content : Option ByteArray} (hNew : ∀ data, content = some data → Addressable data) :
    FileMap.Fits (Function.update m path content) := by
  intro file data hFile
  rw [Function.update_apply] at hFile
  split at hFile
  · exact hNew data hFile
  · exact hFits file data hFile

theorem FileOperation.does (op : FileOperation) (hServing : s.state.Serving)
    (hFits : s.fileMap.Fits) :
    op.Does s.fileMap (exec Platform.handler op.action s).1
      (exec Platform.handler op.action s).2.fileMap ∧ op.ReadsThrough s := by
  cases op with
  | put path data overwrite => exact ⟨put_does path data overwrite hServing, trivial⟩
  | get path => exact get_does path hServing (hFits _)
  | move source destination => exact ⟨move_does source destination hServing, trivial⟩
  | delete path recursive => exact ⟨delete_does path recursive hServing, trivial⟩

/-- Operations write no files that cannot be addressed. -/
theorem FileOperation.Does.fits {op : FileOperation} {before after : FileMap}
    {answer : Except Error op.Answer} (hDoes : op.Does before answer after) (hData : op.Fits)
    (hFits : before.Fits) : after.Fits := by
  cases op with
  | put path data overwrite =>
    simp only [FileOperation.Does] at hDoes
    split at hDoes
    · exact hDoes.2 ▸ hFits
    · exact hDoes.2 ▸ hFits.update _ fun _ h => Option.some.inj h ▸ hData
  | get path =>
    simp only [FileOperation.Does] at hDoes
    exact hDoes.1 ▸ hFits
  | move source destination =>
    simp only [FileOperation.Does] at hDoes
    split at hDoes
    · exact hDoes.2 ▸ hFits
    · exact hDoes.2 ▸ hFits
    · next content _ hSource =>
      have hErased : FileMap.Fits (Function.update before (pathOf source) none) :=
        hFits.update _ nofun
      exact hDoes.2 ▸ hErased.update _ fun _ h => Option.some.inj h ▸ hFits _ _ hSource
  | delete path recursive =>
    simp only [FileOperation.Does] at hDoes
    split at hDoes
    · exact hDoes.2 ▸ hFits.update _ nofun
    · split at hDoes
      · -- Whether it is the root or not, what is left has been there before.
        have hLeft : ∀ file, after file = none ∨ after file = before file := by
          intro file
          split at hDoes
          · exact hDoes file
          · rw [hDoes.2 file]
            split
            · exact .inl rfl
            · exact .inr rfl
        intro file content hFile
        rcases hLeft file with hNone | hSame
        · exact nomatch hNone.symm.trans hFile
        · exact hFits file content (hSame ▸ hFile)
      · exact hDoes.1 ▸ hFits

/-- Operations on the platform follow the plain map of its files. -/
theorem operations_follow_map (hServing : s.state.Serving) (hFiles : s.fileMap.Fits)
    {operations : List FileOperation} (hData : ∀ op ∈ operations, op.Fits) :
    FollowsMap s operations := by
  induction operations generalizing s with
  | nil => trivial
  | cons op rest ih =>
    obtain ⟨hDoes, hReads⟩ := op.does hServing hFiles
    -- Nothing is refused after the operation either, and the files can still be addressed.
    have hServing' := (Platform.serving_run_iff op.action.run s).2 hServing
    have hFiles' := hDoes.fits (hData op List.mem_cons_self) hFiles
    have hData' : ∀ op' ∈ rest, op'.Fits := fun op' hMem => hData op' (List.mem_cons_of_mem _ hMem)
    exact ⟨hDoes, hReads, ih hServing' hFiles' hData'⟩

/-- Two files whose paths begin alike: one is deleted as a directory, then the other is moved to its
path, and what is there is read. -/
def siblingOperations : List FileOperation :=
  [.put "dbfs:/data/part" ⟨#[1, 2]⟩ false, .put "/data/part/0" ⟨#[]⟩ false,
    .put "/data/part2" ⟨#[3]⟩ true, .delete "dbfs:/data/part" false, .delete "/data/part/" true,
    .move "/data/part2" "/data/part", .get "/data/part", .get "dbfs:/data/part/0"]

theorem operations_follow_map_siblings :
    ((⟨{}, ⟨0⟩, .empty⟩ : Simulation Platform).state.Serving ∧
      (⟨{}, ⟨0⟩, .empty⟩ : Simulation Platform).fileMap.Fits ∧
      ∀ op ∈ siblingOperations, op.Fits) ∧
      FollowsMap ⟨{}, ⟨0⟩, .empty⟩ siblingOperations := by
  have hServing : (⟨{}, ⟨0⟩, .empty⟩ : Simulation Platform).state.Serving := fun _ => rfl
  have hFiles : (⟨{}, ⟨0⟩, .empty⟩ : Simulation Platform).fileMap.Fits :=
    fun _ _ hFile => nomatch hFile
  have hData : ∀ op ∈ siblingOperations, op.Fits := by decide
  exact ⟨⟨hServing, hFiles, hData⟩, operations_follow_map hServing hFiles hData⟩

end SparkFleet
