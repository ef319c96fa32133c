import SparkFleet.Proofs.Library.Lookup

/-!
# How an installation goes on

The entry of a library that is installed goes on with the reads of the statuses that are made while
its cluster runs, and with nothing else.  `LibraryProgress.counted` is the entry after `k` such
reads.  What an event makes of the entries of one wire form is derived from what it makes of all
libraries of the cluster (`installation_step`): an event that neither removes the library nor
forces its status reads it or leaves it as it is.

The main statement `installation_moves_forward` takes this through a history.
-/

namespace SparkFleet

namespace LibraryProgress

/-! ### One library -/

/-- An installation that was to last for `n` reads, after `k` of them. -/
def counted (spec : LibrarySpec) (n : Nat) : Nat → LibraryProgress
  | 0 => new spec n
  | k + 1 => ⟨⟨spec, if k < n then .installing else .installed, [], false⟩, n - (k + 1)⟩

theorem observed_counted (spec : LibrarySpec) (n k : Nat) :
    (counted spec n k).observed = counted spec n (k + 1) := by
  cases k with
  | zero =>
    -- This is the read that ends the installation.
    -- The first read turns a pending entry into one that is being installed, or is installed at
    -- once.
    cases n <;> rfl
  | succ k =>
    simp only [counted]
    obtain hLess | hLast := Nat.lt_or_ge k n
    · rw [if_pos hLess]
      obtain ⟨left, rfl⟩ : ∃ left, n = k + 1 + left := ⟨n - (k + 1), by omega⟩
      cases left with
      | zero =>
        rw [if_neg (by omega), show k + 1 + 0 - (k + 1) = 0 by omega,
          show k + 1 + 0 - (k + 1 + 1) = 0 by omega]
        rfl
      | succ left =>
        rw [if_pos (by omega), show k + 1 + (left + 1) - (k + 1) = left + 1 by omega,
          show k + 1 + (left + 1) - (k + 1 + 1) = left by omega]
        rfl
    · rw [if_neg (by omega), if_neg (by omega), show n - (k + 1) = 0 by omega,
        show n - (k + 1 + 1) = 0 by omega]
      rfl

theorem entry_counted (spec : LibrarySpec) (n k : Nat) :
    (counted spec n k).entry =
      ⟨spec, if k = 0 then .pending else if k ≤ n then .installing else .installed, [], false⟩ := by
  cases k <;> rfl

theorem library_counted (spec : LibrarySpec) (n k : Nat) :
    (counted spec n k).entry.library = spec := by
  cases k <;> rfl

/-- An installation that goes on is not marked for removal. -/
theorem counted_ne_marked (spec : LibrarySpec) (n k : Nat) :
    (counted spec n k).entry.status ≠ .uninstallOnRestart := by
  cases k with
  | zero => exact nofun
  | succ k =>
    simp only [counted]
    split <;> exact nofun

/-! ### The entries of one wire form -/

/-- The libraries of a list that have a wire form. -/
def ofSpec (spec : LibrarySpec) (libraries : List LibraryProgress) : List LibraryProgress :=
  libraries.filter (·.entry.library = spec)

section

variable {spec other : LibrarySpec} {libraries : List LibraryProgress} {l : LibraryProgress}

theorem ofSpec_cons_of_eq (hSame : l.entry.library = spec) :
    ofSpec spec (l :: libraries) = l :: ofSpec spec libraries :=
  List.filter_cons_of_pos (decide_eq_true hSame)

theorem ofSpec_cons_of_ne (hOther : l.entry.library ≠ spec) :
    ofSpec spec (l :: libraries) = ofSpec spec libraries :=
  List.filter_cons_of_neg (by simpa using hOther)

/-- What leaves the wire forms is done to the entries of one wire form alike. -/
theorem ofSpec_map {change : LibraryProgress → LibraryProgress}
    (hLibrary : ∀ l, (change l).entry.library = l.entry.library) :
    ofSpec spec (libraries.map change) = (ofSpec spec libraries).map change := by
  rw [ofSpec, List.filter_map]
  refine congrArg _ (List.filter_congr fun l _ => ?_)
  rw [Function.comp_apply, hLibrary]

/-- The installation of another wire form does nothing to the entries of this one. -/
theorem ofSpec_installed_of_ne (reads : Nat) (hOther : other ≠ spec) :
    ofSpec spec (installed reads other libraries) = ofSpec spec libraries := by
  induction libraries with
  | nil => exact ofSpec_cons_of_ne hOther
  | cons first rest ih =>
    rw [installed]
    split
    · -- The entry that is renewed has the other form, and keeps it.
      next hFirst =>
      have hNot : first.entry.library ≠ spec := fun hSpec => hOther (hFirst.symm.trans hSpec)
      rw [ofSpec_cons_of_ne hNot, ofSpec_cons_of_ne (first.library_renewed ▸ hNot)]
    · by_cases hSpec : first.entry.library = spec
      · rw [ofSpec_cons_of_eq hSpec, ofSpec_cons_of_eq hSpec, ih]
      · rw [ofSpec_cons_of_ne hSpec, ofSpec_cons_of_ne hSpec, ih]

/-- The installation of a wire form renews its first entry, or makes the only one. -/
theorem ofSpec_installed_self (reads : Nat) :
    ofSpec spec (installed reads spec libraries) =
      match ofSpec spec libraries with
      | [] => [new spec reads]
      | l :: others => l.renewed :: others := by
  induction libraries with
  | nil => exact ofSpec_cons_of_eq rfl
  | cons first rest ih =>
    rw [installed]
    split
    · next hFirst =>
      rw [ofSpec_cons_of_eq hFirst, ofSpec_cons_of_eq (first.library_renewed.trans hFirst)]
    · next hFirst => rw [ofSpec_cons_of_ne hFirst, ofSpec_cons_of_ne hFirst, ih]

/-- Libraries that are installed leave the only entry of a wire form, unless it is marked for
removal. -/
theorem ofSpec_foldl_installed (reads : Nat) (specs : List LibrarySpec)
    (hThere : ofSpec spec libraries = [l]) (hMarked : l.entry.status ≠ .uninstallOnRestart) :
    ofSpec spec (specs.foldl (fun libraries spec => installed reads spec libraries) libraries) =
      [l] := by
  induction specs generalizing libraries with
  | nil => exact hThere
  | cons other specs ih =>
    refine ih ?_
    -- Even the same form installed again changes nothing, since only a marked entry is renewed.
    by_cases hOther : other = spec
    · subst hOther
      rw [ofSpec_installed_self, hThere]
      simp only [renewed, if_neg hMarked]
    · rw [ofSpec_installed_of_ne reads hOther, hThere]

/-- Libraries that are installed, with a wire form among them that is not there yet. -/
theorem ofSpec_foldl_new (reads : Nat) {specs : List LibrarySpec}
    (hNone : ofSpec spec libraries = []) (hMem : spec ∈ specs) :
    ofSpec spec (specs.foldl (fun libraries spec => installed reads spec libraries) libraries) =
      [new spec reads] := by
  induction specs generalizing libraries with
  | nil => cases hMem
  | cons other specs ih =>
    by_cases hOther : other = spec
    · -- The first time that the form comes makes the entry, and later times leave it.
      subst hOther
      refine ofSpec_foldl_installed reads specs ?_ nofun
      rw [ofSpec_installed_self, hNone]
    · obtain hSame | hRest := List.mem_cons.1 hMem
      · exact absurd hSame.symm hOther
      · exact ih ((ofSpec_installed_of_ne reads hOther).trans hNone) hRest

/-- Marking other libraries does nothing to the entries of a wire form. -/
theorem ofSpec_marked {specs : List LibrarySpec} (status : InstallStatus) (hNot : spec ∉ specs) :
    ofSpec spec (libraries.map (marked specs status)) = ofSpec spec libraries := by
  rw [ofSpec_map (library_marked specs status)]
  refine (List.map_congr_left fun l hMem => ?_).trans (List.map_id _)
  have hLibrary : l.entry.library = spec := of_decide_eq_true (List.mem_filter.1 hMem).2
  rw [marked, hLibrary, if_neg (by simpa using hNot)]
  rfl

/-- Dropping the libraries that are marked for removal leaves an entry that is not. -/
theorem ofSpec_unmarked (hThere : ofSpec spec libraries = [l])
    (hMarked : l.entry.status ≠ .uninstallOnRestart) :
    ofSpec spec (libraries.filter fun l => l.entry.status ≠ .uninstallOnRestart) = [l] := by
  -- The two filters look at different things and can be exchanged.
  have hSwap : ofSpec spec (libraries.filter fun l => l.entry.status ≠ .uninstallOnRestart) =
      (ofSpec spec libraries).filter fun l => l.entry.status ≠ .uninstallOnRestart := by
    rw [ofSpec, ofSpec, List.filter_filter, List.filter_filter]
    exact List.filter_congr fun l _ => Bool.and_comm _ _
  rw [hSwap, hThere]
  exact List.filter_cons_of_pos (decide_eq_true hMarked)

end

end LibraryProgress

namespace Platform

variable {p q : Platform} {id : ClusterId} {spec : LibrarySpec} {e : Event}

/-! ### Reads of the statuses -/

/-- What a read of the statuses of a cluster shows of one wire form. -/
structure StatusRead where
  /-- Whether the cluster is running at the read. -/
  running : Bool
  /-- The entries that have the wire form. -/
  entries : List LibraryEntry
  deriving DecidableEq

/-- What an answered read of the statuses shows of a wire form. -/
def Event.statusShown (id : ClusterId) (spec : LibrarySpec) (p : Platform) :
    Event → List StatusRead
  | .call (.libraries (.clusterStatus other)) =>
    if other = id then
      (p.serve (.libraries (.clusterStatus other))).1.toOption.toList.map fun answer =>
        ⟨p.isRunning id, answer.libraryStatuses.filter (·.library = spec)⟩
    else
      []
  | _ => []

/-- The reads of the statuses in a history that are answered. -/
def statusReads (p : Platform) (id : ClusterId) (spec : LibrarySpec) (history : List Event) :
    List StatusRead :=
  gathered (Event.statusShown id spec) p history

/-- How many of some reads have been made while the cluster was running. -/
def runningReads (reads : List StatusRead) : Nat := reads.countP (·.running)

/-- The event removes the library from the cluster, in an accepted call, or forces its status. -/
def Event.TouchesLibrary (id : ClusterId) (spec : LibrarySpec) (p : Platform) : Event → Prop
  | .call (.libraries (.uninstall other specs)) =>
    other = id ∧ (p.serve (.libraries (.uninstall other specs))).1.isOk ∧ spec ∈ specs
  | .setLibraryStatus other spec' _ => other = id ∧ spec' = spec
  | _ => False

theorem runningReads_cons (read : StatusRead) (reads : List StatusRead) :
    runningReads (read :: reads) = read.running.toNat + runningReads reads := by
  rw [runningReads, List.countP_cons, runningReads]
  cases read.running <;> simp [Nat.add_comm]

/-- The entries that are answered for a wire form are those that the read leaves. -/
theorem entries_answered {answer : ClusterLibraries}
    (hServe : p.serve (.libraries (.clusterStatus id)) = (.ok answer, q)) :
    answer.libraryStatuses.filter (·.library = spec) =
      (LibraryProgress.ofSpec spec (q.librariesOf id)).map (·.entry) := by
  obtain ⟨cluster, -, h⟩ := bind_eq_ok (serve_eq_ok hServe)
  cases h
  rw [librariesOf_insert_libraries, if_pos rfl]
  exact List.filter_map

/-- The entries of a wire form that an event which does not touch the library makes of its only
entry. -/
theorem ofSpec_apply {l : LibraryProgress}
    (hThere : LibraryProgress.ofSpec spec (p.librariesOf id) = [l])
    (hMarked : l.entry.status ≠ .uninstallOnRestart) (hUntouched : ¬e.TouchesLibrary id spec p)
    (hRead : e ≠ .call (.libraries (.clusterStatus id))) :
    LibraryProgress.ofSpec spec ((e.apply p).librariesOf id) = [l] := by
  -- A cluster that comes up drops marked entries, and this one is not marked.
  have hUp (up : Bool) : LibraryProgress.ofSpec spec
      (if up then (p.librariesOf id).filter fun l => l.entry.status ≠ .uninstallOnRestart
        else p.librariesOf id) = [l] := by
    cases up with
    | false => exact hThere
    | true => exact LibraryProgress.ofSpec_unmarked hThere hMarked
  rw [librariesOf_apply]
  cases e with
  | call c =>
    cases c with
    | libraries call =>
      cases call with
      | install other specs =>
        simp only [Event.onLibraries]
        split
        · exact LibraryProgress.ofSpec_foldl_installed p.settleReads specs hThere hMarked
        · exact hThere
      | uninstall other specs =>
        simp only [Event.onLibraries]
        split
        · next hAccepted =>
          have hNot : spec ∉ specs := fun hMem =>
            hUntouched ⟨hAccepted.1, hAccepted.2, hMem⟩
          rw [LibraryProgress.ofSpec_marked _ hNot, hThere]
        · exact hThere
      | clusterStatus other =>
        simp only [Event.onLibraries]
        split
        · -- A read of these statuses is treated apart, by `ofSpec_read`.
          next hAccepted => exact absurd (by rw [hAccepted.1]) hRead
        · exact hThere
    | clusters => exact hUp _
    | jobs | workspace | files => exact hThere
  | setLibraryStatus other spec' status =>
    simp only [Event.onLibraries]
    split
    · next hOther =>
      have hNot : spec ∉ [spec'] := by
        intro hMem
        exact hUntouched ⟨hOther, (List.mem_singleton.1 hMem).symm⟩
      rw [LibraryProgress.ofSpec_marked _ hNot, hThere]
    · exact hThere
  | settleCluster => exact hUp _
  | settleReads | injectFailure | clearFailure | offerVersions | offerNodeTypes | offerZones
  | putCluster | addRunningCluster | failCluster | putJob | putRun | setRunOutput | finishRun
  | addNotebook | addFile => exact hThere

/-- A read of the statuses leaves the only entry of a wire form as it is, or brings it on if the
cluster is running. -/
theorem ofSpec_read {answer : ClusterLibraries} {l : LibraryProgress}
    (hThere : LibraryProgress.ofSpec spec (p.librariesOf id) = [l])
    (hServe : p.serve (.libraries (.clusterStatus id)) = (.ok answer, q)) :
    LibraryProgress.ofSpec spec (q.librariesOf id) =
      [if p.isRunning id then l.observed else l] := by
  have hAccepted : (p.serve (.libraries (.clusterStatus id))).1.isOk = true := by
    rw [hServe]
    rfl
  rw [librariesOf_performLibraries hServe]
  simp only [Event.onLibraries, hAccepted, true_and]
  split
  · rw [LibraryProgress.ofSpec_map LibraryProgress.library_observed, hThere]
    rfl
  · exact hThere

/-- An event that does not touch a library reads its entry or leaves it as it is. -/
theorem installation_step {n k : Nat}
    (hThere : LibraryProgress.ofSpec spec (p.librariesOf id) = [.counted spec n k])
    (hUntouched : ¬e.TouchesLibrary id spec p) :
    (e.statusShown id spec p = [] ∧
        LibraryProgress.ofSpec spec ((e.apply p).librariesOf id) = [.counted spec n k]) ∨
      ∃ running : Bool,
        e.statusShown id spec p =
            [⟨running, [(LibraryProgress.counted spec n (k + running.toNat)).entry]⟩] ∧
          LibraryProgress.ofSpec spec ((e.apply p).librariesOf id) =
            [.counted spec n (k + running.toNat)] := by
  by_cases hRead : e = .call (.libraries (.clusterStatus id))
  · subst hRead
    rcases hServe : p.serve (.libraries (.clusterStatus id)) with ⟨cause | answer, q⟩
    · refine .inl ⟨?_, ?_⟩
      · simp only [Event.statusShown, hServe]
        rfl
      · obtain ⟨rfl, -⟩ := serve_eq_error hServe
        rw [Event.apply, hServe]
        exact hThere
    · -- An answered read shows the entry that it leaves, brought on if the cluster is running.
      have hLeft : LibraryProgress.ofSpec spec (q.librariesOf id) =
          [.counted spec n (k + (p.isRunning id).toNat)] := by
        rw [ofSpec_read hThere hServe]
        cases p.isRunning id with
        | false => rfl
        | true => exact congrArg (fun l => [l]) (LibraryProgress.observed_counted spec n k)
      refine .inr ⟨p.isRunning id, ?_, ?_⟩
      · have hEntries : answer.libraryStatuses.filter (·.library = spec) = _ :=
          entries_answered hServe
        rw [hLeft] at hEntries
        simp only [Event.statusShown, hServe, if_true]
        exact congrArg (fun entries => [(⟨p.isRunning id, entries⟩ : StatusRead)]) hEntries
      · rw [Event.apply, hServe]
        exact hLeft
  · refine .inl ⟨?_, ?_⟩
    · unfold Event.statusShown
      split
      · next other => exact if_neg fun hOther : other = id => hRead (by rw [hOther])
      · rfl
    · exact ofSpec_apply hThere (LibraryProgress.counted_ne_marked spec n k) hUntouched hRead

/-! ### Histories -/

/-- After a history, the entry has been brought on once for each read while the cluster was running,
and each read shows it as it is then. -/
theorem statusReads_after {n k : Nat} {history : List Event}
    (hThere : LibraryProgress.ofSpec spec (p.librariesOf id) = [.counted spec n k])
    (hUntouched : Throughout (fun r e => ¬e.TouchesLibrary id spec r) p history) :
    let reads := p.statusReads id spec history
    LibraryProgress.ofSpec spec ((p.after history).librariesOf id) =
        [.counted spec n (k + runningReads reads)] ∧
      ∀ i (hi : i < reads.length), reads[i].entries =
        [(LibraryProgress.counted spec n (k + runningReads (reads.take (i + 1)))).entry] := by
  intro reads
  induction history generalizing p k with
  | nil => exact ⟨hThere, fun i hi => absurd hi (Nat.not_lt_zero i)⟩
  | cons e history ih =>
    obtain ⟨hFirst, hRest⟩ := hUntouched
    have hReads : reads = e.statusShown id spec p ++ (e.apply p).statusReads id spec history := rfl
    obtain ⟨hNone, hLeft⟩ | ⟨running, hShown, hLeft⟩ := installation_step hThere hFirst
    · rw [hNone, List.nil_append] at hReads
      simp only [hReads]
      exact ih hLeft hRest
    · rw [hShown, List.singleton_append] at hReads
      obtain ⟨hAfter, hLater⟩ := ih hLeft hRest
      simp only [hReads, runningReads_cons, ← Nat.add_assoc]
      -- The first read is this event, and the others are counted from the entry that it leaves.
      refine ⟨hAfter, fun i hi => ?_⟩
      cases i with
      | zero =>
        rw [List.take_succ_cons, runningReads_cons]
        rfl
      | succ i =>
        rw [List.take_succ_cons, runningReads_cons, ← Nat.add_assoc]
        exact hLater i (Nat.lt_of_succ_lt_succ hi)

/-- The reads show the installation of a library with a count of `n`. -/
structure ShowInstallation (spec : LibrarySpec) (n : Nat) (reads : List StatusRead) : Prop where
  /-- The first `n` reads while the cluster is running show that it is being installed, and the next
  one shows that it is. -/
  running : ∀ i (hi : i < reads.length), reads[i].running = true → reads[i].entries =
    [⟨spec, if runningReads (reads.take i) < n then .installing else .installed, [], false⟩]
  /-- After that, every read shows that it is installed, whether or not the cluster is running. -/
  later : ∀ i (hi : i < reads.length), n < runningReads (reads.take i) → reads[i].entries =
    [⟨spec, .installed, [], false⟩]
  /-- Before that, a read while the cluster is not running shows what there was. -/
  resting : ∀ i (hi : i < reads.length), reads[i].running = false →
    runningReads (reads.take i) ≤ n → reads[i].entries =
      [⟨spec, if runningReads (reads.take i) = 0 then .pending else .installing, [], false⟩]

theorem runningReads_take_succ {reads : List StatusRead} {i : Nat} (hi : i < reads.length) :
    runningReads (reads.take (i + 1)) = runningReads (reads.take i) + reads[i].running.toNat := by
  rw [List.take_succ_eq_append_getElem hi, runningReads, List.countP_append]
  cases h : reads[i].running <;> simp [runningReads, h]

/-- Reads that show the entry as it has been brought on show the installation. -/
theorem showInstallation_of_counted {n : Nat} {reads : List StatusRead}
    (hShown : ∀ i (hi : i < reads.length), reads[i].entries =
      [(LibraryProgress.counted spec n (runningReads (reads.take (i + 1)))).entry]) :
    ShowInstallation spec n reads := by
  refine ⟨fun i hi hRunning => ?_, fun i hi hLater => ?_, fun i hi hResting hEarly => ?_⟩
  · -- A read while the cluster is running counts itself.
    rw [hShown i hi, runningReads_take_succ hi, hRunning]
    rfl
  · rw [hShown i hi, runningReads_take_succ hi, LibraryProgress.entry_counted, if_neg (by omega),
      if_neg (by omega)]
  · rw [hShown i hi, runningReads_take_succ hi, hResting, LibraryProgress.entry_counted,
      Bool.toNat_false, Nat.add_zero, if_pos hEarly]

/-- A library that is installed where there is no entry of its wire form begins with the count that
is in force. -/
theorem ofSpec_install {specs : List LibrarySpec} {u : Unit}
    (hServe : p.serve (.libraries (.install id specs)) = (.ok u, q)) (hMem : spec ∈ specs)
    (hNew : spec ∉ p.specsOf id) :
    LibraryProgress.ofSpec spec (q.librariesOf id) = [.counted spec p.settleReads 0] := by
  have hAccepted : (p.serve (.libraries (.install id specs))).1.isOk = true := by
    rw [hServe]
    rfl
  have hNone : LibraryProgress.ofSpec spec (p.librariesOf id) = [] := by
    refine List.filter_eq_nil_iff.2 fun l hl hSpec => hNew ?_
    exact List.mem_map.2 ⟨l, hl, of_decide_eq_true hSpec⟩
  rw [librariesOf_performLibraries hServe]
  simp only [Event.onLibraries, hAccepted, and_self, if_true]
  exact LibraryProgress.ofSpec_foldl_new p.settleReads hNone hMem

/-- On every platform, a library that is newly installed on a cluster while a count of `n` is in
force is there once, until it is removed or its status is forced, whatever else happens.  The first
`n` reads of the statuses that are made while the cluster is running show that it is being
installed, and the next and all later ones that it is installed; reads before that while the cluster
is not running show what there was and do not count.  A read is answered unless its calls are
refused or the cluster is not there. -/
theorem installation_moves_forward {specs : List LibrarySpec} {u : Unit}
    (hServe : p.serve (.libraries (.install id specs)) = (.ok u, q)) (hMem : spec ∈ specs)
    (hNew : spec ∉ p.specsOf id) {history : List Event}
    (hUntouched : Throughout (fun r e => ¬e.TouchesLibrary id spec r) q history) :
    let reads := q.statusReads id spec history
    ShowInstallation spec p.settleReads reads ∧
      LibraryProgress.ofSpec spec ((q.after history).librariesOf id) =
        [.counted spec p.settleReads (runningReads reads)] ∧
      ((q.after history).failure? "libraries/cluster-status" = none →
        (q.after history).clusters.contains id = true →
          ∃ answer, ((q.after history).serve (.libraries (.clusterStatus id))).1 = .ok answer) := by
  intro reads
  obtain ⟨hLeft, hShown⟩ := statusReads_after (ofSpec_install hServe hMem hNew) hUntouched
  simp only [Nat.zero_add] at hLeft hShown
  refine ⟨showInstallation_of_counted hShown, hLeft, fun hServed hThere => ?_⟩
  obtain ⟨answer, r, hAnswer, -⟩ := serve_clusterStatus hServed hThere
  exact ⟨answer, congrArg Prod.fst hAnswer⟩

/-- The cluster restarts while the library is being installed, which is asked for anew, and is
terminated when it is installed; the statuses are read five times. -/
def installedOverRestart : List Event := [
  .call (.libraries (.clusterStatus devCluster.id)),
  .call (.clusters (.restart devCluster.id)),
  .call (.libraries (.clusterStatus devCluster.id)),
  .call (.libraries (.install devCluster.id [trimmed.toSpec])),
  .settleReads 7,
  .settleCluster devCluster.id,
  .call (.libraries (.clusterStatus devCluster.id)),
  .call (.libraries (.clusterStatus devCluster.id)),
  .call (.clusters (.terminate devCluster.id)),
  .call (.libraries (.clusterStatus devCluster.id))]

theorem installation_moves_forward_restart :
    let p := ({} : Platform).after [.addRunningCluster "dev" 2]
    let spec := trimmed.toSpec
    let q := (p.serve (.libraries (.install devCluster.id [spec, spec]))).2
    (p.serve (.libraries (.install devCluster.id [spec, spec])) = (.ok (), q) ∧
      spec ∈ [spec, spec] ∧ spec ∉ p.specsOf devCluster.id ∧
      Throughout (fun r e => ¬e.TouchesLibrary devCluster.id spec r) q installedOverRestart) ∧
      let reads := q.statusReads devCluster.id spec installedOverRestart
      ShowInstallation spec 2 reads ∧
        reads.map (fun read => (read.running, read.entries.map (·.status))) =
          [(true, [.installing]), (false, [.installing]), (true, [.installing]),
            (true, [.installed]), (false, [.installed])] := by
  intro p spec q
  have hServe : p.serve (.libraries (.install devCluster.id [spec, spec])) = (.ok (), q) := by rfl
  have hMem : spec ∈ [spec, spec] := List.mem_cons_self
  have hNew : spec ∉ p.specsOf devCluster.id := List.not_mem_nil
  have hUntouched : Throughout (fun r e => ¬e.TouchesLibrary devCluster.id spec r) q
      installedOverRestart := by
    simp [Throughout, installedOverRestart, Event.TouchesLibrary]
  obtain ⟨hShow, -, -⟩ := installation_moves_forward hServe hMem hNew hUntouched
  refine ⟨⟨hServe, hMem, hNew, hUntouched⟩, hShow, ?_⟩
  decide

end Platform

end SparkFleet
