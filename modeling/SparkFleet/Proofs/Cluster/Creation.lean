import Mathlib.Data.List.Induction
import SparkFleet.Proofs.CatalogReads
import SparkFleet.Proofs.Cluster.FailedCreation
import SparkFleet.Proofs.Cluster.GuardAgrees

/-!
# Creating clusters

A draft is made by any choices, one after the other, and then created.  Each field of the draft is
what was chosen for it last (`ClusterDraft.reflects_make`).  What is left open is settled by what
the session sees of the catalog; `Session.Asks` says which items a program reads on the way and what
comes of it, and `ClusterDraft.asks_resolve` that a draft reads what it leaves open, one item after
the other, as far as it comes.

The main statement `cluster_reads_back` says when a creation succeeds, that the new cluster is what
was chosen, and which calls are made.
-/

namespace SparkFleet

open Platform (OnlyCounted bind_eq_ok)

/-! ### Choices -/

/-- One more choice about a new cluster. -/
inductive ClusterChoice where
  | name (value : String)
  | sparkVersion (key : String)
  | nodeType (id : String)
  | driverNodeType (id : String)
  /-- After how many idle minutes the cluster ends. -/
  | autotermination (minutes : UInt32)
  | customTag (key value : String)
  | sparkConf (key value : String)
  | sparkEnvVar (key value : String)
  | dbfsScript (destination : String)
  | s3Script (destination : String) (region : Option String)
  | zone (id : String)

namespace ClusterChoice

variable {β : Type} {read : ClusterChoice → Option β}

def name? : ClusterChoice → Option String
  | .name value => some value
  | _ => none

/-- What is chosen in place of a default of the catalog. -/
def settled? : CatalogItem → ClusterChoice → Option String
  | .sparkVersions, .sparkVersion key => some key
  | .nodeTypes, .nodeType id => some id
  | .zones, .zone id => some id
  | _, _ => none

def driver? : ClusterChoice → Option String
  | .driverNodeType id => some id
  | _ => none

def minutes? : ClusterChoice → Option UInt32
  | .autotermination minutes => some minutes
  | _ => none

/-- The value that is chosen for a tag. -/
def tag? (key : String) : ClusterChoice → Option String
  | .customTag key' value => if key = key' then some value else none
  | _ => none

/-- The value that is chosen for a runtime setting. -/
def conf? (key : String) : ClusterChoice → Option String
  | .sparkConf key' value => if key = key' then some value else none
  | _ => none

def script? : ClusterChoice → Option InitScript
  | .dbfsScript destination => some { dbfs := some ⟨destination⟩ }
  | .s3Script destination region => some { s3 := some ⟨destination, region⟩ }
  | _ => none

/-- The last of the values that choices give. -/
def last? (read : ClusterChoice → Option β) (choices : List ClusterChoice) : Option β :=
  choices.reverse.findSome? read

theorem last?_concat (choices : List ClusterChoice) (choice : ClusterChoice) :
    last? read (choices ++ [choice]) = (read choice).or (last? read choices) := by
  rw [last?, List.reverse_concat, List.findSome?_cons, last?]
  cases read choice <;> rfl

end ClusterChoice

open ClusterChoice (last? last?_concat)

namespace ClusterDraft

variable {d : ClusterDraft} {size : ClusterSize} {choices : List ClusterChoice}

/-- The draft after a choice. -/
def withChoice (d : ClusterDraft) : ClusterChoice → ClusterDraft
  | .name value => d.withName value
  | .sparkVersion key => d.withSparkVersion key
  | .nodeType id => d.withNodeType id
  | .driverNodeType id => d.withDriverNodeType id
  | .autotermination minutes => d.withAutotermination minutes
  | .customTag key value => d.withCustomTag key value
  | .sparkConf key value => d.withSparkConf key value
  | .sparkEnvVar key value => d.withSparkEnvVar key value
  | .dbfsScript destination => d.withInitScript { dbfs := some ⟨destination⟩ }
  | .s3Script destination region => d.withInitScript { s3 := some ⟨destination, region⟩ }
  | .zone id => d.withZone id

/-- The draft of a size after any choices. -/
def make (size : ClusterSize) (choices : List ClusterChoice) : ClusterDraft :=
  choices.foldl withChoice { size := size }

theorem make_concat (choices : List ClusterChoice) (choice : ClusterChoice) :
    make size (choices ++ [choice]) = (make size choices).withChoice choice := by
  rw [make, List.foldl_append]
  rfl

/-- What the draft says in place of a default of the catalog. -/
def chosen? (d : ClusterDraft) : CatalogItem → Option String
  | .sparkVersions => d.spec.sparkVersion
  | .nodeTypes => d.spec.nodeTypeId
  | .zones => d.zone

/-- The draft of a size says what has been chosen last, and has all scripts in their order. -/
structure Reflects (d : ClusterDraft) (size : ClusterSize) (choices : List ClusterChoice) :
    Prop where
  size : d.size = size
  name : d.spec.clusterName = last? ClusterChoice.name? choices
  chosen (i : CatalogItem) : d.chosen? i = last? (ClusterChoice.settled? i) choices
  driver : d.spec.driverNodeTypeId = last? ClusterChoice.driver? choices
  minutes : d.spec.autoterminationMinutes = last? ClusterChoice.minutes? choices
  tags (key : String) : d.spec.customTags.get? key = last? (ClusterChoice.tag? key) choices
  conf (key : String) : d.spec.sparkConf.get? key = last? (ClusterChoice.conf? key) choices
  scripts : d.spec.initScripts = choices.filterMap ClusterChoice.script?
  unplaced : d.spec.awsAttributes = none

/-- A choice changes the field that it is about. -/
theorem Reflects.withChoice (hDraft : d.Reflects size choices) (choice : ClusterChoice) :
    (d.withChoice choice).Reflects size (choices ++ [choice]) where
  size := by cases choice <;> exact hDraft.size
  name := by
    rw [last?_concat, ← hDraft.name]
    cases choice <;> rfl
  chosen i := by
    rw [last?_concat, ← hDraft.chosen i]
    cases choice <;> cases i <;> rfl
  driver := by
    rw [last?_concat, ← hDraft.driver]
    cases choice <;> rfl
  minutes := by
    rw [last?_concat, ← hDraft.minutes]
    cases choice <;> rfl
  tags key := by
    rw [last?_concat, ← hDraft.tags key]
    cases choice with
    | customTag key' value =>
      -- The only choice about tags; the one that is inserted last is found.
      refine (SortedMap.get?_insert ..).trans ?_
      rw [ClusterChoice.tag?]
      split <;> rfl
    | _ => rfl
  conf key := by
    rw [last?_concat, ← hDraft.conf key]
    cases choice with
    | sparkConf key' value =>
      refine (SortedMap.get?_insert ..).trans ?_
      rw [ClusterChoice.conf?]
      split <;> rfl
    | _ => rfl
  scripts := by
    rw [List.filterMap_append, ← hDraft.scripts]
    cases choice <;> first | rfl | exact (List.append_nil _).symm
  unplaced := by cases choice <;> exact hDraft.unplaced

theorem reflects_make (size : ClusterSize) (choices : List ClusterChoice) :
    (make size choices).Reflects size choices := by
  induction choices using List.reverseRecOn with
  | nil =>
    have hOpen (i : CatalogItem) : (make size []).chosen? i = none := by cases i <;> rfl
    exact ⟨rfl, rfl, hOpen, rfl, rfl, fun _ => rfl, fun _ => rfl, rfl, rfl⟩
  | append_singleton choices choice ih =>
    -- The induction runs from the end, since the choice that is made last is the one that stands.
    rw [make_concat]
    exact ih.withChoice choice

end ClusterDraft

/-! ### Asking for what is left open -/

variable {known known' : Catalog} {s t : Simulation Platform} {i : CatalogItem}
  {items items' : List CatalogItem}

namespace CatalogItem

/-- What the platform answers where the item is read. -/
def offer (p : Platform) : (i : CatalogItem) → i.call.Answer
  | .sparkVersions => p.sparkVersions
  | .nodeTypes => p.nodeTypes
  | .zones => p.zones

/-- What a session sees of the item: what it knows, or else what is on offer. -/
def seen (i : CatalogItem) (known : Catalog) (p : Platform) : i.Value :=
  (i.known? known).getD (i.decode (i.offer p))

/-- The default that the session sees. -/
def default? : (i : CatalogItem) → Catalog → Platform → Option String
  | .sparkVersions, known, p => (sparkVersions.seen known p).default?.map (·.key)
  | .nodeTypes, known, p => (nodeTypes.seen known p).defaultId
  | .zones, known, p => (zones.seen known p).defaultZone

/-- The call that is made where the item is asked for, unless it is known. -/
def reading (i : CatalogItem) (known : Catalog) (p : Platform) : List Exchange :=
  if (i.known? known).isSome then [] else [⟨i.call, .ok (i.offer p)⟩]

theorem serve_call (hServing : s.state.Serving) (i : CatalogItem) :
    s.state.serve i.call = (.ok (i.offer s.state), s.state.count i.call.endpoint) := by
  refine Platform.serve_of_ok (hServing _) ?_
  cases i <;> rfl

end CatalogItem

/-- Items have been asked for and nothing else has been done: the platform has only counted, and
the session sees what it saw before. -/
structure SameView (items : List CatalogItem) (known : Catalog) (s : Simulation Platform)
    (known' : Catalog) (t : Simulation Platform) : Prop where
  counted : s.state.OnlyCounted t.state
  seen (i : CatalogItem) : i.seen known' t.state = i.seen known s.state
  others (i : CatalogItem) (hOther : i ∉ items) : i.known? known' = i.known? known

namespace SameView

variable (hSame : SameView items known s known' t)

theorem refl : SameView [] known s known s := ⟨.refl _, fun _ => rfl, fun _ _ => rfl⟩

include hSame

theorem trans {known'' : Catalog} {u : Simulation Platform}
    (hNext : SameView items' known' t known'' u) :
    SameView (items ++ items') known s known'' u where
  counted := hSame.counted.trans hNext.counted
  seen i := (hNext.seen i).trans (hSame.seen i)
  others i hOther := by
    rw [List.mem_append, not_or] at hOther
    exact (hNext.others i hOther.2).trans (hSame.others i hOther.1)

theorem mono (hItems : items ⊆ items') : SameView items' known s known' t :=
  ⟨hSame.counted, hSame.seen, fun i hOther => hSame.others i fun hMem => hOther (hItems hMem)⟩

theorem serving (hServing : s.state.Serving) : t.state.Serving :=
  fun endpoint => (hSame.counted.failure? endpoint).trans (hServing endpoint)

/-- An item that has not been asked for is still to be read where it was. -/
theorem reading (hOther : i ∉ items) : i.reading known' t.state = i.reading known s.state := by
  have hCounted : t.state = { s.state with calls := t.state.calls } := hSame.counted
  have hOffer : i.offer t.state = i.offer s.state := by
    rw [hCounted]
    cases i <;> rfl
  rw [CatalogItem.reading, CatalogItem.reading, hSame.others i hOther, hOffer]

end SameView

namespace Session

variable {α β : Type} {act : Session α} {result : Except Error α} {reads reads' : List Exchange}

/-- A program asks for items and gives a result.  It makes the calls of a list, as far as it
comes. -/
structure Asks (act : Session α) (items : List CatalogItem) (known : Catalog)
    (s : Simulation Platform) (result : Except Error α) (reads : List Exchange) : Prop where
  ends : ∃ known' t, act.exec Platform.handler known s = ((result, known'), t) ∧
    SameView items known s known' t
  calls : act.exchanges Platform.handler known s <+: reads
  all : ∀ a, result = .ok a → act.exchanges Platform.handler known s = reads

theorem asks_pure (a : α) : (pure a : Session α).Asks [] known s (.ok a) [] :=
  ⟨⟨known, s, rfl, .refl⟩, List.nil_prefix, fun _ _ => rfl⟩

theorem asks_ofExcept (result : Except Error α) :
    (Session.act (.ofExcept result)).Asks [] known s result [] :=
  ⟨⟨known, s, rfl, .refl⟩, List.nil_prefix, fun _ _ => rfl⟩

/-- A program that fails asks for nothing. -/
theorem asks_throw (e : Error) (reads : List Exchange) :
    (throw e : Session α).Asks [] known s (.error e) reads :=
  ⟨⟨known, s, rfl, .refl⟩, List.nil_prefix, nofun⟩

theorem Asks.bind {f : α → Session β} {next : α → Except Error β}
    (hAct : act.Asks items known s result reads)
    (hNext : ∀ a known' t, SameView items known s known' t →
      (f a).Asks items' known' t (next a) reads') :
    (act >>= f).Asks (items ++ items') known s (result >>= next) (reads ++ reads') := by
  obtain ⟨known', t, hExec, hSame⟩ := hAct.ends
  have hCalls := Session.exchanges_bind Platform.handler act f known s
  cases result with
  | error e =>
    -- Nothing more is asked for, so the calls are only the beginning of the list.
    rw [hExec, List.append_nil] at hCalls
    refine ⟨⟨known', t, ?_, hSame.mono (List.subset_append_left _ _)⟩, ?_, nofun⟩
    · rw [Session.exec_bind, hExec]
      rfl
    · rw [hCalls]
      exact hAct.calls.trans (List.prefix_append _ _)
  | ok a =>
    have hRest := hNext a known' t hSame
    obtain ⟨known'', u, hExec', hSame'⟩ := hRest.ends
    rw [hExec, hAct.all a rfl] at hCalls
    refine ⟨⟨known'', u, ?_, hSame.trans hSame'⟩, ?_, fun b hOk => ?_⟩
    · rw [Session.exec_bind, hExec]
      exact hExec'
    · rw [hCalls]
      exact (List.prefix_append_right_inj _).2 hRest.calls
    · rw [hCalls]
      exact congrArg _ (hRest.all b hOk)

/-- An item is given as the session sees it. -/
theorem asks_access (hServing : s.state.Serving) (known : Catalog) (i : CatalogItem) :
    i.access.Asks [i] known s (.ok (i.seen known s.state)) (i.reading known s.state) := by
  unfold CatalogItem.seen CatalogItem.reading
  cases hKnown : i.known? known with
  | some v =>
    obtain ⟨hExec, hCalls⟩ := CatalogItem.access_of_known (h := Platform.handler) (s := s) hKnown
    exact ⟨⟨known, s, hExec, .refl _, fun _ => rfl, fun _ _ => rfl⟩, hCalls ▸ List.nil_prefix,
      fun _ _ => hCalls⟩
  | none =>
    have hAnswer := Platform.answer_handler (i.serve_call hServing)
    obtain ⟨hExec, hCalls⟩ := CatalogItem.access_of_unknown (h := Platform.handler) (s := s) hKnown
    rw [hAnswer] at hExec hCalls
    refine ⟨⟨_, _, hExec, (OnlyCounted.refl _).count _, fun j => ?_, fun j hOther => ?_⟩,
      hCalls ▸ List.prefix_rfl, fun _ _ => hCalls⟩
    · -- The item that was read is kept as it was on offer, so the session sees it as before.
      by_cases hSame : j = i
      · subst hSame
        rw [CatalogItem.seen, CatalogItem.known?_keep_self, CatalogItem.seen, hKnown]
        rfl
      · rw [CatalogItem.seen, CatalogItem.known?_keep_of_ne (Ne.symm hSame)]
        cases j <;> rfl
    · exact CatalogItem.known?_keep_of_ne (Ne.symm (List.ne_of_not_mem_cons hOther)) _ known

end Session

namespace ClusterDraft

variable {β : Type} {d : ClusterDraft} {size : ClusterSize} {choices : List ClusterChoice}
  {spec : ClusterSpec} {p : Platform}

/-- The choice of a draft, or else what the session sees makes it. -/
def settle (chosen : Option β) (i : CatalogItem) (offered : i.Value → Except Error β)
    (known : Catalog) (p : Platform) : Except Error β :=
  match chosen with
  | some b => .ok b
  | none => offered (i.seen known p)

/-- The call that is made where the draft leaves an item open that is not known. -/
def openReading (chosen : Option β) (i : CatalogItem) (known : Catalog) (p : Platform) :
    List Exchange :=
  if chosen.isSome then [] else i.reading known p

theorem asks_choose (hServing : s.state.Serving) (known : Catalog) (chosen : Option β)
    (i : CatalogItem) (offered : i.Value → Except Error β) :
    (choose chosen i offered).Asks [i] known s (settle chosen i offered known s.state)
      (openReading chosen i known s.state) := by
  cases chosen with
  | some b =>
    have hSame : SameView [i] known s known s := SameView.refl.mono (List.nil_subset _)
    exact ⟨⟨known, s, rfl, hSame⟩, List.nil_prefix, fun _ _ => rfl⟩
  | none =>
    have hNext (v : i.Value) (known' : Catalog) (t : Simulation Platform)
        (_ : SameView [i] known s known' t) :
        (Session.act (.ofExcept (offered v))).Asks [] known' t (offered v) [] :=
      Session.asks_ofExcept (offered v)
    have hAsks := (Session.asks_access hServing known i).bind hNext
    rwa [List.append_nil, List.append_nil] at hAsks

/-- What has been asked for before does not matter to a choice about something else. -/
theorem asks_choose_after (hServing : s.state.Serving) (hSame : SameView items known s known' t)
    (hOther : i ∉ items) (chosen : Option β) (offered : i.Value → Except Error β) :
    (choose chosen i offered).Asks [i] known' t (settle chosen i offered known s.state)
      (openReading chosen i known s.state) := by
  have hAsks := asks_choose (hSame.serving hServing) known' chosen i offered
  unfold settle openReading at hAsks ⊢
  rwa [hSame.seen, hSame.reading hOther] at hAsks

/-- The calls that read what the draft leaves open. -/
def reads (d : ClusterDraft) (known : Catalog) (p : Platform) : List Exchange :=
  [.sparkVersions, .nodeTypes, .zones].flatMap fun i => openReading (d.chosen? i) i known p

/-- The specification of a draft, its open choices made by what the session sees. -/
def settled (d : ClusterDraft) (known : Catalog) (p : Platform) : Except Error ClusterSpec := do
  d.size.validate
  let version ← settle d.spec.sparkVersion .sparkVersions offeredVersion known p
  let nodeType ← settle d.spec.nodeTypeId .nodeTypes offeredNodeType known p
  let zone ← settle (d.zone.map some) .zones (fun zones => .ok zones.defaultZone) known p
  return d.resolved version nodeType zone

/-- A draft reads what it leaves open, as far as it comes. -/
theorem asks_resolve (hServing : s.state.Serving) (d : ClusterDraft) (known : Catalog) :
    d.resolve.Asks [.sparkVersions, .nodeTypes, .zones] known s (d.settled known s.state)
      (d.reads known s.state) := by
  have hZone : openReading (d.zone.map some) .zones known s.state =
      openReading d.zone .zones known s.state := by
    rw [openReading, Option.isSome_map, openReading]
  unfold resolve settled reads
  rw [resolveSparkVersion_eq, resolveNodeType_eq, resolveZone_eq]
  -- The three items differ, so the answer to one question does not change the next.
  refine (Session.asks_ofExcept _).bind fun _ known₁ t₁ hFirst => ?_
  refine (asks_choose_after hServing hFirst List.not_mem_nil _ _).bind
    fun version known₂ t₂ hVersion => ?_
  have hSecond := hFirst.trans hVersion
  refine (asks_choose_after hServing hSecond (by decide) _ _).bind
    fun nodeType known₃ t₃ hNodeType => ?_
  have hThird := hSecond.trans hNodeType
  have hLast := asks_choose_after (i := .zones) hServing hThird (by decide) (d.zone.map some)
    fun zones => .ok zones.defaultZone
  rw [hZone] at hLast
  exact hLast.bind fun zone _ _ _ => Session.asks_pure (d.resolved version nodeType zone)

/-! ### Open choices -/

theorem settle_sparkVersion_eq_ok_iff {version : String} :
    settle d.spec.sparkVersion .sparkVersions offeredVersion known p = .ok version ↔
      (d.chosen? .sparkVersions).or (CatalogItem.sparkVersions.default? known p) =
        some version := by
  simp only [settle, chosen?, offeredVersion, CatalogItem.default?]
  cases d.spec.sparkVersion with
  | some key => simp
  | none => cases (CatalogItem.sparkVersions.seen known p).default? <;> simp

theorem settle_nodeType_eq_ok_iff {nodeType : String} :
    settle d.spec.nodeTypeId .nodeTypes offeredNodeType known p = .ok nodeType ↔
      (d.chosen? .nodeTypes).or (CatalogItem.nodeTypes.default? known p) = some nodeType := by
  simp only [settle, chosen?, offeredNodeType, CatalogItem.default?]
  cases d.spec.nodeTypeId with
  | some id => simp
  | none => cases (CatalogItem.nodeTypes.seen known p).defaultId <;> simp

theorem settle_zone :
    settle (d.zone.map some) .zones (fun zones => .ok zones.defaultZone) known p =
      .ok ((d.chosen? .zones).or (CatalogItem.zones.default? known p)) := by
  unfold settle chosen? CatalogItem.default?
  cases d.zone <;> simp

/-- The specification of a draft with the choices that are made for it in place of defaults. -/
theorem settled_eq_ok_iff :
    d.settled known p = .ok spec ↔
      d.size.validate = .ok () ∧ ∃ version nodeType,
        (d.chosen? .sparkVersions).or (CatalogItem.sparkVersions.default? known p) = some version ∧
        (d.chosen? .nodeTypes).or (CatalogItem.nodeTypes.default? known p) = some nodeType ∧
        spec = d.resolved version nodeType
          ((d.chosen? .zones).or (CatalogItem.zones.default? known p)) := by
  constructor
  · intro hSettled
    obtain ⟨_, hSize, hSettled⟩ := bind_eq_ok hSettled
    obtain ⟨version, hVersion, hSettled⟩ := bind_eq_ok hSettled
    obtain ⟨nodeType, hNodeType, hSettled⟩ := bind_eq_ok hSettled
    rw [settle_zone] at hSettled
    exact ⟨hSize, version, nodeType, settle_sparkVersion_eq_ok_iff.1 hVersion,
      settle_nodeType_eq_ok_iff.1 hNodeType, (Except.ok.inj hSettled).symm⟩
  · rintro ⟨hSize, version, nodeType, hVersion, hNodeType, rfl⟩
    rw [settled, hSize, settle_sparkVersion_eq_ok_iff.2 hVersion,
      settle_nodeType_eq_ok_iff.2 hNodeType, settle_zone]
    rfl

/-- The specification of a draft that places no nodes but by its zone. -/
theorem resolved_eq (hUnplaced : d.spec.awsAttributes = none) (version nodeType : String)
    (zone : Option String) :
    d.resolved version nodeType zone = { d.spec with
      numWorkers := d.size.toParts.1
      autoscale := d.size.toParts.2
      sparkVersion := some version
      nodeTypeId := some nodeType
      awsAttributes := zone.map fun zone => { zoneId := some zone } } := by
  cases zone with
  | none => simp [resolved, placedIn, hUnplaced]
  | some zone => simp [resolved, placedIn, hUnplaced]

end ClusterDraft

/-! ### The new cluster -/

namespace Platform

variable {p : Platform} {spec : ClusterSpec}

/-- The record of a new cluster as it is read first. -/
def firstRecord (p : Platform) (spec : ClusterSpec) : ClusterRecord :=
  let record := newCluster p.nextClusterId spec
  if p.settleReads = 0 then record.inState .running else record

/-- A read may bring up a new cluster, and changes nothing else of its record. -/
theorem firstRecord_frame (p : Platform) (spec : ClusterSpec) :
    p.firstRecord spec = { newCluster p.nextClusterId spec with
      state := if p.settleReads = 0 then .running else .pending
      driver := (p.firstRecord spec).driver
      executors := (p.firstRecord spec).executors } := by
  unfold firstRecord
  split <;> rfl

/-- A specification with a version, a node type and the two fields of a size is accepted. -/
theorem createCluster_eq (hVersion : spec.sparkVersion.isSome) (hNodeType : spec.nodeTypeId.isSome)
    {size : ClusterSize} (hSize : (spec.numWorkers, spec.autoscale) = size.toParts) :
    p.createCluster spec = .ok (p.nextClusterId, p.withNewCluster spec) := by
  have hNamed : (spec.sparkVersion.isNone || spec.nodeTypeId.isNone) = false := by
    rw [Option.isNone_eq_false_iff.2 hVersion, Option.isNone_eq_false_iff.2 hNodeType]
    rfl
  have hSized : (spec.numWorkers.isSome == spec.autoscale.isSome) = false := by
    obtain ⟨hWorkers, hBounds⟩ := Prod.mk.inj hSize
    rw [hWorkers, hBounds]
    cases size <;> rfl
  simp only [createCluster, hNamed, hSized]
  rfl

/-- What is counted does not matter to the record of a new cluster. -/
theorem OnlyCounted.firstRecord {q : Platform} (hOnly : OnlyCounted p q) (spec : ClusterSpec) :
    q.firstRecord spec = p.firstRecord spec := by
  unfold OnlyCounted at hOnly
  rw [hOnly]
  rfl

/-- A new cluster is read as it was created, and runs already if nothing takes time. -/
theorem serve_get_new (hServing : p.Serving) (spec : ClusterSpec) :
    ∃ q, (p.withNewCluster spec).serve (.clusters (.get p.nextClusterId)) =
      (.ok (p.firstRecord spec), q) := by
  let entry : ClusterEntry :=
    ⟨{ newCluster p.nextClusterId spec with state := .pending }, some ⟨.running, p.settleReads⟩⟩
  have hGet : (p.withNewCluster spec).clusters.get? p.nextClusterId = some entry :=
    (SortedMap.get?_insert ..).trans (if_pos rfl)
  -- The first read ends the change only if no read has to be waited for.
  have hRead : entry.observed.record = p.firstRecord spec := by
    simp only [entry, ClusterEntry.observed, firstRecord]
    cases p.settleReads <;> rfl
  have hServed : (p.withNewCluster spec).Serving := hServing.of_failures rfl
  exact ⟨_, hRead ▸ (serve_get hServed hGet).1⟩

end Platform

namespace Cluster

/-- A handle is made with one call. -/
theorem get_of_ok {id : ClusterId} {record : ClusterRecord} {q : Platform}
    (hServe : s.state.serve (.clusters (.get id)) = (.ok record, q)) :
    Action.exec Platform.handler (Cluster.get id) s = (.ok ⟨record⟩, { s with state := q }) ∧
      Program.exchanges Platform.handler (Cluster.get id).run s =
        [⟨.clusters (.get id), .ok record⟩] := by
  obtain ⟨hExec, hCalls⟩ := Action.ask_bind_of_ok (Platform.answer_handler hServe)
    fun record : ClusterRecord => (pure ⟨record⟩ : Action Cluster)
  rw [Cluster.get, Action.exec_within, Action.exchanges_within, hExec, hCalls]
  exact ⟨rfl, rfl⟩

end Cluster

namespace ClusterDraft

variable {d : ClusterDraft} {size : ClusterSize} {choices : List ClusterChoice}
  {spec : ClusterSpec}

/-- The specification of a draft is accepted. -/
theorem createCluster_resolved {p : Platform} (d : ClusterDraft) (version nodeType : String)
    (zone : Option String) :
    p.createCluster (d.resolved version nodeType zone) =
      .ok (p.nextClusterId, p.withNewCluster (d.resolved version nodeType zone)) := by
  refine Platform.createCluster_eq ?_ ?_ (?_ : _ = d.size.toParts) <;> cases zone <;> rfl

theorem prepare_of_named (hNamed : d.spec.clusterName.getD "" ≠ "") : d.prepare = d.resolve := by
  rw [prepare, if_neg hNamed]

/-- Without a name, or with bounds out of order, nothing is asked for. -/
theorem asks_prepare_of_wrong
    (hWrong : d.spec.clusterName.getD "" = "" ∨ ¬d.size.validate = .ok ()) (known : Catalog)
    (s : Simulation Platform) : ∃ e, d.prepare.Asks [] known s (.error e) [] := by
  unfold prepare
  split
  · exact ⟨_, Session.asks_throw _ _⟩
  · next hNamed =>
    unfold resolve
    cases hSize : d.size.validate with
    | ok u => exact absurd hSize (hWrong.resolve_left hNamed)
    | error e => exact ⟨e, Session.asks_throw _ _⟩

/-- Where a choice cannot be made, no more is asked for than what the draft leaves open. -/
theorem asks_prepare_of_unsettled (hServing : s.state.Serving)
    (hNot : ¬(d.spec.clusterName.getD "" ≠ "" ∧ ∃ spec, d.settled known s.state = .ok spec)) :
    ∃ items e, d.prepare.Asks items known s (.error e) (d.reads known s.state) := by
  unfold prepare
  split
  · exact ⟨[], _, Session.asks_throw _ _⟩
  · next hNamed =>
    have hAsks := d.asks_resolve hServing known
    cases hSettled : d.settled known s.state with
    | ok spec => exact absurd ⟨hNamed, spec, hSettled⟩ hNot
    | error e => exact ⟨_, e, hSettled ▸ hAsks⟩

/-- A creation that fails before it asks for the cluster makes no call after that. -/
theorem create_of_unprepared {e : Error} {reads : List Exchange}
    (hPrepare : d.prepare.Asks items known s (.error e) reads) :
    (d.create.exec Platform.handler known s).1.1 = .error (e.within .cluster) ∧
      d.create.exchanges Platform.handler known s <+: reads := by
  obtain ⟨known', t, hExec, -⟩ := hPrepare.ends
  rw [create_eq, Session.exec_within, Session.exchanges_within, Session.exec_bind,
    Session.exchanges_bind, hExec, List.append_nil]
  exact ⟨rfl, hPrepare.calls⟩

/-- Where all choices can be made, the cluster is created and read. -/
theorem create_of_settled (hServing : s.state.Serving)
    (hNamed : d.spec.clusterName.getD "" ≠ "") (hSettled : d.settled known s.state = .ok spec) :
    (d.create.exec Platform.handler known s).1.1 = .ok ⟨s.state.firstRecord spec⟩ ∧
      d.create.exchanges Platform.handler known s = d.reads known s.state ++
        [⟨.clusters (.create spec), .ok s.state.nextClusterId⟩,
          ⟨.clusters (.get s.state.nextClusterId), .ok (s.state.firstRecord spec)⟩] := by
  have hAsks := d.asks_resolve hServing known
  rw [hSettled] at hAsks
  obtain ⟨known', t, hExec, hSame⟩ := hAsks.ends
  -- The platform that the cluster is created on has only counted since the first call.
  let p := t.state.count "clusters/create"
  have hServed : p.Serving := hSame.serving hServing
  have hCounted : s.state.OnlyCounted p := hSame.counted.count "clusters/create"
  have hAccepted : p.createCluster spec = .ok (p.nextClusterId, p.withNewCluster spec) := by
    obtain ⟨-, version, nodeType, -, -, rfl⟩ := settled_eq_ok_iff.1 hSettled
    exact d.createCluster_resolved version nodeType _
  have hCreate : t.state.serve (.clusters (.create spec)) =
      (.ok p.nextClusterId, p.withNewCluster spec) := Platform.serve_of_ok (hServed _) hAccepted
  obtain ⟨q, hGet⟩ := Platform.serve_get_new hServed spec
  rw [hCounted.firstRecord] at hGet
  obtain ⟨hCreated, hCalls⟩ :=
    Action.ask_bind_of_ok (Platform.answer_handler hCreate) Cluster.get
  obtain ⟨hRead, hReadCalls⟩ :=
    Cluster.get_of_ok (s := { t with state := p.withNewCluster spec }) hGet
  rw [hRead] at hCreated
  rw [hReadCalls, hCounted.nextClusterId] at hCalls
  rw [create_eq, prepare_of_named hNamed, Session.exec_within, Session.exchanges_within,
    Session.exec_bind, Session.exchanges_bind, hExec, hAsks.all spec rfl]
  simp only [Session.exec_act, Session.exchanges_act, hCreated, hCalls]
  exact ⟨rfl, trivial⟩

end ClusterDraft

/-! ### What is created -/

/-- The bounds of a size are in order. -/
def ClusterSize.Ordered : ClusterSize → Prop
  | .fixed _ => True
  | .autoscale least greatest => least ≤ greatest

instance : (size : ClusterSize) → Decidable size.Ordered
  | .fixed _ => .isTrue trivial
  | .autoscale least greatest => inferInstanceAs (Decidable (least ≤ greatest))

theorem ClusterSize.validate_eq_ok_iff {size : ClusterSize} :
    size.validate = .ok () ↔ size.Ordered := by
  cases size with
  | fixed workers => exact iff_of_true rfl trivial
  | autoscale least greatest =>
    rw [validate, Ordered, ← UInt32.not_lt]
    by_cases hLess : greatest < least
    · simp [hLess]
    · simp [hLess]

namespace ClusterChoice

variable (choices : List ClusterChoice) (known : Catalog) (p : Platform)

/-- What has been chosen, or else the default that the session sees. -/
def orDefault (i : CatalogItem) : Option String :=
  (last? (settled? i) choices).or (i.default? known p)

/-- The calls that read what is left open and not known. -/
def openReads : List Exchange :=
  [.sparkVersions, .nodeTypes, .zones].flatMap fun i =>
    if (last? (settled? i) choices).isSome then [] else i.reading known p

/-- What it takes to create a cluster of a size: a name, bounds in order, and a default for the
version and the node type where none is chosen. -/
structure Creatable (size : ClusterSize) : Prop where
  named : ∃ name, last? name? choices = some name ∧ name ≠ ""
  ordered : size.Ordered
  settled (i : CatalogItem) (hItem : i ≠ .zones) (hOpen : last? (settled? i) choices = none) :
    (i.default? known p).isSome = true

/-- The record is what has been chosen. -/
structure ReadBack (r : ClusterRecord) : Prop where
  name : r.clusterName = last? name? choices
  sparkVersion : r.sparkVersion = orDefault choices known p .sparkVersions
  nodeType : r.nodeTypeId = orDefault choices known p .nodeTypes
  /-- The driver is of the type of the workers unless another has been chosen. -/
  driver : r.driverNodeTypeId = (last? driver? choices).or r.nodeTypeId
  minutes : r.autoterminationMinutes = last? minutes? choices
  tags (key : String) : r.customTags.get? key = last? (tag? key) choices
  conf (key : String) : r.sparkConf.get? key = last? (conf? key) choices
  scripts : r.initScripts = choices.filterMap script?
  zone : r.awsAttributes =
    (orDefault choices known p .zones).map fun zone => { zoneId := some zone }
  state : r.state = if p.settleReads = 0 then .running else .pending

/-- What is read is on offer. -/
theorem filter_openReads :
    (openReads choices known p).filter (·.call.readsOffer) = openReads choices known p := by
  refine List.filter_eq_self.2 fun x hMem => ?_
  obtain ⟨i, -, hMem⟩ := List.mem_flatMap.1 hMem
  split at hMem
  · cases hMem
  · unfold CatalogItem.reading at hMem
    split at hMem
    · cases hMem
    · rw [List.mem_singleton.1 hMem]
      cases i <;> rfl

end ClusterChoice

open ClusterChoice (openReads orDefault Creatable ReadBack)

namespace ClusterDraft

variable {d : ClusterDraft} {size : ClusterSize} {choices : List ClusterChoice}
  {spec : ClusterSpec} {p : Platform}

section Reflected

variable (hDraft : d.Reflects size choices)

include hDraft

theorem Reflects.reads_eq : d.reads known p = openReads choices known p := by
  simp only [reads, openReading, hDraft.chosen]
  rfl

/-- What the draft is settled to, in terms of the choices. -/
theorem Reflects.settled_eq_ok_iff :
    d.settled known p = .ok spec ↔
      size.Ordered ∧ ∃ version nodeType,
        orDefault choices known p .sparkVersions = some version ∧
        orDefault choices known p .nodeTypes = some nodeType ∧
        spec = d.resolved version nodeType (orDefault choices known p .zones) := by
  rw [ClusterDraft.settled_eq_ok_iff, hDraft.size, ClusterSize.validate_eq_ok_iff]
  simp only [hDraft.chosen]
  rfl

theorem Reflects.creatable_iff :
    Creatable choices known p size ↔
      d.spec.clusterName.getD "" ≠ "" ∧ ∃ spec, d.settled known p = .ok spec := by
  -- A zone may be left open for good; a version and a node type may not.
  have hSettled : (∃ spec, d.settled known p = .ok spec) ↔
      size.Ordered ∧ (orDefault choices known p .sparkVersions).isSome = true ∧
        (orDefault choices known p .nodeTypes).isSome = true := by
    simp only [hDraft.settled_eq_ok_iff, Option.isSome_iff_exists]
    constructor
    · rintro ⟨-, hOrdered, version, nodeType, hVersion, hNodeType, -⟩
      exact ⟨hOrdered, ⟨version, hVersion⟩, nodeType, hNodeType⟩
    · rintro ⟨hOrdered, ⟨version, hVersion⟩, nodeType, hNodeType⟩
      exact ⟨_, hOrdered, version, nodeType, hVersion, hNodeType, rfl⟩
  have hChosen (i : CatalogItem) : (orDefault choices known p i).isSome = true ↔
      (last? (ClusterChoice.settled? i) choices = none → (i.default? known p).isSome = true) := by
    unfold orDefault
    cases last? (ClusterChoice.settled? i) choices <;> simp
  rw [hSettled, hChosen, hChosen, hDraft.name]
  constructor
  · rintro ⟨⟨name, hName, hFilled⟩, hOrdered, hOffered⟩
    rw [hName]
    exact ⟨hFilled, hOrdered, hOffered _ nofun, hOffered _ nofun⟩
  · rintro ⟨hNamed, hOrdered, hVersion, hNodeType⟩
    refine ⟨?_, hOrdered, fun i hItem => ?_⟩
    · cases hName : last? ClusterChoice.name? choices with
      | none =>
        rw [hName] at hNamed
        exact absurd rfl hNamed
      | some name =>
        rw [hName] at hNamed
        exact ⟨name, rfl, hNamed⟩
    · cases i with
      | sparkVersions => exact hVersion
      | nodeTypes => exact hNodeType
      | zones => exact absurd rfl hItem

theorem Reflects.readBack (hSettled : d.settled known p = .ok spec) :
    ReadBack choices known p (p.firstRecord spec) ∧
      ClusterSize.ofRecord (p.firstRecord spec) = .ok size := by
  obtain ⟨hOrdered, version, nodeType, hVersion, hNodeType, rfl⟩ :=
    hDraft.settled_eq_ok_iff.1 hSettled
  rw [Platform.firstRecord_frame, resolved_eq hDraft.unplaced, hDraft.size]
  constructor
  · exact {
      name := hDraft.name
      sparkVersion := hVersion.symm
      nodeType := hNodeType.symm
      driver := by
        rw [← hDraft.driver]
        cases hDriver : d.spec.driverNodeTypeId <;> simp [Platform.newCluster, hDriver]
      minutes := hDraft.minutes
      tags := hDraft.tags
      conf := hDraft.conf
      scripts := hDraft.scripts
      zone := rfl
      state := rfl }
  · exact ClusterSize.ofParts_toParts (ClusterSize.validate_eq_ok_iff.2 hOrdered)

end Reflected

end ClusterDraft

open ClusterDraft (make)

/-- Whatever is chosen and whatever is on offer, where no call is refused, a cluster is created
exactly if it has a name, the bounds of its size are in order, and there is a default for each of
the version and the node type that has not been chosen.  The calls are then those that read what is
left open, one that creates the cluster and one that reads it, and the record is what has been
chosen.  Without a name or with bounds out of order no call is made, and in no case is more of the
catalog read than what is left open. -/
theorem cluster_reads_back (hServing : s.state.Serving) (size : ClusterSize)
    (choices : List ClusterChoice) (known : Catalog) :
    let result := ((make size choices).create.exec Platform.handler known s).1.1
    let calls := (make size choices).create.exchanges Platform.handler known s
    ((∃ c, result = .ok c) ↔ Creatable choices known s.state size) ∧
      (∀ c, result = .ok c →
        ReadBack choices known s.state c.record ∧ c.sizing = some size ∧
          ∃ spec, calls = openReads choices known s.state ++
            [⟨.clusters (.create spec), .ok c.id⟩, ⟨.clusters (.get c.id), .ok c.record⟩]) ∧
      ((last? ClusterChoice.name? choices).getD "" = "" ∨ ¬size.Ordered → calls = []) ∧
      calls.filter (·.call.readsOffer) <+: openReads choices known s.state := by
  intro result calls
  have hDraft := ClusterDraft.reflects_make size choices
  have hReads : (make size choices).reads known s.state = openReads choices known s.state :=
    hDraft.reads_eq
  have hOffer := ClusterChoice.filter_openReads choices known s.state
  -- The calls of a creation that is not prepared are a prefix of none.
  have hWrong : (last? ClusterChoice.name? choices).getD "" = "" ∨ ¬size.Ordered → calls = [] := by
    intro hWrong
    have hDraftWrong : (make size choices).spec.clusterName.getD "" = "" ∨
        ¬(make size choices).size.validate = .ok () := by
      rwa [hDraft.name, hDraft.size, ClusterSize.validate_eq_ok_iff]
    obtain ⟨e, hPrepare⟩ := ClusterDraft.asks_prepare_of_wrong hDraftWrong known s
    exact List.prefix_nil.1 (ClusterDraft.create_of_unprepared hPrepare).2
  rw [hDraft.creatable_iff]
  by_cases hReady : (make size choices).spec.clusterName.getD "" ≠ "" ∧
      ∃ spec, (make size choices).settled known s.state = .ok spec
  · -- All that is left open has a default, so the creation goes through.
    obtain ⟨hNamed, spec, hSettled⟩ := hReady
    obtain ⟨hCreated, hCalls⟩ := ClusterDraft.create_of_settled hServing hNamed hSettled
    obtain ⟨hBack, hSize⟩ := hDraft.readBack hSettled
    rw [hReads] at hCalls
    change calls = _ at hCalls
    refine ⟨iff_of_true ⟨_, hCreated⟩ ⟨hNamed, spec, hSettled⟩, fun c hOk => ?_, hWrong, ?_⟩
    · obtain rfl := Except.ok.inj (hCreated.symm.trans hOk)
      have hId : (⟨s.state.firstRecord spec⟩ : Cluster).id = s.state.nextClusterId := by
        rw [Cluster.id, Platform.firstRecord_frame]
        rfl
      exact ⟨hBack, congrArg Except.toOption hSize, spec, hId ▸ hCalls⟩
    · have hLast : calls.filter (·.call.readsOffer) = openReads choices known s.state := by
        rw [hCalls, List.filter_append, hOffer]
        exact List.append_nil _
      exact hLast ▸ List.prefix_rfl
  · -- The creation fails before it asks for the cluster, and what it has read is a part of the
    -- list.
    obtain ⟨items, e, hPrepare⟩ := ClusterDraft.asks_prepare_of_unsettled hServing hReady
    obtain ⟨hFails, hCalls⟩ := ClusterDraft.create_of_unprepared hPrepare
    refine ⟨iff_of_false ?_ hReady, fun c hOk => ?_, hWrong, ?_⟩
    · rintro ⟨c, hOk⟩
      cases hFails.symm.trans hOk
    · cases hFails.symm.trans hOk
    · rw [hReads] at hCalls
      rw [← hOffer]
      exact hCalls.filter _

/-- A platform on which nothing takes time, whose default node type is not listed and that has no
zones. -/
def sparePlatform : Simulation Platform where
  state := { settleReads := 0, nodeTypes := { defaultNodeTypeId := some "m5.large" }, zones := {} }

/-- A name and a tag that are chosen twice, and two scripts. -/
def repeatedChoices : List ClusterChoice := [
  .customTag "team" "a", .name "draft", .s3Script "s3://setup/first.sh" none,
  .sparkVersion "9.1.x-scala2.12", .name "etl", .customTag "team" "b",
  .dbfsScript "dbfs:/setup/second.sh"]

theorem cluster_reads_back_repeated :
    sparePlatform.state.Serving ∧
      ∃ c, ((make (.autoscale 1 3) repeatedChoices).create.exec Platform.handler {}
          sparePlatform).1.1 = .ok c ∧
        c.record.clusterName = some "etl" ∧ c.record.driverNodeTypeId = some "m5.large" ∧
        c.record.customTags.get? "team" = some "b" ∧ c.record.initScripts.length = 2 ∧
        c.record.awsAttributes = none ∧ c.record.state = .running ∧
        c.sizing = some (.autoscale 1 3) := by
  have hServing : sparePlatform.state.Serving := fun _ => rfl
  obtain ⟨hIff, hCreated, -, -⟩ := cluster_reads_back hServing (.autoscale 1 3) repeatedChoices {}
  have hCreatable : Creatable repeatedChoices {} sparePlatform.state (.autoscale 1 3) := by
    refine ⟨⟨"etl", rfl, by decide⟩, by decide, fun i hItem _ => ?_⟩
    cases i with
    | sparkVersions | nodeTypes => rfl
    | zones => exact absurd rfl hItem
  obtain ⟨c, hOk⟩ := hIff.2 hCreatable
  obtain ⟨hBack, hSize, -⟩ := hCreated c hOk
  have hDriver := hBack.driver
  rw [hBack.nodeType] at hDriver
  exact ⟨hServing, c, hOk, hBack.name, hDriver, hBack.tags "team", congrArg _ hBack.scripts,
    hBack.zone, hBack.state, hSize⟩

end SparkFleet
