import SparkFleet.Cluster.Draft
import SparkFleet.Proofs.Session

/-!
# What a session reads once

The versions, node types and zones on offer are the items of a session's catalog.  A program of a
session that may need them is a `Plan`: it asks for items, one after the other, and then acts.  Each
time it asks is an `Access`, with the calls that are made and what comes of it.

`ReadOnce` says what the accesses to one item are: some fail, each with the failure of a call of its
own, then one is answered, and all later ones give what that answer said and make no call.  One
access keeps it (`ReadOnce.access`), and so does a plan.

The main statement `catalog_is_read_once` says it of everything that a session does, whatever
happens to the platform in between.
-/

namespace SparkFleet

open Platform (Event)

/-- What a session reads from the platform and keeps. -/
inductive CatalogItem where
  | sparkVersions
  | nodeTypes
  | zones
  deriving DecidableEq

namespace CatalogItem

/-- What a session knows once it has read the item. -/
@[reducible] def Value : CatalogItem → Type
  | .sparkVersions => SparkVersions
  | .nodeTypes => NodeTypes
  | .zones => Zones

/-- The call that reads the item. -/
@[reducible] def call : CatalogItem → Call
  | .sparkVersions => .clusters .sparkVersions
  | .nodeTypes => .clusters .nodeTypes
  | .zones => .clusters .zones

/-- What an answer says. -/
def decode : (i : CatalogItem) → i.call.Answer → i.Value
  | .sparkVersions => SparkVersions.ofOffer
  | .nodeTypes => NodeTypes.ofOffer
  | .zones => Zones.ofOffer

/-- What a catalog knows of the item. -/
def known? : (i : CatalogItem) → Catalog → Option i.Value
  | .sparkVersions => Catalog.sparkVersions
  | .nodeTypes => Catalog.nodeTypes
  | .zones => Catalog.zones

/-- Keep what has been read. -/
def keep : (i : CatalogItem) → i.Value → Catalog → Catalog
  | .sparkVersions, found, known => { known with sparkVersions := some found }
  | .nodeTypes, found, known => { known with nodeTypes := some found }
  | .zones, found, known => { known with zones := some found }

/-- Ask for the item. -/
def access : (i : CatalogItem) → Session i.Value
  | .sparkVersions => Session.sparkVersions
  | .nodeTypes => Session.nodeTypes
  | .zones => Session.zones

variable {i j : CatalogItem}

@[simp] theorem known?_keep_self (v : i.Value) (known : Catalog) :
    i.known? (i.keep v known) = some v := by
  cases i <;> rfl

/-- Reading one item leaves the others. -/
theorem known?_keep_of_ne (hNe : j ≠ i) (v : j.Value) (known : Catalog) :
    i.known? (j.keep v known) = i.known? known := by
  cases i <;> cases j <;> first | rfl | cases hNe rfl

/-- Each item has an endpoint of its own. -/
theorem endpoint_injective (h : i.call.endpoint = j.call.endpoint) : i = j := by
  revert h
  cases i <;> cases j <;> decide

/-! ### Asking for an item -/

variable {σ : Type} {h : Program.Handler σ} {known : Catalog} {s : σ}

theorem access_eq (i : CatalogItem) :
    i.access = do
      match i.known? (← get) with
      | some v => return v
      | none =>
        let v := i.decode (← Session.act (.ask i.call))
        modify (i.keep v)
        return v := by
  cases i with
  | sparkVersions =>
    exact congrArg (bind get) (funext fun ⟨known, _, _⟩ => by cases known <;> rfl)
  | nodeTypes => exact congrArg (bind get) (funext fun ⟨_, known, _⟩ => by cases known <;> rfl)
  | zones => exact congrArg (bind get) (funext fun ⟨_, _, known⟩ => by cases known <;> rfl)

/-- An item that is known is not read. -/
theorem access_of_known {v : i.Value} (hKnown : i.known? known = some v) :
    i.access.exec h known s = ((.ok v, known), s) ∧ i.access.exchanges h known s = [] := by
  rw [access_eq, Session.exec_get_bind, Session.exchanges_get_bind, hKnown]
  exact ⟨rfl, rfl⟩

/-- An item that is not known is read, and kept if the call is answered. -/
theorem access_of_unknown (hUnknown : i.known? known = none) :
    i.access.exec h known s =
        (match (h.answer i.call s).1 with
          | .ok a => (.ok (i.decode a), i.keep (i.decode a) known)
          | .error e => (.error (.transport e), known), (h.answer i.call s).2) ∧
      i.access.exchanges h known s = [⟨i.call, (h.answer i.call s).1⟩] := by
  rw [access_eq, Session.exec_get_bind, Session.exchanges_get_bind, hUnknown, Session.exec_bind,
    Session.exchanges_bind, Session.exec_act, Session.exchanges_act, Action.exec_ask,
    Action.exchanges_ask]
  cases (h.answer i.call s).1 <;> exact ⟨rfl, rfl⟩

/-- An access leaves what is known of the other items. -/
theorem known?_access_of_ne (hNe : j ≠ i) :
    i.known? (j.access.exec h known s).1.2 = i.known? known := by
  cases hKnown : j.known? known with
  | some v => rw [(access_of_known hKnown).1]
  | none =>
    rw [(access_of_unknown hKnown).1]
    cases (h.answer j.call s).1 with
    | ok a => exact known?_keep_of_ne hNe _ known
    | error e => rfl

/-- An access makes no other call than that of its item. -/
theorem call_of_mem_access {x : Exchange} (hMem : x ∈ i.access.exchanges h known s) :
    x.call = i.call := by
  cases hKnown : i.known? known with
  | some v =>
    rw [(access_of_known hKnown).2] at hMem
    cases hMem
  | none =>
    rw [(access_of_unknown hKnown).2] at hMem
    rw [List.mem_singleton.1 hMem]

end CatalogItem

/-! ### Accesses -/

/-- What an access comes to: the calls that it makes, and what it gives. -/
structure Access (i : CatalogItem) where
  exchanges : List Exchange
  result : Except Error i.Value

namespace Access

variable {σ : Type} {i : CatalogItem}

/-- The access to an item with what is known, from a state. -/
def atPoint (h : Program.Handler σ) (i : CatalogItem) (known : Catalog) (s : σ) : Access i :=
  ⟨i.access.exchanges h known s, (i.access.exec h known s).1.1⟩

/-- The call is refused, and the access fails for this reason. -/
def failed (e : ApiError) : Access i := ⟨[⟨i.call, .error e⟩], .error (.transport e)⟩

/-- The call is answered, and the access gives what the answer says. -/
def answered (a : i.call.Answer) : Access i := ⟨[⟨i.call, .ok a⟩], .ok (i.decode a)⟩

/-- The access gives what is known, and makes no call. -/
def silent (v : i.Value) : Access i := ⟨[], .ok v⟩

end Access

/-- What the accesses to an item come to, one after the other, and what is known of it after them.
Each makes a call of its own until the first one is answered.  The later ones make none, and give
what that answer said. -/
inductive ReadOnce {i : CatalogItem} : List (Access i) → Option i.Value → Prop where
  | unread (failures : List ApiError) : ReadOnce (failures.map .failed) none
  | read (failures : List ApiError) (a : i.call.Answer) (later : Nat) :
    ReadOnce
      (failures.map .failed ++ .answered a :: List.replicate later (.silent (i.decode a)))
      (some (i.decode a))

variable {σ : Type} {h : Program.Handler σ} {i : CatalogItem} {known : Catalog}

/-- One access more. -/
theorem ReadOnce.access {before : List (Access i)} (hRead : ReadOnce before (i.known? known))
    (s : σ) :
    ReadOnce (before ++ [.atPoint h i known s]) (i.known? (i.access.exec h known s).1.2) := by
  generalize hKnown : i.known? known = value at hRead
  cases hRead with
  | unread failures =>
    obtain ⟨hExec, hExchanges⟩ := CatalogItem.access_of_unknown (h := h) (s := s) hKnown
    rw [Access.atPoint, hExec, hExchanges]
    cases (h.answer i.call s).1 with
    | ok a =>
      -- The first answer: the item is known from now on.
      rw [CatalogItem.known?_keep_self]
      exact .read failures a 0
    | error e =>
      rw [hKnown]
      have hMore : failures.map Access.failed ++ [Access.failed e] =
          (failures ++ [e]).map (Access.failed (i := i)) := by
        rw [List.map_append, List.map_singleton]
      exact hMore ▸ .unread (failures ++ [e])
  | read failures a later =>
    -- The item is known, so the access is one more of the silent ones at the end.
    obtain ⟨hExec, hExchanges⟩ := CatalogItem.access_of_known (h := h) (s := s) hKnown
    rw [Access.atPoint, hExec, hExchanges, hKnown, List.append_assoc, List.cons_append]
    have hMore : List.replicate later (Access.silent (i.decode a)) ++ [Access.silent (i.decode a)] =
        List.replicate (later + 1) (Access.silent (i.decode a)) := List.replicate_succ'.symm
    exact hMore ▸ .read failures a (later + 1)

/-! ### Plans -/

/-- A program of a session that asks for items, one after the other, and then acts. -/
inductive Plan (α : Type) where
  | rest (act : Action α)
  | access (i : CatalogItem) (next : i.Value → Plan α)

namespace Plan

variable {α : Type}

/-- The plan as a program: it fails where it asks for an item in vain. -/
def session : Plan α → Session α
  | .rest act => Session.act act
  | .access i next => do (next (← i.access)).session

/-- What the accesses to an item come to, in order, where the plan is run. -/
def accesses (h : Program.Handler σ) (i : CatalogItem) : Plan α → Catalog → σ → List (Access i)
  | .rest _, _, _ => []
  | .access j next, known, s =>
    (if j = i then [.atPoint h i known s] else []) ++
      match j.access.exec h known s with
      | ((.ok v, known'), t) => (next v).accesses h i known' t
      | ((.error _, _), _) => []

/-- Once the plan acts, it reads no item. -/
def Settles : Plan α → Prop
  | .rest act => act.CallsOnly fun c => ∀ i : CatalogItem, c.endpoint ≠ i.call.endpoint
  | .access _ next => ∀ v, (next v).Settles

/-- An item is read once where a plan is run. -/
theorem readOnce (plan : Plan α) {before : List (Access i)} {known : Catalog} {s : σ}
    (hRead : ReadOnce before (i.known? known)) :
    ReadOnce (before ++ plan.accesses h i known s)
      (i.known? (plan.session.exec h known s).1.2) := by
  induction plan generalizing before known s with
  | rest act =>
    rw [accesses, session, Session.exec_act, List.append_nil]
    exact hRead
  | access j next ih =>
    -- The access counts if it is one to the item; one to another item leaves what is known of this
    -- one.
    have hOne : ReadOnce (before ++ if j = i then [.atPoint h i known s] else [])
        (i.known? (j.access.exec h known s).1.2) := by
      split
      · next hSame =>
        rw [hSame]
        exact hRead.access s
      · next hNe =>
        rw [CatalogItem.known?_access_of_ne hNe, List.append_nil]
        exact hRead
    rw [accesses, session, Session.exec_bind, ← List.append_assoc]
    rcases hExec : j.access.exec h known s with ⟨⟨e | v, known'⟩, t⟩
    · -- The plan ends where an access fails, so this was the last one.
      rw [hExec] at hOne
      rw [List.append_nil]
      exact hOne
    · rw [hExec] at hOne
      exact ih v hOne

/-- The calls that read an item are those of the accesses to it. -/
theorem exchanges_eq_accesses {plan : Plan α} (hSettles : plan.Settles) (i : CatalogItem)
    (known : Catalog) (s : σ) :
    (plan.session.exchanges h known s).filter (·.call.endpoint = i.call.endpoint) =
      (plan.accesses h i known s).flatMap (·.exchanges) := by
  induction plan generalizing known s with
  | rest act =>
    rw [accesses, session, Session.exchanges_act, List.flatMap_nil, List.filter_eq_nil_iff]
    exact fun x hMem => by simpa using hSettles.of_mem hMem i
  | access j next ih =>
    -- The items have different endpoints, so the filter keeps all calls of the access or none.
    have hOne : (j.access.exchanges h known s).filter (·.call.endpoint = i.call.endpoint) =
        (if j = i then [Access.atPoint h i known s] else []).flatMap (·.exchanges) := by
      split
      · next hSame =>
        rw [hSame, List.flatMap_singleton, Access.atPoint, List.filter_eq_self]
        exact fun x hMem => by simp [CatalogItem.call_of_mem_access hMem]
      · next hNe =>
        rw [List.flatMap_nil, List.filter_eq_nil_iff]
        exact fun x hMem => by
          rw [CatalogItem.call_of_mem_access hMem]
          simpa using fun hEndpoint => hNe (CatalogItem.endpoint_injective hEndpoint)
    rw [accesses, session, Session.exchanges_bind, List.filter_append, List.flatMap_append, hOne]
    refine congrArg _ ?_
    rcases j.access.exec h known s with ⟨⟨e | v, known'⟩, t⟩
    · rfl
    · exact ih v (hSettles v) known' t

end Plan

/-! ### What may need the catalog -/

/-- An operation of a session that may need its catalog. -/
inductive CatalogUse where
  | sparkVersions
  | defaultSparkVersion
  | sparkVersionByKey (key : String)
  | nodeTypes
  | defaultNodeType
  | nodeTypeById (id : String)
  | zones
  | defaultZone
  | buildSpec (d : ClusterDraft)
  | create (d : ClusterDraft)

namespace CatalogUse

/-- What an operation gives. -/
@[reducible] def Result : CatalogUse → Type
  | .sparkVersions => SparkVersions
  | .defaultSparkVersion | .sparkVersionByKey _ => Option SparkVersion
  | .nodeTypes => NodeTypes
  | .defaultNodeType | .nodeTypeById _ => Option NodeType
  | .zones => Zones
  | .defaultZone => Option String
  | .buildSpec _ => ClusterSpec
  | .create _ => Cluster

/-- The operation as a program. -/
def program : (u : CatalogUse) → Session u.Result
  | .sparkVersions => Session.sparkVersions
  | .defaultSparkVersion => do return (← Session.sparkVersions).default?
  | .sparkVersionByKey key => do return (← Session.sparkVersions).byKey? key
  | .nodeTypes => Session.nodeTypes
  | .defaultNodeType => do return (← Session.nodeTypes).default?
  | .nodeTypeById id => do return (← Session.nodeTypes).byId? id
  | .zones => Session.zones
  | .defaultZone => do return (← Session.zones).defaultZone
  | .buildSpec d => d.buildSpec
  | .create d => d.create

end CatalogUse

/-! ### Drafts -/

namespace ClusterDraft

variable {α β : Type}

/-- The choice of a draft, or else what is on offer makes it. -/
def choose (chosen : Option β) (i : CatalogItem) (offered : i.Value → Except Error β) : Session β :=
  match chosen with
  | some b => pure b
  | none => do Session.act (.ofExcept (offered (← i.access)))

/-- What a draft leaves open is asked for. -/
def choicePlan (chosen : Option β) (i : CatalogItem) (offered : i.Value → Except Error β)
    (next : β → Plan α) : Plan α :=
  match chosen with
  | some b => next b
  | none => .access i fun v =>
    match offered v with
    | .ok b => next b
    | .error e => .rest (throw e)

theorem session_choicePlan (chosen : Option β) (i : CatalogItem)
    (offered : i.Value → Except Error β) (next : β → Plan α) :
    (choicePlan chosen i offered next).session =
      choose chosen i offered >>= fun b => (next b).session := by
  cases chosen with
  | some b => exact (pure_bind (m := Session) b fun b => (next b).session).symm
  | none =>
    refine Eq.trans ?_ (bind_assoc (m := Session) i.access _ _).symm
    refine congrArg (bind i.access) (funext fun v => ?_)
    dsimp only
    cases offered v <;> rfl

/-- The version that is on offer as the default. -/
def offeredVersion (versions : SparkVersions) : Except Error String :=
  match versions.default? with
  | some version => .ok version.key
  | none => .error (.config .cluster "platform reports no default spark version")

/-- The node type that is on offer as the default. -/
def offeredNodeType (types : NodeTypes) : Except Error String :=
  match types.defaultId with
  | some id => .ok id
  | none => .error (.config .cluster "platform reports no default node type")

theorem resolveSparkVersion_eq (spec : ClusterSpec) :
    resolveSparkVersion spec = choose spec.sparkVersion .sparkVersions offeredVersion := by
  unfold resolveSparkVersion choose offeredVersion
  cases spec.sparkVersion with
  | some key => rfl
  | none =>
    refine congrArg (bind Session.sparkVersions) (funext fun versions => ?_)
    cases versions.default? <;> rfl

theorem resolveNodeType_eq (spec : ClusterSpec) :
    resolveNodeType spec = choose spec.nodeTypeId .nodeTypes offeredNodeType := by
  unfold resolveNodeType choose offeredNodeType
  cases spec.nodeTypeId with
  | some id => rfl
  | none =>
    refine congrArg (bind Session.nodeTypes) (funext fun types => ?_)
    cases types.defaultId <;> rfl

theorem resolveZone_eq (d : ClusterDraft) :
    d.resolveZone = choose (d.zone.map some) .zones fun zones => .ok zones.defaultZone := by
  unfold resolveZone choose
  cases d.zone <;> rfl

/-- The specification of a draft whose open choices are made in this way. -/
def resolved (d : ClusterDraft) (version nodeType : String) (zone : Option String) : ClusterSpec :=
  placedIn { d.spec with
    numWorkers := d.size.toParts.1
    autoscale := d.size.toParts.2
    sparkVersion := some version
    nodeTypeId := some nodeType } zone

/-- The choices of a draft are made in order, and nothing is asked for if its size is wrong. -/
def plan (d : ClusterDraft) (next : ClusterSpec → Action α) : Plan α :=
  match d.size.validate with
  | .error e => .rest (throw e)
  | .ok () =>
    choicePlan d.spec.sparkVersion .sparkVersions offeredVersion fun version =>
      choicePlan d.spec.nodeTypeId .nodeTypes offeredNodeType fun nodeType =>
        choicePlan (d.zone.map some) .zones (fun zones => .ok zones.defaultZone) fun zone =>
          .rest (next (d.resolved version nodeType zone))

/-- The plan makes the choices of the draft and goes on with the specification. -/
theorem session_plan (d : ClusterDraft) (next : ClusterSpec → Action α) :
    (d.plan next).session = d.resolve >>= fun spec => Session.act (next spec) := by
  unfold plan resolve
  rw [resolveSparkVersion_eq, resolveNodeType_eq, resolveZone_eq]
  cases d.size.validate with
  | error e => rfl
  | ok u =>
    simp only [session_choicePlan, Plan.session, bind_assoc, pure_bind]
    rfl

/-- No item is read once the choices have been made. -/
theorem settles_choicePlan {chosen : Option β} {offered : i.Value → Except Error β}
    {next : β → Plan α} (hNext : ∀ b, (next b).Settles) :
    (choicePlan chosen i offered next).Settles := by
  cases chosen with
  | some b => exact hNext b
  | none =>
    intro v
    dsimp only
    cases offered v with
    | ok b => exact hNext b
    | error e => trivial

theorem settles_plan (d : ClusterDraft) {next : ClusterSpec → Action α}
    (hNext : ∀ spec, (Plan.rest (next spec)).Settles) : (d.plan next).Settles := by
  unfold plan
  cases d.size.validate with
  | error e => trivial
  | ok u =>
    exact settles_choicePlan fun version => settles_choicePlan fun nodeType =>
      settles_choicePlan fun zone => hNext _

end ClusterDraft

/-! ### Operations as plans -/

namespace CatalogUse

/-- The plan of an operation. -/
def plan : (u : CatalogUse) → Plan u.Result
  | .sparkVersions => .access .sparkVersions fun versions => .rest (pure versions)
  | .defaultSparkVersion => .access .sparkVersions fun versions => .rest (pure versions.default?)
  | .sparkVersionByKey key =>
    .access .sparkVersions fun versions => .rest (pure (versions.byKey? key))
  | .nodeTypes => .access .nodeTypes fun types => .rest (pure types)
  | .defaultNodeType => .access .nodeTypes fun types => .rest (pure types.default?)
  | .nodeTypeById id => .access .nodeTypes fun types => .rest (pure (types.byId? id))
  | .zones => .access .zones fun zones => .rest (pure zones)
  | .defaultZone => .access .zones fun zones => .rest (pure zones.defaultZone)
  | .buildSpec d => d.plan pure
  | .create d =>
    if d.spec.clusterName.getD "" = "" then
      .rest (throw (.missingField .cluster "cluster_name"))
    else
      d.plan fun spec => do
        let id : ClusterId ← Action.ask (.clusters (.create spec))
        Cluster.get id

/-- What an operation does to the errors of its plan. -/
def wrap : (u : CatalogUse) → Session u.Result → Session u.Result
  | .buildSpec _, program | .create _, program => .within .cluster program
  | _, program => program

/-- An operation is its plan, with the errors in its family if it has one. -/
theorem program_eq (u : CatalogUse) : u.program = u.wrap u.plan.session := by
  cases u with
  | sparkVersions | nodeTypes | zones => exact (bind_pure (m := Session) _).symm
  | defaultSparkVersion | sparkVersionByKey | defaultNodeType | nodeTypeById | defaultZone => rfl
  | buildSpec d =>
    -- Here the errors are wrapped, and the plan is that of the choices.
    refine congrArg (Session.within .cluster) ?_
    rw [plan, ClusterDraft.session_plan]
    exact (bind_pure (m := Session) _).symm
  | create d =>
    refine congrArg (Session.within .cluster) ?_
    rw [plan]
    split
    · rfl
    · exact (d.session_plan _).symm

theorem settles_plan (u : CatalogUse) : u.plan.Settles := by
  cases u with
  | buildSpec d => exact d.settles_plan fun _ => trivial
  | create d =>
    rw [plan]
    split
    · trivial
    · -- The two calls that follow the choices have other endpoints than the items.
      refine d.settles_plan fun spec => ?_
      have hCreate : ∀ i : CatalogItem, "clusters/create" ≠ i.call.endpoint := by
        intro i
        cases i <;> decide
      have hGet : ∀ i : CatalogItem, "clusters/get" ≠ i.call.endpoint := by
        intro i
        cases i <;> decide
      exact (Action.callsOnly_ask hCreate).bind fun id =>
        ((Action.callsOnly_ask hGet).bind fun record => Action.callsOnly_pure _).within .cluster
  | _ => exact fun _ => trivial

/-- The family of its errors matters neither to what an operation leaves in the catalog nor to its
calls. -/
theorem run_program (u : CatalogUse) (h : Program.Handler σ) (known : Catalog) (s : σ) :
    (u.program.exec h known s).1.2 = (u.plan.session.exec h known s).1.2 ∧
      u.program.exchanges h known s = u.plan.session.exchanges h known s := by
  rw [u.program_eq]
  cases u with
  | buildSpec d | create d =>
    rw [wrap, Session.exec_within, Session.exchanges_within]
    exact ⟨rfl, rfl⟩
  | _ => exact ⟨rfl, rfl⟩

end CatalogUse

/-! ### Histories -/

/-- What happens to a session and to the platform that it is on. -/
inductive CatalogStep where
  | use (u : CatalogUse)
  | event (e : Event)

/-- What a session knows, and the platform that it is on. -/
structure CatalogPoint where
  known : Catalog := {}
  platform : Simulation Platform

namespace CatalogPoint

variable (x : CatalogPoint) (step : CatalogStep) (history : List CatalogStep)

/-- What is known after a step, and the platform then. -/
def apply : CatalogStep → CatalogPoint
  | .use u =>
    let ran := u.program.exec Platform.handler x.known x.platform
    ⟨ran.1.2, ran.2⟩
  | .event e => { x with platform := { x.platform with state := e.apply x.platform.state } }

/-- What is known after a history, and the platform then. -/
def after : CatalogPoint := history.foldl apply x

/-- The calls that the session makes in a step, with their answers. -/
def exchanges : CatalogStep → List Exchange
  | .use u => u.program.exchanges Platform.handler x.known x.platform
  | .event _ => []

/-- What the accesses to an item come to in a step. -/
def accesses (i : CatalogItem) : CatalogStep → List (Access i)
  | .use u => u.plan.accesses Platform.handler i x.known x.platform
  | .event _ => []

/-- What the steps of a history give, one after the other, each at the point that it meets. -/
def gathered {α : Type} (give : CatalogPoint → CatalogStep → List α) :
    CatalogPoint → List CatalogStep → List α
  | _, [] => []
  | x, step :: history => give x step ++ gathered give (x.apply step) history

/-- One step more. -/
theorem readOnce_apply {before : List (Access i)} (hRead : ReadOnce before (i.known? x.known)) :
    ReadOnce (before ++ x.accesses i step) (i.known? (x.apply step).known) := by
  cases step with
  | use u =>
    rw [apply, (u.run_program Platform.handler x.known x.platform).1]
    exact u.plan.readOnce hRead
  | event e =>
    rw [accesses, List.append_nil]
    exact hRead

/-- The calls of a step that read an item are those of the accesses to it. -/
theorem filter_exchanges (i : CatalogItem) :
    (x.exchanges step).filter (·.call.endpoint = i.call.endpoint) =
      (x.accesses i step).flatMap (·.exchanges) := by
  cases step with
  | use u =>
    rw [exchanges, (u.run_program Platform.handler x.known x.platform).2]
    exact Plan.exchanges_eq_accesses u.settles_plan i x.known x.platform
  | event e => rfl

end CatalogPoint

open CatalogPoint (gathered)

theorem readOnce_after {x : CatalogPoint} {before : List (Access i)}
    (hRead : ReadOnce before (i.known? x.known)) (history : List CatalogStep) :
    ReadOnce (before ++ gathered (CatalogPoint.accesses · i) x history)
      (i.known? (x.after history).known) := by
  induction history generalizing x before with
  | nil =>
    rw [gathered, List.append_nil]
    exact hRead
  | cons step history ih =>
    rw [gathered, ← List.append_assoc]
    exact ih (x.readOnce_apply step hRead)

theorem filter_gathered (x : CatalogPoint) (history : List CatalogStep) (i : CatalogItem) :
    (gathered CatalogPoint.exchanges x history).filter (·.call.endpoint = i.call.endpoint) =
      (gathered (CatalogPoint.accesses · i) x history).flatMap (·.exchanges) := by
  induction history generalizing x with
  | nil => rfl
  | cons step history ih =>
    rw [gathered, gathered, List.filter_append, List.flatMap_append, x.filter_exchanges, ih]

/-- Whatever a session does and whatever happens to the platform in between, what is on offer is
read once.  The operations reach an item by accesses alone, which are what their plans say.  The
accesses to it fail, each with its own call, until one is answered, and from then on they give what
that answer said.  So the calls of the endpoint are those of the accesses up to that one. -/
theorem catalog_is_read_once (history : List CatalogStep) (s : Simulation Platform)
    (i : CatalogItem) :
    let start : CatalogPoint := { platform := s }
    (∀ u : CatalogUse, u.program = u.wrap u.plan.session) ∧
      ReadOnce (gathered (CatalogPoint.accesses · i) start history)
        (i.known? (start.after history).known) ∧
      (gathered CatalogPoint.exchanges start history).filter
          (·.call.endpoint = i.call.endpoint) =
        (gathered (CatalogPoint.accesses · i) start history).flatMap (·.exchanges) := by
  intro start
  -- A session begins with nothing known, which is the invariant after no access.
  have hUnknown : i.known? start.known = none := by cases i <;> rfl
  have hStart : ReadOnce ([] : List (Access i)) (i.known? start.known) :=
    hUnknown ▸ ReadOnce.unread []
  exact ⟨CatalogUse.program_eq, readOnce_after hStart history, filter_gathered start history i⟩

/-- The zones are asked for four times.  The first call is refused, the second tells the zones, and
the others are not made although the platform offers other zones then. -/
example :
    let start : CatalogPoint := { platform := { state := {} } }
    let history : List CatalogStep := [
      .event (.injectFailure "clusters/list-zones" 500),
      .use .zones,
      .event (.clearFailure "clusters/list-zones"),
      .use (.buildSpec { size := .fixed 2 }),
      .event (.offerZones {}),
      .use .defaultZone,
      .use (.create { size := .fixed 1, spec := { clusterName := some "main" } })]
    (gathered (CatalogPoint.accesses · .zones) start history).map (·.exchanges.length) =
        [1, 1, 0, 0] := by
  rfl

end SparkFleet
