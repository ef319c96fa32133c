import Mathlib.Data.List.Perm.Basic
import Mathlib.Logic.Relation
import SparkFleet.Proofs.Wire.Records

/-!
# Members of other names and the order of members

The members of a record may come in any order, and members of other names are passed over, whatever
they hold.  `Codec.Edit` is one such change of a value, at the record itself or inside one of its
parts, as the codec describes them.  What a record sees of an object is whether all names denote a
text and, for each of its fields, the members of that name (`decode_obj_congr`); so one edit changes
nothing in what is read (`Edit.decode_eq`), and no number of them does.

The main statement `edits_keep_meaning` says so of texts, and that what has been written is read
back after any such edits.  The name of a member that is passed over is read nevertheless: a name
that denotes no text is refused (`unreadable_name_refused`).
-/

namespace SparkFleet.Wire

variable {α β : Type}

/-! ### Edits -/

mutual

/-- One change that a codec passes over: a record's members are put in another order, a member of
another name is inserted, or a part of the value is changed so. -/
inductive Codec.Edit : {α : Type} → Codec α → Json → Json → Prop where
  | order {ρ F : Type} {make : F} {fields : Fields ρ F}
      {members members' : List (Option String × Json)} (hPerm : members.Perm members') :
      Codec.Edit (.record make fields) (.obj members) (.obj members')
  | insert {ρ F : Type} {make : F} {fields : Fields ρ F}
      (before after : List (Option String × Json)) {name : String} (value : Json)
      (hName : name ∉ fields.names) :
      Codec.Edit (.record make fields) (.obj (before ++ after))
        (.obj (before ++ (some name, value) :: after))
  | member {ρ F : Type} {make : F} {fields : Fields ρ F}
      (before after : List (Option String × Json)) {name : String} {j j' : Json}
      (hValue : fields.EditAt name j j') :
      Codec.Edit (.record make fields) (.obj (before ++ (some name, j) :: after))
        (.obj (before ++ (some name, j') :: after))
  /-- In a record that is written as an array. -/
  | items {ρ F : Type} {make : F} {fields : Fields ρ F} {items items' : List Json}
      (hItems : fields.EditItems items items') :
      Codec.Edit (.record make fields) (.arr items) (.arr items')
  | list {α : Type} {item : Codec α} (before after : List Json) {j j' : Json}
      (hItem : item.Edit j j') :
      Codec.Edit (.list item) (.arr (before ++ j :: after)) (.arr (before ++ j' :: after))
  | option {α : Type} {item : Codec α} {j j' : Json} (hItem : item.Edit j j') :
      Codec.Edit (.option item) j j'
  | refined {α β : Type} {base : Codec α} {make : α → Option β} {raw : β → α} {j j' : Json}
      (hBase : base.Edit j j') : Codec.Edit (.refined base make raw) j j'

/-- An edit of the value of a member, as every field of its name is written. -/
inductive Fields.EditAt : {ρ F : Type} → Fields ρ F → String → Json → Json → Prop where
  | done {ρ : Type} {name : String} {j j' : Json} : Fields.EditAt (.done : Fields ρ ρ) name j j'
  | here {ρ β γ : Type} {name : String} {get : ρ → β} {codec : Codec β} {presence : Presence β}
      {rest : Fields ρ γ} {j j' : Json} (hValue : codec.Edit j j') (hRest : rest.EditAt name j j') :
      Fields.EditAt (.field name get codec presence rest) name j j'
  | there {ρ β γ : Type} {name other : String} {get : ρ → β} {codec : Codec β}
      {presence : Presence β} {rest : Fields ρ γ} {j j' : Json} (hName : other ≠ name)
      (hRest : rest.EditAt name j j') :
      Fields.EditAt (.field other get codec presence rest) name j j'

/-- An edit of an item of a record that is written as an array. -/
inductive Fields.EditItems : {ρ F : Type} → Fields ρ F → List Json → List Json → Prop where
  | here {ρ β γ : Type} {name : String} {get : ρ → β} {codec : Codec β} {presence : Presence β}
      {rest : Fields ρ γ} {j j' : Json} {items : List Json} (hItem : codec.Edit j j') :
      Fields.EditItems (.field name get codec presence rest) (j :: items) (j' :: items)
  | there {ρ β γ : Type} {name : String} {get : ρ → β} {codec : Codec β} {presence : Presence β}
      {rest : Fields ρ γ} {j : Json} {items items' : List Json}
      (hItems : rest.EditItems items items') :
      Fields.EditItems (.field name get codec presence rest) (j :: items) (j :: items')

end

/-! ### What a record sees of an object -/

/-- A name with its value, as a member whose name denotes it. -/
def namedMember (m : String × Json) : Option String × Json := (some m.1, m.2)

theorem namedMember_injective : Function.Injective namedMember := by
  rintro ⟨name, value⟩ ⟨name', value'⟩ hEq
  cases hEq
  rfl

/-- The members of an object with their names, if all of these denote texts. -/
theorem namedMembers?_eq_some_iff {members : List (Option String × Json)}
    {named : List (String × Json)} :
    namedMembers? members = some named ↔ members = named.map namedMember := by
  constructor
  · intro hNamed
    induction members generalizing named with
    | nil =>
      cases hNamed
      rfl
    | cons m members ih =>
      obtain ⟨name, value⟩ := m
      rw [namedMembers?, List.mapM_cons] at hNamed
      -- One name that denotes no text is enough that there are no named members at all.
      cases name with
      | none => cases hNamed
      | some name =>
        obtain ⟨first, hFirst, hMore⟩ := Option.bind_eq_some_iff.1 hNamed
        obtain ⟨rest, hRest, hCons⟩ := Option.bind_eq_some_iff.1 hMore
        cases hFirst
        cases hCons
        rw [ih hRest]
        rfl
  · rintro rfl
    exact Fields.namedMembers?_map named

theorem exists_namedMembers?_iff {members : List (Option String × Json)} :
    (∃ named, namedMembers? members = some named) ↔ ∀ m ∈ members, m.1 ≠ none := by
  constructor
  · rintro ⟨named, hNamed⟩ m hMem
    rw [namedMembers?_eq_some_iff.1 hNamed] at hMem
    obtain ⟨m', -, rfl⟩ := List.mem_map.1 hMem
    nofun
  · intro hNames
    induction members with
    | nil => exact ⟨[], rfl⟩
    | cons m members ih =>
      obtain ⟨rest, hRest⟩ := ih fun m' hMem => hNames m' (List.mem_cons_of_mem m hMem)
      obtain ⟨name, hName⟩ := Option.ne_none_iff_exists'.1 (hNames m List.mem_cons_self)
      refine ⟨(name, m.2) :: rest, namedMembers?_eq_some_iff.2 ?_⟩
      rw [namedMembers?_eq_some_iff.1 hRest, List.map_cons, namedMember, ← hName]

/-- The members of a name. -/
def namesakes (members : List (Option String × Json)) (name : String) :
    List (Option String × Json) := members.filter fun m => m.1 == some name

theorem namesakes_map (named : List (String × Json)) (name : String) :
    namesakes (named.map namedMember) name =
      (named.filter fun m => m.1 == name).map namedMember := by
  rw [namesakes, List.filter_map]
  rfl

theorem eq_of_perm_of_length_le_one {l l' : List β} (hPerm : l.Perm l') (hShort : l.length ≤ 1) :
    l = l' := by
  -- A permutation of one element is the list itself, so what is given once has no order.
  cases l with
  | nil => exact (List.nil_perm.1 hPerm).symm
  | cons b rest =>
    have hRest : rest.length = 0 := Nat.le_zero.1 (Nat.le_of_succ_le_succ hShort)
    obtain rfl := List.length_eq_zero_iff.1 hRest
    exact List.singleton_perm.1 hPerm

section

variable {named named' : List (String × Json)} {names : List String}
  (hMembers : ∀ n ∈ names,
    (named.filter fun m => m.1 == n).Perm (named'.filter fun m => m.1 == n))

include hMembers

theorem givenOnce_congr : givenOnce named names = givenOnce named' names := by
  have hLengths (n : String) (hn : n ∈ names) := (hMembers n hn).length_eq
  rw [Bool.eq_iff_iff, givenOnce, givenOnce, List.all_eq_true, List.all_eq_true]
  exact forall₂_congr fun n hn => by rw [hLengths n hn]

/-- The order does not matter where a name is given once. -/
theorem member?_congr (hOnce : givenOnce named names = true) {n : String} (hn : n ∈ names) :
    member? named n = member? named' n := by
  have hShort : (named.filter fun m => m.1 == n).length ≤ 1 :=
    of_decide_eq_true (List.all_eq_true.1 hOnce n hn)
  rw [member?, member?, ← List.head?_filter, ← List.head?_filter,
    eq_of_perm_of_length_le_one (hMembers n hn) hShort]

end

/-- What is read for a field. -/
def Presence.read? (presence : Presence β) (codec : Codec β) : Option Json → Option β
  | some j => codec.decode j
  | none => presence.absent

theorem Fields.decodeMembers_field {ρ γ : Type} {name : String} {get : ρ → β} {codec : Codec β}
    {presence : Presence β} {rest : Fields ρ γ} (make : β → γ) (given : String → Option Json) :
    (Fields.field name get codec presence rest).decodeMembers make given =
      (presence.read? codec (given name)).bind fun b => rest.decodeMembers (make b) given := by
  rw [decodeMembers]
  cases given name <;> rfl

/-- Only what is given for the fields matters. -/
theorem Fields.decodeMembers_congr {ρ F : Type} : (fields : Fields ρ F) → (make : F) →
    {given given' : String → Option Json} → (∀ n ∈ fields.names, given n = given' n) →
    fields.decodeMembers make given = fields.decodeMembers make given'
  | .done, _, _, _, _ => rfl
  | .field name get codec presence rest, make, given, given', hGiven => by
    rw [decodeMembers_field, decodeMembers_field, hGiven name List.mem_cons_self]
    refine Option.bind_congr fun b _ => ?_
    exact decodeMembers_congr rest (make b) fun n hn => hGiven n (List.mem_cons_of_mem name hn)

section

variable {ρ F : Type} {make : F} {fields : Fields ρ F}
  {members members' before after : List (Option String × Json)}

/-- A record sees whether all names denote texts, and the members of each field's name. -/
theorem decode_obj_congr
    (hNamed : (∀ m ∈ members, m.1 ≠ none) ↔ ∀ m ∈ members', m.1 ≠ none)
    (hMembers : ∀ n ∈ fields.names, (namesakes members n).Perm (namesakes members' n)) :
    (Codec.record make fields).decode (.obj members) =
      (Codec.record make fields).decode (.obj members') := by
  rw [← exists_namedMembers?_iff, ← exists_namedMembers?_iff] at hNamed
  rw [Codec.decode_record, Codec.decode_record]
  -- Either both objects are refused for a name, or both have named members, to be compared by name.
  cases hFirst : namedMembers? members with
  | none =>
    cases hSecond : namedMembers? members' with
    | none => rfl
    | some named' =>
      obtain ⟨named, hSome⟩ := hNamed.2 ⟨named', hSecond⟩
      exact nomatch hFirst.symm.trans hSome
  | some named =>
    obtain ⟨named', hSecond⟩ := hNamed.1 ⟨named, hFirst⟩
    have hPerm (n : String) (hn : n ∈ fields.names) :
        (named.filter fun m => m.1 == n).Perm (named'.filter fun m => m.1 == n) := by
      have hRaw := hMembers n hn
      rw [namedMembers?_eq_some_iff.1 hFirst, namedMembers?_eq_some_iff.1 hSecond, namesakes_map,
        namesakes_map] at hRaw
      exact (List.map_perm_map_iff namedMember_injective).1 hRaw
    rw [hSecond, Option.bind_some, Option.bind_some, ← givenOnce_congr hPerm]
    split
    · next hOnce =>
      exact fields.decodeMembers_congr make fun n hn => member?_congr hPerm hOnce hn
    · rfl

theorem decode_order (hPerm : members.Perm members') :
    (Codec.record make fields).decode (.obj members) =
      (Codec.record make fields).decode (.obj members') :=
  decode_obj_congr (forall_congr' fun _ => imp_congr hPerm.mem_iff Iff.rfl)
    fun _ _ => hPerm.filter _

theorem decode_insert {name : String} (value : Json) (hName : name ∉ fields.names) :
    (Codec.record make fields).decode (.obj (before ++ after)) =
      (Codec.record make fields).decode (.obj (before ++ (some name, value) :: after)) := by
  refine decode_obj_congr ?_ fun n hn => ?_
  · simp [or_imp, forall_and]
  · have hOther : ((some name : Option String) == some n) = false :=
      beq_false_of_ne fun hSame => hName (Option.some.inj hSame ▸ hn)
    rw [namesakes, namesakes, List.filter_append, List.filter_append,
      List.filter_cons_of_neg (by rw [hOther]; nofun)]

theorem namedMembers?_insert (name : String) (value : Json) :
    namedMembers? (before ++ (some name, value) :: after) =
      (namedMembers? before).bind fun b => (namedMembers? after).map fun a =>
        b ++ (name, value) :: a := by
  rw [namedMembers?, List.mapM_append, List.mapM_cons]
  change (namedMembers? before).bind _ = _
  cases namedMembers? before with
  | none => rfl
  | some b =>
    change ((some (name, value)).bind fun m => (namedMembers? after).bind _).bind _ = _
    cases namedMembers? after <;> rfl

/-- Whether names are given once does not depend on the values. -/
theorem givenOnce_insert (before after : List (String × Json)) (name : String) (j j' : Json)
    (names : List String) :
    givenOnce (before ++ (name, j) :: after) names =
      givenOnce (before ++ (name, j') :: after) names := by
  unfold givenOnce
  simp only [List.filter_append, List.filter_cons, List.length_append, apply_ite List.length,
    List.length_cons]

theorem member?_append (before after : List (String × Json)) (n : String) :
    member? (before ++ after) n = (member? before n).or (member? after n) := by
  rw [member?, List.find?_append, Option.map_or]
  rfl

/-- What is given for each name differs at most for one, in the values of that member. -/
def DiffersAt (name : String) (j j' : Json) (given given' : String → Option Json) : Prop :=
  ∀ n, given n = given' n ∨ name = n ∧ given n = some j ∧ given' n = some j'

theorem differsAt_insert (before after : List (String × Json)) (name : String) (j j' : Json) :
    DiffersAt name j j' (member? (before ++ (name, j) :: after))
      (member? (before ++ (name, j') :: after)) := by
  intro n
  rw [member?_append, member?_append, Fields.member?_cons, Fields.member?_cons]
  cases member? before n with
  | some value => exact .inl rfl
  | none =>
    -- The member shows only if no earlier one has its name.
    by_cases hName : name = n
    · rw [if_pos hName, if_pos hName]
      exact .inr ⟨hName, rfl, rfl⟩
    · rw [if_neg hName, if_neg hName]
      exact .inl rfl

/-- A member's value is replaced by one that is read alike. -/
theorem decode_member {name : String} {j j' : Json}
    (hFields : ∀ given given', DiffersAt name j j' given given' →
      fields.decodeMembers make given = fields.decodeMembers make given') :
    (Codec.record make fields).decode (.obj (before ++ (some name, j) :: after)) =
      (Codec.record make fields).decode (.obj (before ++ (some name, j') :: after)) := by
  rw [Codec.decode_record, Codec.decode_record, namedMembers?_insert, namedMembers?_insert]
  cases namedMembers? before with
  | none => rfl
  | some b =>
    cases namedMembers? after with
    | none => rfl
    | some a =>
      simp only [Option.bind_some, Option.map_some]
      rw [givenOnce_insert b a name j j', hFields _ _ (differsAt_insert b a name j j')]

end

/-! ### What an edit changes -/

theorem DiffersAt.read?_eq {name : String} {j j' : Json} {given given' : String → Option Json}
    (hGiven : DiffersAt name j j' given given') {codec : Codec β}
    (hDecode : codec.decode j = codec.decode j') (presence : Presence β) (n : String) :
    presence.read? codec (given n) = presence.read? codec (given' n) := by
  obtain hSame | ⟨-, hFirst, hSecond⟩ := hGiven n
  · rw [hSame]
  · rw [hFirst, hSecond]
    exact hDecode

/-- What is edited is not `null`, and does not become so. -/
theorem Codec.Edit.ne_null {α : Type} {codec : Codec α} {j j' : Json} :
    codec.Edit j j' → j ≠ .null ∧ j' ≠ .null
  | .order _ | .insert .. | .member .. | .items _ | .list .. => ⟨nofun, nofun⟩
  | .option hItem => hItem.ne_null
  | .refined hBase => hBase.ne_null

mutual

/-- An edit changes nothing in what is read. -/
theorem Codec.Edit.decode_eq {α : Type} {codec : Codec α} {j j' : Json} :
    codec.Edit j j' → codec.decode j = codec.decode j'
  | .order hPerm => decode_order hPerm
  | .insert _ _ value hName => decode_insert value hName
  | .member _ _ hValue => decode_member fun _ _ hGiven => hValue.decodeMembers_eq _ hGiven
  | .items hItems => hItems.decodeItems_eq _
  | .list _ _ hItem => by
    rw [Codec.decode_list, Codec.decode_list, List.mapM_append, List.mapM_append, List.mapM_cons,
      List.mapM_cons, hItem.decode_eq]
  | .option hItem => by
    rw [Codec.decode_option hItem.ne_null.1, Codec.decode_option hItem.ne_null.2, hItem.decode_eq]
  | .refined hBase => by rw [Codec.decode_refined, Codec.decode_refined, hBase.decode_eq]

theorem Fields.EditAt.decodeMembers_eq {ρ F : Type} {fields : Fields ρ F} {name : String}
    {j j' : Json} : fields.EditAt name j j' → (make : F) → {given given' : String → Option Json} →
    DiffersAt name j j' given given' →
    fields.decodeMembers make given = fields.decodeMembers make given'
  | .done, _, _, _, _ => rfl
  | .here hValue hRest, make, _, _, hGiven => by
    rw [Fields.decodeMembers_field, Fields.decodeMembers_field,
      hGiven.read?_eq hValue.decode_eq]
    exact Option.bind_congr fun b _ => hRest.decodeMembers_eq (make b) hGiven
  | .there hName hRest, make, _, _, hGiven => by
    -- A field of another name sees no difference, since only the edited name may differ.
    obtain hSame | ⟨hIs, -⟩ := hGiven _
    · rw [Fields.decodeMembers_field, Fields.decodeMembers_field, hSame]
      exact Option.bind_congr fun b _ => hRest.decodeMembers_eq (make b) hGiven
    · exact absurd hIs.symm hName

theorem Fields.EditItems.decodeItems_eq {ρ F : Type} {fields : Fields ρ F}
    {items items' : List Json} : fields.EditItems items items' → (make : F) →
    fields.decodeItems make items = fields.decodeItems make items'
  | .here hItem, make => by
    rw [Fields.decodeItems, Fields.decodeItems, hItem.decode_eq]
  | .there hItems, make => by
    rw [Fields.decodeItems, Fields.decodeItems]
    exact Option.bind_congr fun b _ => hItems.decodeItems_eq (make b)

end

/-- Any number of edits changes nothing in what is read. -/
theorem Codec.decode_eq_of_edits {codec : Codec α} {j j' : Json}
    (hEdits : Relation.ReflTransGen codec.Edit j j') : codec.decode j = codec.decode j' := by
  induction hEdits with
  | refl => rfl
  | tail _ hEdit ih => exact ih.trans hEdit.decode_eq

/-- Putting the members of records in another order and inserting members of other names, at any
depth, changes nothing in what a text denotes.  So every value of every record is read back from all
texts that come from its own in this way. -/
theorem edits_keep_meaning :
    (∀ {α : Type} (codec : Codec α) {text text' : List UInt8} {j j' : Json},
      Json.parse? text = some j → Json.parse? text' = some j' →
        Relation.ReflTransGen codec.Edit j j' →
          (Json.parse? text).bind codec.decode = (Json.parse? text').bind codec.decode) ∧
      ∀ (record : WireRecord) (value : record.Value) {text : List UInt8} {j : Json},
        Json.parse? text = some j →
          Relation.ReflTransGen record.codec.Edit (record.codec.encode value) j →
            record.ofText? text = some value := by
  refine ⟨fun codec text text' j j' hText hText' hEdits => ?_,
    fun record value text j hText hEdits => ?_⟩
  · rw [hText, hText', Option.bind_some, Option.bind_some, Codec.decode_eq_of_edits hEdits]
  · rw [WireRecord.ofText?, hText, Option.bind_some, ← Codec.decode_eq_of_edits hEdits]
    exact record.present_codec.decode_encode value

/-- The text of an offer of one version. -/
def offerText : List UInt8 :=
  Json.bytes ("\x7b\"versions\":[\x7b\"key\":\"7\",\"name\":\"LTS\"\x7d]," ++
    "\"default_version_key\":\"7\"\x7d")

/-- The offer in another order and with notes, one of which denotes no text. -/
def notedOfferText : List UInt8 :=
  Json.bytes ("\x7b\"note\":[null,\x7b\x7d],\"default_version_key\":\"7\"," ++
    "\"versions\":[\x7b\"name\":\"LTS\",\"note\":\"\\ud83d\",\"key\":\"7\"\x7d]\x7d")

/-- The notes do not change what is on offer. -/
theorem edits_keep_meaning_offer :
    WireRecord.sparkVersionOffer.ofText? offerText =
        WireRecord.sparkVersionOffer.ofText? notedOfferText ∧
      WireRecord.sparkVersionOffer.ofText? notedOfferText = some ⟨[⟨"7", "LTS"⟩], some "7"⟩ := by
  let version : Json := .record [("key", .str "7"), ("name", .str "LTS")]
  let noted : Json := .record [("key", .str "7"), ("note", .unreadable), ("name", .str "LTS")]
  let turned : Json := .record [("name", .str "LTS"), ("note", .unreadable), ("key", .str "7")]
  let usual : Option String × Json := (some "default_version_key", .str "7")
  let offer : Json := .obj [(some "versions", .arr [version]), usual]
  let notedOffer : Json :=
    .obj [(some "note", .arr [.null, .obj []]), usual, (some "versions", .arr [turned])]
  have hText : Json.parse? offerText = some offer := rfl
  have hText' : Json.parse? notedOfferText = some notedOffer := rfl
  -- The notes and the turned order come inside the version first, then in the offer around it.
  have hNote : SparkVersion.codec.Edit version noted :=
    .insert [(some "key", .str "7")] [(some "name", .str "LTS")] _ (by decide)
  have hTurn : SparkVersion.codec.Edit noted turned := .order (List.reverse_perm _).symm
  have hVersions {j j' : Json} (hVersion : SparkVersion.codec.Edit j j') :
      SparkVersionOffer.codec.Edit (.obj [(some "versions", .arr [j]), usual])
        (.obj [(some "versions", .arr [j']), usual]) :=
    .member [] [usual] (.here (.list [] [] hVersion) (.there (by decide) .done))
  have hSwap : SparkVersionOffer.codec.Edit (.obj [(some "versions", .arr [turned]), usual])
    (.obj [usual, (some "versions", .arr [turned])]) := .order (.swap _ _ _)
  have hTop : SparkVersionOffer.codec.Edit (.obj [usual, (some "versions", .arr [turned])])
    notedOffer := .insert [] _ _ (by decide)
  have hEdits : Relation.ReflTransGen SparkVersionOffer.codec.Edit offer notedOffer :=
    (((Relation.ReflTransGen.single (hVersions hNote)).tail (hVersions hTurn)).tail hSwap).tail hTop
  exact ⟨edits_keep_meaning.1 SparkVersionOffer.codec hText hText' hEdits,
    edits_keep_meaning.2 .sparkVersionOffer ⟨[⟨"7", "LTS"⟩], some "7"⟩ hText' hEdits⟩

/-- A member that is passed over must have a name: a string that denotes no text is refused as one,
though it may stand in the value. -/
theorem unreadable_name_refused :
    Json.parse? (Json.bytes "\x7b\x7d") = some (.obj []) ∧
      Json.parse? (Json.bytes "\x7b\"\\ud83d\":1\x7d") = some (.obj [(none, .int 1)]) ∧
      WireRecord.runState.ofText? (Json.bytes "\x7b\x7d") = some {} ∧
      WireRecord.runState.ofText? (Json.bytes "\x7b\"\\ud83d\":1\x7d") = none :=
  ⟨rfl, rfl, rfl, rfl⟩

end SparkFleet.Wire
