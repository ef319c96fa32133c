import Mathlib.Data.List.Nodup
import SparkFleet.Proofs.SortedMap
import SparkFleet.Wire.Codec

/-!
# Reading back what a codec has written

`Codec.RoundTrips` says that a codec reads every value back from what it writes.  It is derived
from the shape of the codec: a record round-trips if its fields do, if they have names of their own,
and if a field that is left out stands for the value that it has (`Presence.Faithful`).  A value
that may be missing is written as `null`, so what it is made of must be written as something else
(`Codec.Present`).
-/

namespace SparkFleet.Wire

variable {α β : Type}

/-! ### The laws -/

/-- What is written is read back. -/
class Codec.RoundTrips (codec : Codec α) : Prop where
  decode_encode (a : α) : codec.decode (codec.encode a) = some a

/-- What is written is read back, and no value is written as `null`. -/
class Codec.Present (codec : Codec α) : Prop extends codec.RoundTrips where
  encode_ne_null (a : α) : codec.encode a ≠ .null

/-- A value that is left out is the one that an object without the field has. -/
class Presence.Faithful (presence : Presence β) : Prop where
  absent_eq (b : β) (hOmits : presence.omits b = true) : presence.absent = some b

/-- Each field is written by a codec that round-trips, and is left out only faithfully. -/
class inductive Fields.RoundTrips : {ρ F : Type} → Fields ρ F → Prop where
  | done {ρ : Type} : Fields.RoundTrips (.done : Fields ρ ρ)
  | field {ρ β γ : Type} {name : String} {get : ρ → β} {codec : Codec β} {presence : Presence β}
      {rest : Fields ρ γ} (hCodec : codec.RoundTrips) (hPresence : presence.Faithful)
      (hRest : rest.RoundTrips) : Fields.RoundTrips (.field name get codec presence rest)

export Codec.RoundTrips (decode_encode)
export Codec.Present (encode_ne_null)

/-! ### Presences -/

namespace Presence

instance : (required : Presence β).Faithful := ⟨fun _ hOmits => nomatch hOmits⟩

instance (value : β) : (defaultsTo value).Faithful := ⟨fun _ hOmits => nomatch hOmits⟩

instance : (whenSome : Presence (Option β)).Faithful where
  absent_eq _ hOmits := congrArg some (Option.isNone_iff_eq_none.1 hOmits).symm

instance : (whenFilled : Presence (List β)).Faithful where
  absent_eq _ hOmits := congrArg some (List.isEmpty_iff.1 hOmits).symm

instance : whenMapFilled.Faithful where
  absent_eq _ hOmits := congrArg some (SortedMap.eq_of_entries (List.isEmpty_iff.1 hOmits).symm)

end Presence

/-! ### Fields -/

namespace Fields

variable {ρ F : Type}

instance : (.done : Fields ρ ρ).RoundTrips := .done

instance {γ : Type} {name : String} {get : ρ → β} {codec : Codec β} {presence : Presence β}
    {rest : Fields ρ γ} [hCodec : codec.RoundTrips] [hPresence : presence.Faithful]
    [hRest : rest.RoundTrips] :
    (.field name get codec presence rest : Fields ρ (β → γ)).RoundTrips :=
  .field hCodec hPresence hRest

/-- What is made of the fields of a record. -/
def remake {ρ : Type} : {F : Type} → Fields ρ F → F → ρ → ρ
  | _, .done, made, _ => made
  | _, .field _ get _ _ rest, make, r => rest.remake (make (get r)) r

/-- Only the fields of a record are written, each at most once and in their order. -/
theorem encode_names_sublist {ρ : Type} : {F : Type} → (fields : Fields ρ F) → (r : ρ) →
    ((fields.encode r).map (·.1)).Sublist fields.names
  | _, .done, _ => .slnil
  | _, .field name get codec presence rest, r => by
    have hRest := encode_names_sublist rest r
    rw [Fields.encode, Fields.names]
    split
    · exact .cons name hRest
    · exact .cons_cons name hRest

theorem member?_cons (name : String) (j : Json) (members : List (String × Json)) (n : String) :
    member? ((name, j) :: members) n = if name = n then some j else member? members n := by
  unfold member?
  rw [List.find?_cons]
  by_cases hName : name = n
  · simp [hName]
  · have hBeq : (name == n) = false := beq_false_of_ne hName
    simp [hName, hBeq]

/-- A member that is not written is not found. -/
theorem member?_eq_none {members : List (String × Json)} {n : String}
    (hNot : n ∉ members.map (·.1)) : member? members n = none := by
  rw [member?, Option.map_eq_none_iff, List.find?_eq_none]
  intro m hMem hName
  exact hNot (List.mem_map.2 ⟨m, hMem, beq_iff_eq.1 hName⟩)

/-- Members of names of their own are each given once. -/
theorem givenOnce_of_nodup {members : List (String × Json)} (hNodup : (members.map (·.1)).Nodup)
    (names : List String) : givenOnce members names = true := by
  refine List.all_eq_true.2 fun name _ => decide_eq_true ?_
  -- How often a name is given is how often it stands among the names.
  have hCount := List.nodup_iff_count_le_one.1 hNodup name
  rw [List.count, List.countP_map, List.countP_eq_length_filter] at hCount
  exact hCount

theorem namedMembers?_map (members : List (String × Json)) :
    namedMembers? (members.map fun m => (some m.1, m.2)) = some members := by
  induction members with
  | nil => rfl
  | cons m members ih =>
    rw [namedMembers?, List.map_cons, List.mapM_cons]
    show (namedMembers? _ >>= fun rest => some (m :: rest)) = _
    rw [ih]
    rfl

/-- The fields of a record are read back from the members that have been written. -/
theorem decodeMembers_encode {fields : Fields ρ F} (hFields : fields.RoundTrips)
    (hNames : fields.names.Nodup) (r : ρ) (make : F) {given : String → Option Json}
    (hGiven : ∀ n ∈ fields.names, given n = member? (fields.encode r) n) :
    fields.decodeMembers make given = some (fields.remake make r) := by
  induction hFields with
  | done => rfl
  | @field β γ name get codec presence rest hCodec hPresence hRest ih =>
    obtain ⟨hName, hNames⟩ := List.nodup_cons.1 hNames
    have hOthers : ∀ n ∈ rest.names, name ≠ n := fun n hn hEq => hName (hEq ▸ hn)
    have hHere := hGiven name List.mem_cons_self
    have hThere (n : String) (hn : n ∈ rest.names) := hGiven n (List.mem_cons_of_mem name hn)
    rw [Fields.encode] at hHere hThere
    -- The fields that follow find what they would find without this one, whose name is not theirs.
    have hLater : ∀ n ∈ rest.names, given n = member? (rest.encode r) n := by
      intro n hn
      rw [hThere n hn]
      split
      · rfl
      · rw [member?_cons, if_neg (hOthers n hn)]
    have hRead := ih hNames (make (get r)) hLater
    by_cases hOmits : presence.omits (get r) = true
    · -- Nothing else has the name, so the field is found missing.
      have hNot : name ∉ (rest.encode r).map (·.1) := fun hMem =>
        hName ((encode_names_sublist rest r).subset hMem)
      rw [if_pos hOmits, member?_eq_none hNot] at hHere
      rw [Fields.decodeMembers, hHere, hPresence.absent_eq _ hOmits]
      exact hRead
    · -- It stands first among the members that are left, so it is found before all others.
      rw [if_neg hOmits, member?_cons, if_pos rfl] at hHere
      rw [Fields.decodeMembers, hHere]
      show (codec.decode (codec.encode (get r)) >>= fun b => rest.decodeMembers (make b) given) = _
      rw [hCodec.decode_encode]
      exact hRead

end Fields

/-! ### Codecs -/

namespace Codec

/-! The definition of `decode` looks at the codec and the value at once; these are its equations,
codec by codec. -/

theorem decode_integer {least greatest : Int} {ofInt : Int → α} {toInt : α → Int}
    (n : Json.Number) :
    (Codec.integer least greatest ofInt toInt).decode (.num n) =
      n.int?.bind fun i => if least ≤ i ∧ i ≤ greatest then some (ofInt i) else none := rfl

theorem decode_refined {base : Codec α} {make : α → Option β} {raw : β → α} (j : Json) :
    (Codec.refined base make raw).decode j = (base.decode j).bind make := rfl

theorem decode_option {item : Codec α} {j : Json} (hNe : j ≠ .null) :
    (Codec.option item).decode j = (item.decode j).map some := by
  cases j with
  | null => exact absurd rfl hNe
  | _ => rfl

theorem decode_list {item : Codec α} (items : List Json) :
    (Codec.list item).decode (.arr items) = items.mapM item.decode := rfl

theorem decode_textMap (members : List (Option String × Json)) :
    Codec.textMap.decode (.obj members) =
      (namedMembers? members).bind fun members =>
        (textEntries? members).bind fun entries => some (.ofList entries) := rfl

theorem decode_enumeration {names : List (String × α)} {other : Option α} {nameOf : α → String}
    (j : Json) :
    (Codec.enumeration names other nameOf).decode j =
      (enumerationName? j).bind (named? names other) := rfl

theorem decode_record {ρ F : Type} {make : F} {fields : Fields ρ F}
    (members : List (Option String × Json)) :
    (Codec.record make fields).decode (.obj members) =
      (namedMembers? members).bind fun members =>
        if givenOnce members fields.names then fields.decodeMembers make (member? members)
        else none := rfl

/-- The entries of a map are read back. -/
theorem textEntries?_map (entries : List (String × String)) :
    textEntries? (entries.map fun e => (e.1, .str e.2)) = some entries := by
  induction entries with
  | nil => rfl
  | cons e entries ih =>
    rw [textEntries?, List.map_cons, List.mapM_cons]
    show (textEntries? _ >>= fun rest => some (e :: rest)) = _
    rw [ih]
    rfl

/-! Each codec round-trips if what it is made of does. -/

instance : Codec.text.Present where
  decode_encode _ := rfl
  encode_ne_null _ := nofun

instance : Codec.flag.Present where
  decode_encode _ := rfl
  encode_ne_null _ := nofun

theorem Present.integer {least greatest : Int} {ofInt : Int → α} {toInt : α → Int}
    (hRange : ∀ a, least ≤ toInt a ∧ toInt a ≤ greatest) (hInverse : ∀ a, ofInt (toInt a) = a) :
    (Codec.integer least greatest ofInt toInt).Present where
  decode_encode a := by
    rw [Codec.encode, Json.int, decode_integer, Json.Number.int?_ofInt, Option.bind_some,
      if_pos (hRange a), hInverse]
  encode_ne_null _ := nofun

theorem Present.refined {base : Codec α} [hBase : base.Present] {make : α → Option β} {raw : β → α}
    (hInverse : ∀ b, make (raw b) = some b) : (Codec.refined base make raw).Present where
  decode_encode b := by
    rw [Codec.encode, decode_refined, hBase.decode_encode, Option.bind_some, hInverse]
  encode_ne_null b := hBase.encode_ne_null (raw b)

instance {item : Codec α} [hItem : item.Present] : (Codec.option item).RoundTrips where
  decode_encode a := by
    cases a with
    | none => rfl
    | some a =>
      rw [Codec.encode, decode_option (hItem.encode_ne_null a), hItem.decode_encode,
        Option.map_some]

instance {item : Codec α} [hItem : item.RoundTrips] : (Codec.list item).Present where
  decode_encode items := by
    rw [Codec.encode, decode_list]
    induction items with
    | nil => rfl
    | cons a items ih =>
      rw [List.map_cons, List.mapM_cons, hItem.decode_encode, ih]
      rfl
  encode_ne_null _ := nofun

theorem Present.enumeration {names : List (String × α)} {other : Option α} {nameOf : α → String}
    (hNames : ∀ a, names.lookup (nameOf a) = some a) :
    (Codec.enumeration names other nameOf).Present where
  decode_encode a := by
    rw [Codec.encode, decode_enumeration]
    show named? names other (nameOf a) = some a
    rw [named?, hNames]
  encode_ne_null _ := nofun

instance : Codec.textMap.Present where
  decode_encode m := by
    rw [Codec.encode, Json.record, decode_textMap, Fields.namedMembers?_map, Option.bind_some,
      textEntries?_map, Option.bind_some, SortedMap.ofList_entries]
  encode_ne_null _ := nofun

theorem Present.record {ρ F : Type} {make : F} {fields : Fields ρ F}
    [hFields : fields.RoundTrips] (hNames : fields.names.Nodup)
    (hMake : ∀ r, fields.remake make r = r) : (Codec.record make fields).Present where
  decode_encode r := by
    have hWritten := hNames.sublist (fields.encode_names_sublist r)
    rw [Codec.encode, Json.record, decode_record, Fields.namedMembers?_map, Option.bind_some,
      if_pos (Fields.givenOnce_of_nodup hWritten _),
      Fields.decodeMembers_encode hFields hNames r make fun _ _ => rfl, hMake]
  encode_ne_null _ := nofun

end Codec

/-! ### Numbers -/

instance : uint32.Present :=
  .integer (fun n => ⟨Int.natCast_nonneg _, Int.ofNat_le.2 (Nat.le_of_lt_succ n.toNat_lt)⟩)
    fun _ => UInt32.ofNat_toNat

instance : uint64.Present :=
  .integer (fun n => ⟨Int.natCast_nonneg _, Int.ofNat_le.2 (Nat.le_of_lt_succ n.toNat_lt)⟩)
    fun _ => UInt64.ofNat_toNat

instance : int32.Present :=
  .integer (fun n => ⟨n.le_toInt, Int.le_of_lt_add_one n.toInt_lt⟩) Int32.ofInt_toInt

instance : int64.Present :=
  .integer (fun n => ⟨n.le_toInt, Int.le_of_lt_add_one n.toInt_lt⟩) Int64.ofInt_toInt

end SparkFleet.Wire
