import SparkFleet.Proofs.Json.Text

/-!
# Reading what has been written

The tokens of a value may be written one after another without blanks (`isChain_tokens`), and from
them the reader comes to the value, whatever arrays and objects it is in (`leads_tokens`).  Both are
proved along the value, its items and its members at once.

The main statement `parse?_render` says that every value is read from its text.
-/

namespace SparkFleet.Json

/-! ### Which tokens follow one another -/

/-- A mark that ends a value may follow every token. -/
theorem isChain_append_endsValue {ts us : List Token} {u : Token}
    (hFirst : ts.IsChain Token.MayFollow) (hEnds : u.endsValue = true)
    (hSecond : (u :: us).IsChain Token.MayFollow) :
    (ts ++ u :: us).IsChain Token.MayFollow := by
  refine List.isChain_append.2 ⟨hFirst, hSecond, ?_⟩
  rintro t - _ ⟨⟩ -
  exact hEnds

/-- Every token may follow one whose text ends by itself. -/
theorem isChain_cons_closed {t : Token} {ts : List Token} (hClosed : t.isOpenEnded = false)
    (hRest : ts.IsChain Token.MayFollow) : (t :: ts).IsChain Token.MayFollow := by
  refine List.isChain_cons.2 ⟨fun u _ hOpen => ?_, hRest⟩
  rw [hClosed] at hOpen
  exact nomatch hOpen

theorem isOpenEnded_nameToken (name : Option String) : (nameToken name).isOpenEnded = false := by
  cases name <;> rfl

mutual

/-- The tokens of a value may follow one another. -/
theorem isChain_tokens : (v : Json) → v.tokens.IsChain Token.MayFollow
  | .null | .bool _ | .num _ | .str _ | .unreadable => .singleton _
  | .arr items =>
    isChain_cons_closed rfl (isChain_append_endsValue (isChain_itemTokens items) rfl (.singleton _))
  | .obj members =>
    isChain_cons_closed rfl
      (isChain_append_endsValue (isChain_memberTokens members) rfl (.singleton _))

theorem isChain_itemTokens : (items : List Json) → (itemTokens items).IsChain Token.MayFollow
  | [] => .nil
  | [item] => isChain_tokens item
  | item :: next :: rest =>
    -- The comma ends the item, and everything may follow a comma.
    isChain_append_endsValue (isChain_tokens item) rfl
      (isChain_cons_closed rfl (isChain_itemTokens (next :: rest)))

theorem isChain_memberTokens : (members : List (Option String × Json)) →
    (memberTokens members).IsChain Token.MayFollow
  | [] => .nil
  | [(name, value)] =>
    isChain_cons_closed (isOpenEnded_nameToken name)
      (isChain_cons_closed rfl (isChain_tokens value))
  | (name, value) :: next :: rest =>
    isChain_cons_closed (isOpenEnded_nameToken name) <|
      isChain_cons_closed rfl <|
        isChain_append_endsValue (isChain_tokens value) rfl
          (isChain_cons_closed rfl (isChain_memberTokens (next :: rest)))

end

/-! ### Values -/

/-- The tokens of a value do not begin with the end of an array. -/
theorem exists_tokens_eq_cons (v : Json) : ∃ t ts, v.tokens = t :: ts ∧ t ≠ .closeBracket := by
  cases v <;> exact ⟨_, _, rfl, nofun⟩

theorem exists_itemTokens_eq_cons (item : Json) (items : List Json) :
    ∃ t ts, itemTokens (item :: items) = t :: ts ∧ t ≠ .closeBracket := by
  obtain ⟨t, ts, hTokens, hNe⟩ := exists_tokens_eq_cons item
  cases items with
  | nil => exact ⟨t, ts, hTokens, hNe⟩
  | cons next rest =>
    refine ⟨t, ts ++ .comma :: itemTokens (next :: rest), ?_, hNe⟩
    show item.tokens ++ _ = _
    rw [hTokens]
    rfl

/-- The first item of an array is read like every other. -/
theorem leads_firstItem {items : List Json} (hFilled : items ≠ []) {frames : List Frame}
    {r : Reading}
    (hItems : Leads Reading.step (.value (.array [] :: frames)) (itemTokens items) r) :
    Leads Reading.step (.firstItem frames) (itemTokens items) r := by
  obtain ⟨item, rest, rfl⟩ := List.exists_cons_of_ne_nil hFilled
  obtain ⟨t, ts, hTokens, hNe⟩ := exists_itemTokens_eq_cons item rest
  have hStep : Reading.step (.firstItem frames) t =
      Reading.step (.value (.array [] :: frames)) t := by
    cases t with
    | closeBracket => exact absurd rfl hNe
    | _ => rfl
  rw [hTokens] at hItems ⊢
  unfold Leads at *
  rwa [List.foldlM_cons, hStep]

theorem step_nextName (members : List (Option String × Json)) (name : Option String)
    (frames : List Frame) :
    Reading.step (.nextName members frames) (nameToken name) =
      some (.colon members name frames) := by
  cases name <;> rfl

/-- The first name of an object is read like every other. -/
theorem leads_firstName {members : List (Option String × Json)} (hFilled : members ≠ [])
    {frames : List Frame} {r : Reading}
    (hMembers : Leads Reading.step (.nextName [] frames) (memberTokens members) r) :
    Leads Reading.step (.firstName frames) (memberTokens members) r := by
  obtain ⟨⟨name, value⟩, rest, rfl⟩ := List.exists_cons_of_ne_nil hFilled
  obtain ⟨ts, hTokens⟩ : ∃ ts, memberTokens ((name, value) :: rest) = nameToken name :: ts := by
    cases rest <;> exact ⟨_, rfl⟩
  have hStep : Reading.step (.firstName frames) (nameToken name) =
      Reading.step (.nextName [] frames) (nameToken name) := by
    cases name <;> rfl
  rw [hTokens] at hMembers ⊢
  unfold Leads at *
  rwa [List.foldlM_cons, hStep]

mutual

/-- The tokens of a value are read as the value, whatever is around it. -/
theorem leads_tokens : (v : Json) → (frames : List Frame) →
    Leads Reading.step (.value frames) v.tokens (.deliver v frames)
  | .null, _ | .bool _, _ | .num _, _ | .str _, _ | .unreadable, _ => .single rfl
  | .arr [], _ => .cons rfl (.single rfl)
  | .arr (item :: items), frames => by
    -- What has been read is kept in reverse and turned round at the end.
    have hItems := leads_itemTokens (item :: items) (List.cons_ne_nil _ _) [] frames
    refine .cons rfl (.append (leads_firstItem (List.cons_ne_nil _ _) hItems) (.single ?_))
    show some (Reading.deliver (.arr ((item :: items).reverse ++ []).reverse) frames) = _
    rw [List.append_nil, List.reverse_reverse]
  | .obj [], _ => .cons rfl (.single rfl)
  | .obj (member :: members), frames => by
    obtain ⟨last, hMembers⟩ :=
      leads_memberTokens (member :: members) (List.cons_ne_nil _ _) [] frames
    refine .cons rfl (.append (leads_firstName (List.cons_ne_nil _ _) hMembers) (.single ?_))
    show some (Reading.deliver (.obj ((member :: members).reverse ++ []).reverse) frames) = _
    rw [List.append_nil, List.reverse_reverse]

/-- The tokens of the items of an array are read as further items. -/
theorem leads_itemTokens : (items : List Json) → items ≠ [] → (read : List Json) →
    (frames : List Frame) →
    Leads Reading.step (.value (.array read :: frames)) (itemTokens items)
      (.more (.array (items.reverse ++ read)) frames)
  | [], hFilled, _, _ => absurd rfl hFilled
  | [item], _, read, frames => leads_tokens item (.array read :: frames)
  | item :: next :: rest, _, read, frames => by
    have hRest := leads_itemTokens (next :: rest) (List.cons_ne_nil _ _) (item :: read) frames
    rw [List.reverse_cons, List.append_assoc]
    exact .append (leads_tokens item (.array read :: frames)) (.cons rfl hRest)

/-- The tokens of the members of an object are read as further members. -/
theorem leads_memberTokens : (members : List (Option String × Json)) → members ≠ [] →
    (read : List (Option String × Json)) → (frames : List Frame) →
    ∃ last, Leads Reading.step (.nextName read frames) (memberTokens members)
      (.more (.object (members.reverse ++ read) last) frames)
  | [], hFilled, _, _ => absurd rfl hFilled
  | [(name, value)], _, read, frames =>
    ⟨name, .cons (step_nextName read name frames)
      (.cons rfl (leads_tokens value (.object read name :: frames)))⟩
  | (name, value) :: next :: rest, _, read, frames => by
    obtain ⟨last, hRest⟩ :=
      leads_memberTokens (next :: rest) (List.cons_ne_nil _ _) ((name, value) :: read) frames
    refine ⟨last, ?_⟩
    rw [List.reverse_cons, List.append_assoc]
    refine .cons (step_nextName read name frames) (.cons rfl ?_)
    exact .append (leads_tokens value (.object read name :: frames)) (.cons rfl hRest)

end

/-- A value is read from its text. -/
theorem parse?_render (v : Json) : parse? (bytes v.render) = some v := by
  have hValue : v.tokens.foldlM Reading.step (.value []) = some (.done v) := leads_tokens v []
  rw [parse?, render, scan?_text (isChain_tokens v)]
  show ofTokens? v.tokens = some v
  rw [ofTokens?, hValue]

end SparkFleet.Json
