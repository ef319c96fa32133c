import SparkFleet.Config
import SparkFleet.Http.Client
import SparkFleet.Proofs.Text.Trimming

/-!
# Base URLs of accepted hosts

A configuration is accepted if its host is not blank.  Its base URL is usable if it has a scheme and
something after it, neither white space nor a slash at an end, and is its own base URL.

White space is trimmed off a host before slashes are, and each only once, so what stands before the
slashes may be nothing or end in white space.  Moreover a host counts as having a scheme as soon as
`://` stands in it somewhere.  `IsHost` says what must be left of a host for its base URL to be
usable.

The main statement is `base_usable_iff`: the base URL of an accepted host is usable exactly if the
host is such a text, with white space around it and slashes at its end.
-/

namespace SparkFleet.Http

open Text (isWhite trimChars exists_dropEnd exists_trimChars dropEnd_append trimChars_append
  not_of_mem_head?_dropWhile not_of_mem_getLast?_dropEnd)

/-! ### Usable base URLs -/

/-- Whether a character may stand in a scheme. -/
def isSchemeChar (c : Char) : Bool := c.isAlphanum || c == '+' || c == '-' || c == '.'

/-- Whether a text is a scheme: a letter and more characters. -/
def isScheme : List Char → Bool
  | [] => false
  | c :: rest => c.isAlpha && rest.all isSchemeChar

/-- Requests can be sent to a URL as it stands. -/
structure IsUsable (url : String) : Prop where
  form : ∃ scheme rest, isScheme scheme = true ∧ rest ≠ [] ∧
    url.toList = scheme ++ schemeMark ++ rest
  first : ∀ c ∈ url.toList.head?, isWhite c = false
  last : ∀ c ∈ url.toList.getLast?, isWhite c = false ∧ c ≠ '/'
  fixed : baseUrl url = url

/-- A host with nothing around it, with a scheme if it looks as if it had one. -/
structure IsHost (core : List Char) : Prop where
  nonempty : core ≠ []
  first : ∀ c ∈ core.head?, isWhite c = false
  last : ∀ c ∈ core.getLast?, isWhite c = false ∧ c ≠ '/'
  scheme : schemeMark <:+: core →
    ∃ scheme rest, isScheme scheme = true ∧ core = scheme ++ schemeMark ++ rest

/-- A text is another one with slashes at its end and then white space around it. -/
def Surrounds (host : String) (core : List Char) : Prop :=
  ∃ before slashes after, host.toList = before ++ (core ++ slashes ++ after) ∧
    (∀ c ∈ before, isWhite c = true) ∧ (∀ c ∈ slashes, c = '/') ∧ ∀ c ∈ after, isWhite c = true

/-! ### What is left of a host -/

variable {host : String} {core : List Char}

/-- A host is what is left of it, with slashes and white space. -/
theorem surrounds_hostChars (host : String) : Surrounds host (hostChars host) := by
  obtain ⟨before, after, hHost, hBefore, hAfter⟩ := exists_trimChars host.toList
  obtain ⟨slashes, hSlashes, hSlash⟩ := exists_dropEnd (· == '/') (trimChars host.toList)
  refine ⟨before, slashes, after, ?_, hBefore, fun c hMem => beq_iff_eq.1 (hSlash c hMem), hAfter⟩
  rwa [hostChars, ← hSlashes]

theorem not_white_of_mem_head?_hostChars : ∀ c ∈ (hostChars host).head?, isWhite c = false := by
  intro c hMem
  obtain ⟨after, hAfter, -⟩ := exists_dropEnd isWhite (host.toList.dropWhile isWhite)
  obtain ⟨slashes, hSlashes, -⟩ := exists_dropEnd (· == '/') (trimChars host.toList)
  -- What is trimmed off at the end leaves the first character, unless it leaves nothing.
  refine not_of_mem_head?_dropWhile (s := host.toList) c ?_
  rw [hAfter, ← trimChars, hSlashes, ← hostChars, List.head?_append, List.head?_append,
    Option.mem_def.1 hMem]
  rfl

theorem ne_slash_of_mem_getLast?_hostChars : ∀ c ∈ (hostChars host).getLast?, c ≠ '/' :=
  fun c hMem hSlash => nomatch (not_of_mem_getLast?_dropEnd c hMem).symm.trans (beq_iff_eq.2 hSlash)

/-- Nothing but the white space and the slashes around a host is trimmed off. -/
theorem hostChars_of_surrounds (hHost : IsHost core) (hSurrounds : Surrounds host core) :
    hostChars host = core := by
  obtain ⟨before, slashes, after, hChars, hBefore, hSlashes, hAfter⟩ := hSurrounds
  have hNonempty : core ++ slashes ≠ [] := List.append_ne_nil_of_left_ne_nil hHost.nonempty _
  have hFirst : ∀ c ∈ (core ++ slashes).head?, isWhite c = false := by
    rw [List.head?_append_of_ne_nil _ hHost.nonempty]
    exact hHost.first
  -- The white space after the host ends at a slash, or at the host itself if there is none.
  have hLast : ∀ c ∈ (core ++ slashes).getLast?, isWhite c = false := by
    intro c hMem
    by_cases hNil : slashes = []
    · rw [hNil, List.append_nil] at hMem
      exact (hHost.last c hMem).1
    · rw [List.getLast?_append_of_ne_nil _ hNil] at hMem
      rw [hSlashes c (List.mem_of_getLast? hMem)]
      decide
  rw [hostChars, hChars, trimChars_append hNonempty hFirst hLast hBefore hAfter]
  refine dropEnd_append (fun c hMem => ?_) fun c hMem => beq_iff_eq.2 (hSlashes c hMem)
  exact beq_eq_false_iff_ne.2 (hHost.last c hMem).2

/-! ### Base URLs -/

theorem hasScheme_iff {s : List Char} : hasScheme s = true ↔ schemeMark <:+: s := by
  induction s with
  | nil => exact iff_of_false Bool.false_ne_true (by decide)
  | cons c rest ih =>
    rw [hasScheme, Bool.or_eq_true, List.isPrefixOf_iff_prefix, ih, List.infix_cons_iff]

/-- What the base URL of a host without a scheme begins with. -/
def tlsMark : List Char := "https".toList ++ schemeMark

/-- A host with a scheme is its own base URL. -/
theorem toList_baseUrl_of_scheme (hMark : schemeMark <:+: hostChars host) :
    (baseUrl host).toList = hostChars host := by
  rw [baseUrl, String.toList_ofList, if_pos (hasScheme_iff.2 hMark)]

/-- A host without a scheme is reached over TLS. -/
theorem toList_baseUrl_of_plain (hPlain : ¬schemeMark <:+: hostChars host) :
    (baseUrl host).toList = tlsMark ++ hostChars host := by
  rw [baseUrl, String.toList_ofList, if_neg fun hScheme => hPlain (hasScheme_iff.1 hScheme)]
  rfl

/-- A URL with a scheme and nothing around it is its own base URL. -/
theorem isUsable_of_form {url : String}
    (hForm : ∃ scheme rest, isScheme scheme = true ∧ rest ≠ [] ∧
      url.toList = scheme ++ schemeMark ++ rest)
    (hFirst : ∀ c ∈ url.toList.head?, isWhite c = false)
    (hLast : ∀ c ∈ url.toList.getLast?, isWhite c = false ∧ c ≠ '/') : IsUsable url := by
  refine ⟨hForm, hFirst, hLast, ?_⟩
  obtain ⟨scheme, rest, hScheme, hRest, hChars⟩ := hForm
  have hHost : IsHost url.toList := by
    refine ⟨?_, hFirst, hLast, fun _ => ⟨scheme, rest, hScheme, hChars⟩⟩
    rw [hChars]
    exact List.append_ne_nil_of_right_ne_nil _ hRest
  have hWhole : hostChars url = url.toList :=
    hostChars_of_surrounds hHost ⟨[], [], [], by simp, by simp, by simp, by simp⟩
  have hMark : schemeMark <:+: url.toList := ⟨scheme, rest, hChars.symm⟩
  rw [← String.toList_inj, toList_baseUrl_of_scheme (hWhole ▸ hMark), hWhole]

theorem isUsable_baseUrl (hHost : IsHost (hostChars host)) : IsUsable (baseUrl host) := by
  by_cases hMark : schemeMark <:+: hostChars host
  · apply isUsable_of_form <;> rw [toList_baseUrl_of_scheme hMark]
    · obtain ⟨scheme, rest, hScheme, hChars⟩ := hHost.scheme hMark
      refine ⟨scheme, rest, hScheme, ?_, hChars⟩
      -- Without a rest the host would end in a slash of the mark.
      rintro rfl
      have hSlash : '/' ∈ (hostChars host).getLast? := by
        rw [hChars, List.append_nil, List.getLast?_append_of_ne_nil _ (by decide)]
        rfl
      exact (hHost.last _ hSlash).2 rfl
    · exact hHost.first
    · exact hHost.last
  · apply isUsable_of_form <;> rw [toList_baseUrl_of_plain hMark]
    · exact ⟨_, _, rfl, hHost.nonempty, rfl⟩
    · rintro _ ⟨⟩
      rfl
    · rw [List.getLast?_append_of_ne_nil _ hHost.nonempty]
      exact hHost.last

theorem isHost_of_isUsable (hUsable : IsUsable (baseUrl host)) : IsHost (hostChars host) := by
  have hLast := hUsable.last
  obtain ⟨scheme, rest, hScheme, -, hForm⟩ := hUsable.form
  by_cases hMark : schemeMark <:+: hostChars host
  · rw [toList_baseUrl_of_scheme hMark] at hLast hForm
    refine ⟨?_, not_white_of_mem_head?_hostChars, hLast, fun _ => ⟨scheme, rest, hScheme, hForm⟩⟩
    intro hNil
    exact absurd (List.infix_nil.1 (hNil ▸ hMark)) (by decide)
  · -- If nothing were left of the host, its base URL would be the mark and end in a slash.
    rw [toList_baseUrl_of_plain hMark] at hLast
    have hNonempty : hostChars host ≠ [] := by
      intro hNil
      rw [hNil, List.append_nil] at hLast
      exact (hLast '/' rfl).2 rfl
    rw [List.getLast?_append_of_ne_nil _ hNonempty] at hLast
    exact ⟨hNonempty, not_white_of_mem_head?_hostChars, hLast, fun h => absurd h hMark⟩

theorem isHost_hostChars_iff :
    IsHost (hostChars host) ↔ ∃ core, IsHost core ∧ Surrounds host core := by
  constructor
  · exact fun hHost => ⟨_, hHost, surrounds_hostChars host⟩
  · rintro ⟨core, hHost, hSurrounds⟩
    rwa [hostChars_of_surrounds hHost hSurrounds]

theorem infix_baseUrl (host : String) : schemeMark <:+: (baseUrl host).toList := by
  by_cases hMark : schemeMark <:+: hostChars host
  · rwa [toList_baseUrl_of_scheme hMark]
  · rw [toList_baseUrl_of_plain hMark]
    exact ⟨"https".toList, hostChars host, rfl⟩

theorem not_white_of_mem_head?_baseUrl :
    ∀ c ∈ (baseUrl host).toList.head?, isWhite c = false := by
  by_cases hMark : schemeMark <:+: hostChars host
  · rw [toList_baseUrl_of_scheme hMark]
    exact not_white_of_mem_head?_hostChars
  · rw [toList_baseUrl_of_plain hMark]
    rintro _ ⟨⟩
    rfl

/-- No base URL ends in a slash but the one of nothing. -/
theorem hostChars_of_slash (hSlash : '/' ∈ (baseUrl host).toList.getLast?) :
    hostChars host = [] := by
  by_contra hNonempty
  -- A slash at the end comes from the host, where slashes are trimmed off last.
  have hLast : '/' ∈ (hostChars host).getLast? := by
    by_cases hMark : schemeMark <:+: hostChars host
    · rwa [toList_baseUrl_of_scheme hMark] at hSlash
    · rwa [toList_baseUrl_of_plain hMark, List.getLast?_append_of_ne_nil _ hNonempty] at hSlash
  exact ne_slash_of_mem_getLast?_hostChars _ hLast rfl

/-- A configuration is accepted if its host is not blank and its credentials are complete. -/
theorem connection_eq_ok_iff {config : SessionConfig} {connection : Connection} :
    config.connection = .ok connection ↔
      Text.isBlank config.host = false ∧ ∃ credentials, config.credentials = .ok credentials ∧
        connection = ⟨config.host, credentials, config.requestTimeout, config.connectTimeout⟩ := by
  rw [SessionConfig.connection]
  cases hBlank : Text.isBlank config.host with
  | true =>
    exact iff_of_false nofun nofun
  | false =>
    cases hCredentials : config.credentials with
    | error e => exact iff_of_false nofun fun ⟨_, _, hNone, _⟩ => nomatch hNone
    | ok credentials =>
      constructor
      · rintro ⟨⟩
        exact ⟨rfl, _, rfl, rfl⟩
      · rintro ⟨-, _, ⟨⟩, rfl⟩
        rfl

/-- The base URL of an accepted host has `://` in it and begins with no white space; it ends in a
slash only if nothing but slashes and white space is in the host.  It is usable exactly if the host
is one, with slashes at its end and white space around it; then it is that host, over TLS if it has
no scheme. -/
theorem base_usable_iff {config : SessionConfig} {connection : Connection}
    (hAccepted : config.connection = .ok connection) :
    let base := (Client.ofConnection connection).base
    schemeMark <:+: base.toList ∧
      (∀ c ∈ base.toList.head?, isWhite c = false) ∧
      ('/' ∈ base.toList.getLast? → ∀ c ∈ config.host.toList, isWhite c = true ∨ c = '/') ∧
      (IsUsable base ↔ ∃ core, IsHost core ∧ Surrounds config.host core) ∧
      ∀ core, IsHost core → Surrounds config.host core →
        (schemeMark <:+: core → base.toList = core) ∧
          (¬schemeMark <:+: core → base.toList = tlsMark ++ core) := by
  intro base
  have hBase : base = baseUrl config.host := by
    obtain ⟨-, _, -, rfl⟩ := connection_eq_ok_iff.1 hAccepted
    rfl
  rw [hBase, ← isHost_hostChars_iff]
  refine ⟨infix_baseUrl _, not_white_of_mem_head?_baseUrl, fun hSlash c hMem => ?_,
    ⟨isHost_of_isUsable, isUsable_baseUrl⟩, fun core hHost hSurrounds => ?_⟩
  · -- Where nothing is left of a host, it was all white space and slashes.
    obtain ⟨before, slashes, after, hChars, hBefore, hSlashes, hAfter⟩ :=
      surrounds_hostChars config.host
    rw [hChars, hostChars_of_slash hSlash, List.nil_append, List.mem_append,
      List.mem_append] at hMem
    rcases hMem with hMem | hMem | hMem
    · exact .inl (hBefore c hMem)
    · exact .inr (hSlashes c hMem)
    · exact .inl (hAfter c hMem)
  · obtain rfl := hostChars_of_surrounds hHost hSurrounds
    exact ⟨toList_baseUrl_of_scheme, toList_baseUrl_of_plain⟩

theorem base_usable_spaced :
    let config : SessionConfig := { host := "\t fleet.example/ ", token := some "t" }
    ∃ connection, config.connection = .ok connection ∧
      (Client.ofConnection connection).base = "https://fleet.example" ∧
      IsUsable (Client.ofConnection connection).base := by
  intro config
  have hPlain : ¬schemeMark <:+: "fleet.example".toList := by
    rw [← hasScheme_iff]
    decide
  have hHost : IsHost "fleet.example".toList := by
    refine ⟨by decide, ?_, ?_, fun hMark => absurd hMark hPlain⟩
    · rintro _ ⟨⟩
      rfl
    · rintro _ ⟨⟩
      exact ⟨rfl, by decide⟩
  have hSurrounds : Surrounds config.host "fleet.example".toList := by
    refine ⟨['\t', ' '], ['/'], [' '], by decide, ?_, fun _ => List.mem_singleton.1, ?_⟩ <;>
      simp [isWhite]
  have hGiven : Text.isBlank config.host = false := by decide
  have hCredentials : config.credentials = .ok (.token "t") := by decide
  have hAccepted := connection_eq_ok_iff.2 ⟨hGiven, _, hCredentials, rfl⟩
  obtain ⟨-, -, -, hUsable, hValue⟩ := base_usable_iff hAccepted
  refine ⟨_, hAccepted, ?_, hUsable.2 ⟨_, hHost, hSurrounds⟩⟩
  rw [← String.toList_inj, (hValue _ hHost hSurrounds).2 hPlain]
  rfl

/-- A host of a slash only is accepted, and so is one with white space before a slash at its end;
the base URL of neither is usable. -/
theorem accepted_unusable :
    let accepts (host base : String) : Prop := ∃ connection,
      SessionConfig.connection { host, token := some "t" } = .ok connection ∧
        (Client.ofConnection connection).base = base
    (accepts "/" "https://" ∧ ¬IsUsable "https://") ∧
      (accepts "fleet /" "https://fleet " ∧ ¬IsUsable "https://fleet ") := by
  have hAccepts : ∀ host base, Text.isBlank host = false → baseUrl host = base → ∃ connection,
      SessionConfig.connection { host, token := some "t" } = .ok connection ∧
        (Client.ofConnection connection).base = base := by
    rintro host _ hGiven rfl
    exact ⟨_, connection_eq_ok_iff.2 ⟨hGiven, .token "t", rfl, rfl⟩, rfl⟩
  refine ⟨⟨hAccepts _ _ (by decide) (by decide), fun hUsable => ?_⟩,
    hAccepts _ _ (by decide) (by decide), fun hUsable => ?_⟩
  · exact (hUsable.last '/' (by decide)).2 rfl
  · exact nomatch (hUsable.last ' ' (by decide)).1

end SparkFleet.Http
