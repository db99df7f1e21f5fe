import HexIam.Tokens
import HexIam.UrlSplit

/-!
# Back links

`resolve_safe_back_url` turns a candidate or the Referer into a link on the current
origin.  It does so except for URLs that `urlparse` or a port property refuses, for
paths that a browser reads as an authority, and for URLs without a port on a host
with another port than the default.
-/

namespace HexIam

open UrlSplit

namespace BackLinks

/-! ## The function -/

/-- A request, of which the URL and the Referer are read. -/
structure PageRequest where
  url : String
  referer : Option String := none

/-- `candidate or request.headers.get("referer")`. -/
def PageRequest.value (request : PageRequest) (candidate : Option String) :
    Option String :=
  orElse candidate request.referer

def withQuery (path query : Text) : String :=
  String.ofList (if query = [] then path else path ++ '?' :: query)

/-- `port or own`. -/
def portOr (port own : Option Nat) : Option Nat :=
  if port = none ∨ port = some 0 then own else port

/-- `same_origin`, whose parts are read one after the other. -/
def sameOrigin (stdlib : Stdlib) (parsed url : SplitResult) : Except UrlError Bool :=
  if parsed.scheme ≠ url.scheme then .ok false
  else if parsed.hostname stdlib ≠ url.hostname stdlib then .ok false
  else do
    let port ← parsed.port
    let own ← url.port
    return decide (portOr port own = own)

/-- The URL has neither a scheme nor an authority. -/
def IsRelative (parsed : SplitResult) : Prop :=
  parsed.scheme = [] ∧ parsed.netloc = []

instance (parsed : SplitResult) : Decidable (IsRelative parsed) :=
  inferInstanceAs (Decidable (_ ∧ _))

def resolveSafeBackUrl (stdlib : Stdlib) (request : PageRequest)
    (candidate : Option String) : Except UrlError String :=
  match (request.value candidate).filter filled with
  | none => .ok "/"
  | some value => do
      let parsed ← urlparse stdlib value.toList
      if IsRelative parsed then
        return if ['/'] <+: parsed.path ∧ ¬ ['/', '/'] <+: parsed.path then
          withQuery parsed.path parsed.query
        else "/"
      else
        let url ← urlsplit stdlib request.url.toList
        let same ← sameOrigin stdlib parsed url
        return if same then
          withQuery (if parsed.path = [] then ['/'] else parsed.path) parsed.query
        else "/"

/-! ## The property -/

/-- The link starts with one slash, and no other or backslash follows. -/
def SafePath (link : String) : Prop :=
  ∃ rest, link.toList = '/' :: rest ∧ ∀ next ∈ rest.head?, next ≠ '/' ∧ next ≠ '\\'

def defaultPort (scheme : Text) : Option Nat :=
  [("http", 80), ("https", 443), ("ws", 80), ("wss", 443)].lookup (String.ofList scheme)

/-- The port that a URL is fetched from. -/
def effectivePort (scheme : Text) (port : Option Nat) : Option Nat :=
  port <|> defaultPort scheme

/-- The URL names another scheme, host or effective port than the request's. -/
def NamesOther (stdlib : Stdlib) (parsed url : SplitResult) : Prop :=
  parsed.scheme ≠ [] ∧ parsed.scheme ≠ url.scheme ∨
    parsed.hostname stdlib ≠ none ∧ parsed.hostname stdlib ≠ url.hostname stdlib ∨
    ¬ IsRelative parsed ∧ ∃ port own, parsed.port = .ok port ∧ url.port = .ok own ∧
      effectivePort (if parsed.scheme = [] then url.scheme else parsed.scheme) port ≠
        effectivePort url.scheme own

/-- The function returns a path on the current origin, and the root for a value that
names another. -/
def Resolves (stdlib : Stdlib) (request : PageRequest) (candidate : Option String) :
    Prop :=
  ∃ link, resolveSafeBackUrl stdlib request candidate = .ok link ∧ SafePath link ∧
    ∀ value parsed url, request.value candidate = some value →
      urlparse stdlib value.toList = .ok parsed →
      urlsplit stdlib request.url.toList = .ok url →
      NamesOther stdlib parsed url → link = "/"

/-! ## The condition -/

/-- A browser reads the path as the beginning of an authority. -/
def ReadsAsAuthority (path : Text) : Prop :=
  ['/', '/'] <+: path ∨ ['/', '\\'] <+: path

/-- A URL of the request's scheme and host has valid ports, and when the code takes
its port for the request's, the port is that and the path stays on the host. -/
def SoundOrigin (stdlib : Stdlib) (parsed url : SplitResult) : Prop :=
  parsed.scheme = url.scheme → parsed.hostname stdlib = url.hostname stdlib →
    ∃ port own, parsed.port = .ok port ∧ url.port = .ok own ∧
      (portOr port own = own →
        ¬ ReadsAsAuthority parsed.path ∧ (parsed.netloc = [] → Rooted parsed.path) ∧
          (effectivePort url.scheme port = effectivePort url.scheme own ∨
            parsed.path ∈ [[], ['/']] ∧ parsed.query = []))

def Sound (stdlib : Stdlib) (request : PageRequest) (candidate : Option String) :
    Prop :=
  ∀ value, request.value candidate = some value → filled value = true →
    ∃ parsed, urlparse stdlib value.toList = .ok parsed ∧
      if IsRelative parsed then ¬ ['/', '\\'] <+: parsed.path
      else ∃ url, urlsplit stdlib request.url.toList = .ok url ∧
        SoundOrigin stdlib parsed url

/-! ## Links -/

section Links

variable {path query : Text}

theorem safePath_slash : SafePath "/" :=
  ⟨[], rfl, nofun⟩

theorem safePath_iff :
    SafePath (withQuery (if path = [] then ['/'] else path) query) ↔
      Rooted path ∧ ¬ ReadsAsAuthority path := by
  unfold SafePath withQuery ReadsAsAuthority
  rw [String.toList_ofList]
  match path with
  | [] =>
      refine iff_of_true ?_ ⟨.inl rfl, by simp⟩
      by_cases isEmpty : query = []
      · exact ⟨[], by simp [isEmpty], nofun⟩
      · exact ⟨'?' :: query, by simp [isEmpty], by simp⟩
  | [first] =>
      by_cases isEmpty : query = [] <;> simp [isEmpty, Rooted]
  | first :: second :: rest =>
      have others : first = '/' → (second ≠ '/' ∧ second ≠ '\\' ↔
          ¬ (['/', '/'] <+: first :: second :: rest ∨
            ['/', '\\'] <+: first :: second :: rest)) := by
        rintro rfl
        simp [eq_comm]
      by_cases isEmpty : query = [] <;> simpa [isEmpty, Rooted] using others

theorem withQuery_eq_slash :
    withQuery (if path = [] then ['/'] else path) query = "/" ↔
      path ∈ [[], ['/']] ∧ query = [] := by
  unfold withQuery
  rw [← String.toList_inj, String.toList_ofList]
  match path with
  | [] => by_cases isEmpty : query = [] <;> simp [isEmpty]
  | [first] => by_cases isEmpty : query = [] <;> simp [isEmpty]
  | first :: second :: rest => by_cases isEmpty : query = [] <;> simp [isEmpty]

end Links

/-! ## The branches -/

section Branches

variable {stdlib : Stdlib} {request : PageRequest} {candidate : Option String}
variable {value : String} {parsed url : SplitResult}

theorem hostname_of_no_netloc (noNetloc : parsed.netloc = []) :
    parsed.hostname stdlib = none := by
  have noHost : parsed.hostinfo.1 = [] := by
    rw [SplitResult.hostinfo, noNetloc]
    rfl
  rw [SplitResult.hostname, if_pos noHost]

theorem not_namesOther_of_relative (relative : IsRelative parsed) :
    ¬ NamesOther stdlib parsed url := by
  rintro (⟨hasScheme, -⟩ | ⟨hasHost, -⟩ | ⟨absolute, -⟩)
  · exact hasScheme relative.1
  · exact hasHost (hostname_of_no_netloc relative.2)
  · exact absolute relative

/-- A relative value gives a safe path unless it has a backslash after the slash. -/
theorem safePath_relative :
    SafePath (if ['/'] <+: parsed.path ∧ ¬ ['/', '/'] <+: parsed.path then
        withQuery parsed.path parsed.query else "/") ↔
      ¬ ['/', '\\'] <+: parsed.path := by
  split_ifs with isLink
  · obtain ⟨⟨rest, isPath⟩, noAuthority⟩ := isLink
    have nonempty : parsed.path ≠ [] := by simp [← isPath]
    have rooted : Rooted parsed.path := .inr ⟨rest, isPath.symm⟩
    have safe := @safePath_iff parsed.path parsed.query
    rw [if_neg nonempty] at safe
    rw [safe, ReadsAsAuthority, not_or]
    exact ⟨fun both => both.2.2, fun noBackslash => ⟨rooted, noAuthority, noBackslash⟩⟩
  · refine iff_of_true safePath_slash fun backslash => isLink ⟨?_, fun slashes => ?_⟩
    · exact (List.prefix_append ['/'] ['\\']).trans backslash
    · exact absurd (List.prefix_of_prefix_length_le slashes backslash (Nat.le_refl 2))
        (by decide)

/-- Among URLs of one scheme and host, another port is the only thing to name. -/
theorem namesOther_iff {port own : Option Nat} (absolute : ¬ IsRelative parsed)
    (sameScheme : parsed.scheme = url.scheme)
    (sameHost : parsed.hostname stdlib = url.hostname stdlib)
    (isPort : parsed.port = .ok port) (isOwn : url.port = .ok own) :
    NamesOther stdlib parsed url ↔
      effectivePort url.scheme port ≠ effectivePort url.scheme own := by
  unfold NamesOther
  rw [isPort, isOwn, sameScheme, sameHost, ite_self]
  constructor
  · rintro (⟨-, other⟩ | ⟨-, other⟩ | ⟨-, _, _, ⟨⟩, ⟨⟩, other⟩)
    · exact absurd rfl other
    · exact absurd rfl other
    · exact other
  · exact fun other => .inr (.inr ⟨absolute, port, own, rfl, rfl, other⟩)

/-- The link for a URL with a scheme or an authority. -/
def linkOf (same : Bool) (parsed : SplitResult) : String :=
  if same then withQuery (if parsed.path = [] then ['/'] else parsed.path) parsed.query
  else "/"

theorem sound_absolute (isParsed : urlparse stdlib value.toList = .ok parsed)
    (absolute : ¬ IsRelative parsed) :
    (∃ same, sameOrigin stdlib parsed url = .ok same ∧
        SafePath (linkOf same parsed) ∧
        (NamesOther stdlib parsed url → linkOf same parsed = "/")) ↔
      SoundOrigin stdlib parsed url := by
  unfold SoundOrigin sameOrigin
  by_cases sameScheme : parsed.scheme = url.scheme
  case neg =>
    rw [if_pos sameScheme]
    exact iff_of_true ⟨false, rfl, safePath_slash, fun _ => rfl⟩
      fun same => absurd same sameScheme
  by_cases sameHost : parsed.hostname stdlib = url.hostname stdlib
  case neg =>
    rw [if_neg (not_not.mpr sameScheme), if_pos sameHost]
    exact iff_of_true ⟨false, rfl, safePath_slash, fun _ => rfl⟩
      fun _ same => absurd same sameHost
  rw [if_neg (not_not.mpr sameScheme), if_neg (not_not.mpr sameHost)]
  cases isPort : parsed.port with
  | error error =>
      refine iff_of_false ?_ fun sound => ?_
      · rintro ⟨_, ⟨⟩, -⟩
      · obtain ⟨_, _, ⟨⟩, -⟩ := sound sameScheme sameHost
  | ok port =>
      cases isOwn : url.port with
      | error error =>
          refine iff_of_false ?_ fun sound => ?_
          · rintro ⟨_, ⟨⟩, -⟩
          · obtain ⟨_, _, -, ⟨⟩, -⟩ := sound sameScheme sameHost
      | ok own =>
          have rooted : (parsed.netloc = [] → Rooted parsed.path) ↔
              Rooted parsed.path :=
            ⟨fun without => (em (parsed.netloc = [])).elim without
              (rooted_of_urlparse isParsed), fun rooted _ => rooted⟩
          have link (same : Bool) : SafePath (linkOf same parsed) ∧
              (NamesOther stdlib parsed url → linkOf same parsed = "/") ↔
                (same = true → ¬ ReadsAsAuthority parsed.path ∧
                  (parsed.netloc = [] → Rooted parsed.path) ∧
                  (effectivePort url.scheme port = effectivePort url.scheme own ∨
                    parsed.path ∈ [[], ['/']] ∧ parsed.query = [])) := by
            cases same with
            | false => simp [linkOf, safePath_slash]
            | true =>
                rw [linkOf, if_pos rfl, safePath_iff, withQuery_eq_slash, rooted,
                  namesOther_iff absolute sameScheme sameHost isPort isOwn]
                tauto
          simp only [sameScheme, sameHost, forall_const]
          constructor
          · rintro ⟨_, ⟨⟩, safe⟩
            exact ⟨port, own, rfl, rfl, fun matches' =>
              (link _).mp safe (decide_eq_true matches')⟩
          · rintro ⟨_, _, ⟨⟩, ⟨⟩, sound⟩
            exact ⟨_, rfl, (link _).mpr fun matches' =>
              sound (of_decide_eq_true matches')⟩

/-- What the function does with a value that is not empty. -/
def resolveValue (stdlib : Stdlib) (request : PageRequest) (value : String) :
    Except UrlError String := do
  let parsed ← urlparse stdlib value.toList
  if IsRelative parsed then
    return if ['/'] <+: parsed.path ∧ ¬ ['/', '/'] <+: parsed.path then
      withQuery parsed.path parsed.query
    else "/"
  else
    let url ← urlsplit stdlib request.url.toList
    let same ← sameOrigin stdlib parsed url
    return linkOf same parsed

theorem resolveSafeBackUrl_of_filled (isValue : request.value candidate = some value)
    (isFilled : filled value = true) :
    resolveSafeBackUrl stdlib request candidate =
      resolveValue stdlib request value := by
  rw [resolveSafeBackUrl, isValue, Option.filter_some, if_pos isFilled]
  rfl

theorem resolveValue_of_relative (isParsed : urlparse stdlib value.toList = .ok parsed)
    (relative : IsRelative parsed) :
    resolveValue stdlib request value =
      .ok (if ['/'] <+: parsed.path ∧ ¬ ['/', '/'] <+: parsed.path then
        withQuery parsed.path parsed.query else "/") := by
  rw [resolveValue, isParsed]
  change (if IsRelative parsed then _ else _) = _
  rw [if_pos relative]
  rfl

theorem resolveValue_of_absolute (isParsed : urlparse stdlib value.toList = .ok parsed)
    (absolute : ¬ IsRelative parsed) :
    resolveValue stdlib request value = do
      let url ← urlsplit stdlib request.url.toList
      let same ← sameOrigin stdlib parsed url
      return linkOf same parsed := by
  rw [resolveValue, isParsed]
  change (if IsRelative parsed then _ else _) = _
  rw [if_neg absolute]

theorem resolves_relative (isParsed : urlparse stdlib value.toList = .ok parsed)
    (relative : IsRelative parsed) :
    (∃ link, resolveValue stdlib request value = .ok link ∧ SafePath link ∧
        ∀ url, urlsplit stdlib request.url.toList = .ok url →
          NamesOther stdlib parsed url → link = "/") ↔
      ¬ ['/', '\\'] <+: parsed.path := by
  rw [← @safePath_relative parsed, resolveValue_of_relative isParsed relative]
  constructor
  · rintro ⟨_, ⟨⟩, safe, -⟩
    exact safe
  · exact fun safe => ⟨_, rfl, safe, fun url _ other =>
      absurd other (not_namesOther_of_relative relative)⟩

theorem resolves_absolute (isParsed : urlparse stdlib value.toList = .ok parsed)
    (absolute : ¬ IsRelative parsed) :
    (∃ link, resolveValue stdlib request value = .ok link ∧ SafePath link ∧
        ∀ url, urlsplit stdlib request.url.toList = .ok url →
          NamesOther stdlib parsed url → link = "/") ↔
      ∃ url, urlsplit stdlib request.url.toList = .ok url ∧
        SoundOrigin stdlib parsed url := by
  rw [resolveValue_of_absolute isParsed absolute]
  cases isUrl : urlsplit stdlib request.url.toList with
  | error error =>
      refine iff_of_false ?_ ?_
      · rintro ⟨_, ⟨⟩, -⟩
      · rintro ⟨_, ⟨⟩, -⟩
  | ok url =>
      have sound := @sound_absolute stdlib value parsed url isParsed absolute
      constructor
      · rintro ⟨link, isLink, safe, others⟩
        refine ⟨url, rfl, sound.mp ?_⟩
        cases isSame : sameOrigin stdlib parsed url with
        | error error =>
            change (sameOrigin stdlib parsed url >>= _) = _ at isLink
            rw [isSame] at isLink
            cases isLink
        | ok same =>
            change (sameOrigin stdlib parsed url >>= _) = _ at isLink
            rw [isSame] at isLink
            cases isLink
            exact ⟨same, rfl, safe, others url rfl⟩
      · rintro ⟨_, ⟨⟩, isSound⟩
        obtain ⟨same, isSame, safe, others⟩ := sound.mpr isSound
        refine ⟨linkOf same parsed, ?_, safe, ?_⟩
        · change (sameOrigin stdlib parsed url >>= _) = _
          rw [isSame]
          rfl
        · rintro _ ⟨⟩
          exact others

/-! ## The result -/

/-- The function returns a safe path exactly when the value is sound. -/
theorem resolves_iff_sound (stdlib : Stdlib) (request : PageRequest)
    (candidate : Option String) :
    Resolves stdlib request candidate ↔ Sound stdlib request candidate := by
  by_cases hasValue : ∃ value, request.value candidate = some value ∧
      filled value = true
  case neg =>
    have isRoot : resolveSafeBackUrl stdlib request candidate = .ok "/" := by
      have nothing : (request.value candidate).filter filled = none := by
        rw [Option.filter_eq_none_iff]
        exact fun value isValue isFilled => hasValue ⟨value, isValue, isFilled⟩
      rw [resolveSafeBackUrl, nothing]
    refine iff_of_true ⟨"/", isRoot, safePath_slash, fun _ _ _ _ _ _ _ => rfl⟩ ?_
    exact fun value isValue isFilled => absurd ⟨value, isValue, isFilled⟩ hasValue
  obtain ⟨value, isValue, isFilled⟩ := hasValue
  unfold Resolves Sound
  rw [resolveSafeBackUrl_of_filled isValue isFilled, isValue]
  cases isParsed : urlparse stdlib value.toList with
  | error error =>
      refine iff_of_false ?_ fun sound => ?_
      · rintro ⟨_, failed, -⟩
        rw [resolveValue, isParsed] at failed
        cases failed
      · obtain ⟨_, failed, -⟩ := sound value rfl isFilled
        cases isParsed.symm.trans failed
  | ok parsed =>
      have condition : (∃ link, resolveValue stdlib request value = .ok link ∧
          SafePath link ∧ ∀ url, urlsplit stdlib request.url.toList = .ok url →
            NamesOther stdlib parsed url → link = "/") ↔
          if IsRelative parsed then ¬ ['/', '\\'] <+: parsed.path
          else ∃ url, urlsplit stdlib request.url.toList = .ok url ∧
            SoundOrigin stdlib parsed url := by
        split_ifs with relative
        · exact resolves_relative isParsed relative
        · exact resolves_absolute isParsed relative
      constructor
      · rintro ⟨link, isLink, safe, others⟩ _ ⟨⟩ -
        refine ⟨parsed, isParsed, condition.mp ⟨link, isLink, safe, ?_⟩⟩
        exact fun url => others value parsed url rfl isParsed
      · intro sound
        obtain ⟨_, isSame, isSound⟩ := sound value rfl isFilled
        cases isParsed.symm.trans isSame
        obtain ⟨link, isLink, safe, others⟩ := condition.mpr isSound
        refine ⟨link, isLink, safe, ?_⟩
        rintro _ _ url ⟨⟩ isSame'
        cases isParsed.symm.trans isSame'
        exact others url

end Branches

/-! ## Two slashes -/

/-- A library for ASCII, without IPv6 addresses. -/
def asciiLibrary : Stdlib where
  lower text := text.map Char.toLower
  nfkc text := text
  isIPv6Address _ := false

def page : PageRequest where
  url := "https://example.com/login"
  referer := some "https://example.com//attacker.example/phish"

/-- A Referer on the request's own host gives a link to another one. -/
theorem two_slashes_leave_origin :
    resolveSafeBackUrl asciiLibrary page none = .ok "//attacker.example/phish" ∧
      ¬ Resolves asciiLibrary page none := by
  have resolved : resolveSafeBackUrl asciiLibrary page none =
      .ok "//attacker.example/phish" := by decide +kernel
  refine ⟨resolved, ?_⟩
  rintro ⟨_, isLink, ⟨rest, starts, next⟩, -⟩
  rw [resolved] at isLink
  cases isLink
  have isRest : "/attacker.example/phish".toList = rest := (List.cons.inj starts).2
  exact (next '/' (isRest ▸ rfl)).1 rfl

end BackLinks

end HexIam
