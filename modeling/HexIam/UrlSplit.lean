import Mathlib.Data.List.TakeWhile

/-!
# Splitting URLs

`urlsplit` and `urlparse` of Python's `urllib.parse`, on lists of characters.  They
accept any text except for a few authorities, and the port is checked when it is
read.  Unicode and IP addresses are parameters.
-/

namespace UrlSplit

abbrev Text := List Char

/-- The functions of the standard library that know Unicode and IP addresses. -/
structure Stdlib where
  /-- `str.lower`. -/
  lower : Text → Text
  /-- `unicodedata.normalize("NFKC", ..)`. -/
  nfkc : Text → Text
  /-- Whether `ipaddress.ip_address` gives an IPv6 address. -/
  isIPv6Address : Text → Bool

/-- The reasons of a `ValueError`. -/
inductive UrlError : Type
  | invalidIPv6Url
  | invalidAddress
  | invalidCharacters
  | portNotInteger
  | portOutOfRange
  deriving DecidableEq, Repr

/-! ## Parts of a text -/

/-- `text.partition(separator)` without the separator. -/
def partition (separator : Char) (text : Text) : Text × Text :=
  (text.takeWhile (· ≠ separator), (text.dropWhile (· ≠ separator)).drop 1)

/-- `text.rpartition(separator)[2]`. -/
def afterLast (separator : Char) (text : Text) : Text :=
  (text.reverse.takeWhile (· ≠ separator)).reverse

/-- The text up to its last separator, with this. -/
def uptoLast (separator : Char) (text : Text) : Text :=
  (text.reverse.dropWhile (· ≠ separator)).reverse

def isControlOrSpace (char : Char) : Bool :=
  char.toNat ≤ 0x20

def isAlpha (char : Char) : Bool :=
  ('a' ≤ char && char ≤ 'z') || ('A' ≤ char && char ≤ 'Z')

def isDigit (char : Char) : Bool :=
  '0' ≤ char && char ≤ '9'

def isHexDigit (char : Char) : Bool :=
  isDigit char || ('a' ≤ char && char ≤ 'f') || ('A' ≤ char && char ≤ 'F')

def isSchemeChar (char : Char) : Bool :=
  isAlpha char || isDigit char || char ∈ ['+', '-', '.']

def isAscii (text : Text) : Bool :=
  text.all fun char => char.toNat < 0x80

/-! ## Authorities -/

section Authorities

variable (stdlib : Stdlib)

/-- `re.match(r"\\Av[a-fA-F0-9]+\\..+\\Z", hostname)` behind the `v`. -/
def isIPvFuture (text : Text) : Bool :=
  let (version, address) := partition '.' text
  version ≠ [] && version.all isHexDigit && address ≠ []

def checkBracketedHost (hostname : Text) : Except UrlError Unit :=
  match hostname with
  | 'v' :: rest => if isIPvFuture rest then .ok () else .error .invalidAddress
  | _ => if stdlib.isIPv6Address hostname then .ok () else .error .invalidAddress

def checkBracketedNetloc (netloc : Text) : Except UrlError Unit :=
  let hostnameAndPort := afterLast '@' netloc
  if '[' ∈ hostnameAndPort then
    let (beforeBracket, bracketed) := partition '[' hostnameAndPort
    let (hostname, port) := partition ']' bracketed
    if beforeBracket ≠ [] then .error .invalidIPv6Url
    else if port ≠ [] ∧ port.head? ≠ some ':' then .error .invalidIPv6Url
    else checkBracketedHost stdlib hostname
  else checkBracketedHost stdlib (partition ':' hostnameAndPort).1

/-- `_checknetloc`. -/
def checkNetloc (netloc : Text) : Except UrlError Unit :=
  if netloc = [] ∨ isAscii netloc then .ok ()
  else
    let known := netloc.filter (· ∉ ['@', ':', '#', '?'])
    let normalized := stdlib.nfkc known
    if known = normalized then .ok ()
    else if ['/', '?', '#', '@', ':'].any (· ∈ normalized) then
      .error .invalidCharacters
    else .ok ()

/-- The checks of the brackets in `urlsplit`. -/
def checkBrackets (netloc : Text) : Except UrlError Unit :=
  if '[' ∈ netloc ∧ ']' ∉ netloc ∨ ']' ∈ netloc ∧ '[' ∉ netloc then
    .error .invalidIPv6Url
  else if '[' ∈ netloc ∧ ']' ∈ netloc then checkBracketedNetloc stdlib netloc
  else .ok ()

end Authorities

/-! ## URLs -/

/-- `SplitResult`. -/
structure SplitResult where
  scheme : Text
  netloc : Text
  path : Text
  query : Text
  fragment : Text
  deriving DecidableEq, Repr

/-- The text without leading controls and spaces and without tabs and line ends. -/
def cleaned (url : Text) : Text :=
  (url.dropWhile isControlOrSpace).filter (· ∉ ['\t', '\r', '\n'])

/-- The scheme, or none, and the rest. -/
def splitScheme (url : Text) : Text × Text :=
  let (scheme, rest) := partition ':' url
  if ':' ∈ url ∧ (scheme.head?.any isAlpha) ∧ scheme.all isSchemeChar then
    (scheme.map Char.toLower, rest)
  else ([], url)

/-- `_splitnetloc` behind two slashes. -/
def splitNetloc (url : Text) : Text × Text :=
  match url with
  | '/' :: '/' :: rest =>
      (rest.takeWhile (· ∉ ['/', '?', '#']), rest.dropWhile (· ∉ ['/', '?', '#']))
  | _ => ([], url)

def urlsplit (stdlib : Stdlib) (url : Text) : Except UrlError SplitResult := do
  let scheme := splitScheme (cleaned url)
  let netloc := splitNetloc scheme.2
  checkBrackets stdlib netloc.1
  let fragment := partition '#' netloc.2
  let query := partition '?' fragment.1
  checkNetloc stdlib netloc.1
  return {
    scheme := scheme.1
    netloc := netloc.1
    path := query.1
    query := query.2
    fragment := fragment.2 }

def usesParams : List Text :=
  ["", "ftp", "hdl", "prospero", "http", "imap", "https", "shttp", "rtsp", "rtsps",
    "rtspu", "sip", "sips", "mms", "sftp", "tel"].map String.toList

/-- The path of `_splitparams`: the last segment ends at a semicolon. -/
def withoutParams (path : Text) : Text :=
  uptoLast '/' path ++ (afterLast '/' path).takeWhile (· ≠ ';')

/-- `urlparse`, whose params are left out. -/
def urlparse (stdlib : Stdlib) (url : Text) : Except UrlError SplitResult := do
  let parsed ← urlsplit stdlib url
  return if parsed.scheme ∈ usesParams then
    { parsed with path := withoutParams parsed.path }
  else parsed

namespace SplitResult

variable (parsed : SplitResult)

/-- The host and the port of the authority, as they are written. -/
def hostinfo : Text × Text :=
  let hostinfo := afterLast '@' parsed.netloc
  if '[' ∈ hostinfo then
    let (hostname, rest) := partition ']' (partition '[' hostinfo).2
    (hostname, (partition ':' rest).2)
  else partition ':' hostinfo

def hostname (stdlib : Stdlib) : Option Text :=
  if parsed.hostinfo.1 = [] then none
  else
    some (stdlib.lower (parsed.hostinfo.1.takeWhile (· ≠ '%')) ++
      parsed.hostinfo.1.dropWhile (· ≠ '%'))

def decimal (digits : Text) : Nat :=
  digits.foldl (fun value digit => 10 * value + (digit.toNat - '0'.toNat)) 0

def port : Except UrlError (Option Nat) :=
  let digits := parsed.hostinfo.2
  if digits = [] then .ok none
  else if ¬ digits.all isDigit then .error .portNotInteger
  else if decimal digits ≤ 65535 then .ok (some (decimal digits))
  else .error .portOutOfRange

end SplitResult

/-! ## Paths behind an authority -/

/-- The text is empty or starts with a slash. -/
def Rooted (text : Text) : Prop :=
  text = [] ∨ ∃ rest, text = '/' :: rest

theorem uptoLast_append_afterLast (separator : Char) (text : Text) :
    uptoLast separator text ++ afterLast separator text = text := by
  rw [uptoLast, afterLast, ← List.reverse_append, List.takeWhile_append_dropWhile,
    List.reverse_reverse]

theorem uptoLast_ne_nil {separator : Char} {text : Text} (mem : separator ∈ text) :
    uptoLast separator text ≠ [] := by
  rw [uptoLast, Ne, List.reverse_eq_nil_iff, List.dropWhile_eq_nil_iff]
  intro others
  have other := others separator (List.mem_reverse.mpr mem)
  simp at other

theorem rooted_withoutParams {path : Text} (rooted : Rooted path) :
    Rooted (withoutParams path) := by
  rcases rooted with rfl | ⟨rest, rfl⟩
  · exact .inl rfl
  · have whole := uptoLast_append_afterLast '/' ('/' :: rest)
    cases isFront : uptoLast '/' ('/' :: rest) with
    | nil => exact absurd isFront (uptoLast_ne_nil List.mem_cons_self)
    | cons first others =>
        rw [isFront, List.cons_append, List.cons.injEq] at whole
        rw [withoutParams, isFront, whole.1]
        exact .inr ⟨_, rfl⟩

/-- Behind an authority comes a path with a slash, a query, a fragment or nothing. -/
theorem head_of_splitNetloc {url : Text} (hasNetloc : (splitNetloc url).1 ≠ []) :
    (splitNetloc url).2 = [] ∨
      ∃ first ∈ ['/', '?', '#'], ∃ rest, (splitNetloc url).2 = first :: rest := by
  obtain ⟨rest, rfl⟩ : ∃ rest, url = '/' :: '/' :: rest := by
    unfold splitNetloc at hasNetloc
    split at hasNetloc
    case h_1 rest => exact ⟨rest, rfl⟩
    case h_2 => exact absurd rfl hasNetloc
  change rest.dropWhile (· ∉ ['/', '?', '#']) = [] ∨
    ∃ first ∈ ['/', '?', '#'], ∃ others,
      rest.dropWhile (· ∉ ['/', '?', '#']) = first :: others
  have stops := List.head?_dropWhile_not (· ∉ ['/', '?', '#']) rest
  cases isRest : rest.dropWhile (· ∉ ['/', '?', '#']) with
  | nil => exact .inl rfl
  | cons first others =>
      rw [isRest] at stops
      exact .inr ⟨first, not_not.mp (of_decide_eq_false stops), others, rfl⟩

theorem rooted_path {rest : Text} (starts : rest = [] ∨
      ∃ first ∈ ['/', '?', '#'], ∃ others, rest = first :: others) :
    Rooted (partition '?' (partition '#' rest).1).1 := by
  rcases starts with rfl | ⟨first, isFirst, others, rfl⟩
  · exact .inl rfl
  · simp only [List.mem_cons, List.not_mem_nil, or_false] at isFirst
    rcases isFirst with rfl | rfl | rfl
    · exact .inr ⟨_, rfl⟩
    · exact .inl rfl
    · exact .inl rfl

theorem urlsplit_eq_ok {stdlib : Stdlib} {url : Text} {parsed : SplitResult}
    (isParsed : urlsplit stdlib url = .ok parsed) :
    let netloc := splitNetloc (splitScheme (cleaned url)).2
    parsed.netloc = netloc.1 ∧
      parsed.path = (partition '?' (partition '#' netloc.2).1).1 := by
  unfold urlsplit at isParsed
  dsimp only at isParsed
  cases brackets : checkBrackets stdlib (splitNetloc (splitScheme (cleaned url)).2).1 with
  | error error =>
      rw [brackets] at isParsed
      cases isParsed
  | ok _ =>
      rw [brackets] at isParsed
      cases characters : checkNetloc stdlib
          (splitNetloc (splitScheme (cleaned url)).2).1 with
      | error error =>
          rw [characters] at isParsed
          cases isParsed
      | ok _ =>
          rw [characters] at isParsed
          cases isParsed
          exact ⟨rfl, rfl⟩

theorem rooted_of_urlparse {stdlib : Stdlib} {url : Text} {parsed : SplitResult}
    (isParsed : urlparse stdlib url = .ok parsed) (hasNetloc : parsed.netloc ≠ []) :
    Rooted parsed.path := by
  unfold urlparse at isParsed
  cases isSplit : urlsplit stdlib url with
  | error error =>
      rw [isSplit] at isParsed
      cases isParsed
  | ok split =>
      obtain ⟨netloc, path⟩ := urlsplit_eq_ok isSplit
      have rooted : split.netloc ≠ [] → Rooted split.path := by
        rw [netloc, path]
        exact fun hasNetloc => rooted_path (head_of_splitNetloc hasNetloc)
      rw [isSplit] at isParsed
      change Except.ok (if split.scheme ∈ usesParams then _ else split) = _ at isParsed
      split_ifs at isParsed with hasParams
      · cases isParsed
        exact rooted_withoutParams (rooted hasNetloc)
      · cases isParsed
        exact rooted hasNetloc

end UrlSplit
