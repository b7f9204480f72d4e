import FramedAvro.Url.Basic

/-!
# Reading URLs

`Url.parse` reads a text by the rules of the web: blanks around it do not count, schemes and domains
are in lower case, a port that need not be said is left out, dots in the path are followed, and
characters that may not stand where they do are percent-encoded.

## Main definitions

* `Url.Fault`: why a text is no URL.
* `Url.parse`: the URL of a text.
-/

namespace FramedAvro.Url

/-- Why a text is no URL. -/
inductive Fault where
  /-- There is no scheme in front. -/
  | noScheme
  | emptyHost
  | invalidHost
  | invalidPort
deriving DecidableEq, Repr

/-- The text of a fault. -/
def Fault.describe : Fault → String
  | noScheme => "relative URL without a base"
  | emptyHost => "empty host"
  | invalidHost => "invalid host"
  | invalidPort => "invalid port number"

/-! ### Pieces -/

/-- The characters that count: without blanks and controls around them, and without tabs and line
ends between them. -/
def significant (text : String) : List Char :=
  let blank (c : Char) : Bool := c.toNat ≤ 0x20
  let s := text.toList.dropWhile blank
  ((s.reverse.dropWhile blank).reverse).filter (!isDropped ·)

/-- Whether a character may stand in a scheme after the first. -/
def isSchemeChar (c : Char) : Bool :=
  c.isAlphanum || ['+', '-', '.'].contains c

/-- The scheme in lower case, and what follows its colon. -/
def readScheme (s : List Char) : Option (String × List Char) :=
  match s with
  | [] => none
  | c :: _ =>
    if !c.isAlpha then none
    else
      match s.dropWhile isSchemeChar with
      | ':' :: rest => some ((String.ofList (s.takeWhile isSchemeChar)).toLower, rest)
      | _ => none

/-- Whether the authority ends before a character. -/
def endsAuthority (special : Bool) (c : Char) : Bool :=
  ['/', '?', '#'].contains c || (special && c = '\\')

/-- The parts before and after the last `@`. -/
def splitAtLastAt (s : List Char) : Option (List Char × List Char) :=
  let reversed := s.reverse
  match reversed.dropWhile (· ≠ '@') with
  | _ :: before => some (before.reverse, (reversed.takeWhile (· ≠ '@')).reverse)
  | [] => none

/-- The host and what follows it: a colon in brackets does not end it. -/
def splitHost (special : Bool) : (inBrackets : Bool) → List Char → List Char × List Char
  | _, [] => ([], [])
  | inBrackets, c :: rest =>
    if (c = ':' && !inBrackets) || endsAuthority special c then ([], c :: rest)
    else
      let inBrackets := if c = '[' then true else if c = ']' then false else inBrackets
      let (host, after) := splitHost special inBrackets rest
      (c :: host, after)

/-- The port after the colon, none when there are no digits or it need not be said. A backslash ends
it for all schemes. -/
def readPort (scheme : String) (s : List Char) : Except Fault (Option Nat × List Char) :=
  let digits := s.takeWhile Char.isDigit
  let rest := s.dropWhile Char.isDigit
  if !rest.head?.all (endsAuthority true) then .error .invalidPort
  else
    match Host.ofDigits? 10 digits with
    | some n =>
      if 65535 < n then .error .invalidPort
      else if digits.isEmpty ∨ ports.lookup scheme = some n then .ok (none, rest)
      else .ok (some n, rest)
    | none => .error .invalidPort

/-! ### Paths, queries and fragments -/

/-- The text before a character, and the text after it if it is there. -/
def splitOnce (p : Char → Bool) (s : List Char) : List Char × Option (List Char) :=
  match s.dropWhile (!p ·) with
  | _ :: after => (s.takeWhile (!p ·), some after)
  | [] => (s, none)

/-- Whether a character stands between segments. -/
def isSlash (special : Bool) (c : Char) : Bool :=
  c = '/' || (special && c = '\\')

/-- The parts between slashes. -/
def splitSegments (special : Bool) : List Char → List (List Char)
  | [] => [[]]
  | c :: rest =>
    if isSlash special c then [] :: splitSegments special rest
    else
      match splitSegments special rest with
      | part :: parts => (c :: part) :: parts
      | [] => [[c]]

/-- The path so far less its last segment. Segments are the last first. A drive in the path of a
file stays. -/
def ascend (file : Bool) (reversed : List (List Char)) : List (List Char) :=
  if file && reversed.head?.any isDrive then reversed else reversed.drop 1

/-- The path so far with a segment more. A drive in front of the path of a file gets its colon. -/
def descend (file : Bool) (reversed : List (List Char)) (part : List Char) : List (List Char) :=
  (if file && reversed.isEmpty then withColon part else part) :: reversed

/-- The segments after following those that are dots. The first parts are the path so far, the last
first. -/
def followDots (file : Bool) :
    (reversed : List (List Char)) → List (List Char) → List (List Char)
  | reversed, [] => reversed.reverse
  | reversed, [last] =>
    if isDoubleDot last then ([] :: ascend file reversed).reverse
    else if isSingleDot last then ([] :: reversed).reverse
    else (descend file reversed last).reverse
  | reversed, part :: rest =>
    if isDoubleDot part then followDots file (ascend file reversed) rest
    else if isSingleDot part then followDots file reversed rest
    else followDots file (descend file reversed part) rest

/-- The segments of a path that starts with a slash, or of none at all. -/
def readSegments (scheme : String) (s : List Char) : List String :=
  let special := isSpecialScheme scheme
  let parts? : Option (List (List Char)) :=
    match s with
    | [] => if special then some [[]] else none
    | c :: rest => some (splitSegments special (if isSlash special c then rest else c :: rest))
  match parts? with
  | some parts =>
    (followDots (scheme == "file") [] parts).map fun part =>
      String.ofList (Percent.encode Percent.pathSet part)
  | none => []

/-- The URL whose path, query and fragment are given. -/
def finish (url : Url) (path : List Char → Path) (s : List Char) : Url :=
  let (beforeFragment, fragment) := splitOnce (· = '#') s
  let (beforeQuery, query) := splitOnce (· = '?') beforeFragment
  { url with
    path := path beforeQuery
    query := query.map fun q => String.ofList (Percent.encode (Percent.querySet url.isSpecial) q)
    fragment := fragment.map fun f => String.ofList (Percent.encode Percent.fragmentSet f) }

/-- The URL whose segments, query and fragment are given. -/
def finishSegments (url : Url) (s : List Char) : Url :=
  finish url (fun path => .segments (readSegments url.scheme path)) s

/-! ### Authorities -/

/-- A URL of which only the scheme is known. -/
def ofScheme (scheme : String) : Url :=
  ⟨scheme, "", none, none, none, .segments [], none, none⟩

/-- The URL with user name and password. -/
def withCredentials (url : Url) (s : List Char) : Url :=
  let encoded (part : List Char) : String := String.ofList (Percent.encode Percent.userSet part)
  let (user, password) := splitOnce (· = ':') s
  { url with user := encoded user, password := (password.filter (!·.isEmpty)).map encoded }

/-- The host of a URL. Only a scheme without rules has empty ones. -/
def readHost (special : Bool) (s : List Char) : Except Fault Host :=
  if s.isEmpty then if special then .error .emptyHost else .ok (.unknown "")
  else
    match if special then Host.special? s else Host.unknown? s with
    | some host => .ok host
    | none => .error .invalidHost

/-- The URL whose authority and everything after it are given. Without a host there is neither a
port nor anybody to log in, and no sign of a login before a path. -/
def readAuthority (scheme : String) (s : List Char) : Except Fault Url := do
  let special := isSpecialScheme scheme
  let authority := s.takeWhile (!endsAuthority special ·)
  let rest := s.dropWhile (!endsAuthority special ·)
  let (url, s) :=
    match splitAtLastAt authority with
    | some (credentials, after) => ((ofScheme scheme).withCredentials credentials, after ++ rest)
    | none => (ofScheme scheme, s)
  if authority = ['@'] && !rest.isEmpty then .error .emptyHost
  else
    let (hostText, afterHost) := splitHost special false s
    let anybody := !url.user.isEmpty || url.password.isSome
    if hostText.isEmpty && (anybody || afterHost.head? = some ':') then .error .emptyHost
    else
      let host ← readHost special hostText
      match afterHost with
      | ':' :: afterColon =>
        let (port, rest) ← readPort scheme afterColon
        return finishSegments { url with host := some host, port := port } rest
      | rest => return finishSegments { url with host := some host } rest

/-! ### Files -/

/-- The segments without empty ones in front of others. -/
def rooted : List String → List String
  | part :: next :: rest => if part.isEmpty then rooted (next :: rest) else part :: next :: rest
  | parts => parts

/-- The URL of a file by the rules for its path: a drive in front takes the place of the host, and
empty segments in front are left out. -/
def asFile (url : Url) : Url :=
  match url.path with
  | .segments parts =>
    { url with
      host := if parts.head?.any (isDrive ·.toList) then some (.unknown "") else url.host
      path := .segments (rooted parts) }
  | .whole _ => url

/-- The URL of a file, after the colon. A drive after two slashes is no host. -/
def readFile (s : List Char) : Except Fault Url := do
  let url : Url := { ofScheme "file" with host := some (.unknown "") }
  match s with
  | a :: b :: rest =>
    if isSlash true a && isSlash true b then
      let hostText := rest.takeWhile (!endsAuthority true ·)
      if hostText.isEmpty ∨ isDrive hostText then return (finishSegments url rest).asFile
      else
        let host ← readHost true hostText
        let host := if host = .domain "localhost" then .unknown "" else host
        return (finishSegments { url with host := some host }
          (rest.dropWhile (!endsAuthority true ·))).asFile
    else return (finishSegments url s).asFile
  | s => return (finishSegments url s).asFile

/-- The URL of a text. -/
def parse (text : String) : Except Fault Url :=
  match readScheme (significant text) with
  | none => .error .noScheme
  | some (scheme, s) =>
    if scheme = "file" then readFile s
    else if isSpecialScheme scheme then readAuthority scheme (s.dropWhile (isSlash true))
    else
      match s with
      | '/' :: '/' :: rest => readAuthority scheme rest
      | '/' :: _ => .ok (finishSegments (ofScheme scheme) s)
      | s =>
        .ok (finish (ofScheme scheme)
          (fun path => .whole (String.ofList (Percent.encode Percent.controlSet path))) s)

end FramedAvro.Url
