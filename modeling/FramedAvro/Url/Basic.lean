import FramedAvro.Url.Host

/-!
# URLs

A URL in parts that are written next to each other. The path of most URLs is a list of segments; a
URL without hosts, such as one for mail, has a path without parts instead.

## Main definitions

* `Url`: the parts.
* `Url.withSegment`, `Url.withoutEmptyEnd`: paths that grow and shrink at the end.
* `Url.text`: the text of a URL.
-/

namespace FramedAvro

/-- The path of a URL. Without segments it is empty, and an empty last segment is a slash at the
end. -/
inductive Url.Path where
  | segments (parts : List String)
  | whole (text : String)
deriving DecidableEq, Repr

/-- A URL. -/
structure Url where
  scheme : String
  user : String
  password : Option String
  host : Option Url.Host
  port : Option Nat
  path : Url.Path
  query : Option String
  fragment : Option String
deriving DecidableEq, Repr

namespace Url

/-- The schemes whose URLs must have a host, with the ports that need not be said. -/
def ports : List (String × Nat) :=
  [("http", 80), ("https", 443), ("ws", 80), ("wss", 443), ("ftp", 21)]

/-- Whether hosts and paths follow the rules of the web. -/
def isSpecialScheme (scheme : String) : Bool :=
  (ports.lookup scheme).isSome || scheme == "file"

/-- Whether hosts and paths follow the rules of the web. -/
def isSpecial (url : Url) : Bool :=
  isSpecialScheme url.scheme

/-! ### Paths -/

/-- Whether a segment stands for the place where it is. -/
def isSingleDot (s : List Char) : Bool :=
  ['.'] = s || (String.ofList s).toLower == "%2e"

/-- Whether a segment stands for the place above. -/
def isDoubleDot (s : List Char) : Bool :=
  ["..", "%2e.", ".%2e", "%2e%2e"].contains (String.ofList s).toLower

/-- The characters that are left out wherever they stand. -/
def isDropped (c : Char) : Bool :=
  c = '\t' || c = '\n' || c = '\r'

/-- Whether a text is a drive: a letter, and a colon or a bar. -/
def isDrive : List Char → Bool
  | [c, mark] => c.isAlpha && (mark = ':' || mark = '|')
  | _ => false

/-- A drive in the form with a colon, and any other text as it is. -/
def withColon (s : List Char) : List Char :=
  if isDrive s then s.take 1 ++ [':'] else s

/-- The segments without the last one. A drive in the path of a file stays. -/
def parent (file : Bool) (segments : List String) : List String :=
  if file && segments.getLast?.any (isDrive ·.toList) then segments else segments.dropLast

/-- The segments with one more. On a path that is only a slash it takes the place of the empty
segment, where a drive gets its colon. A segment that becomes one or two dots when characters are
left out ends the path with a slash, two dots also taking away the segment before. -/
def addSegment (scheme : String) (segments : List String) (segment : String) : List String :=
  let base := if segments = [""] then [] else segments
  let file := scheme == "file"
  let chars := Percent.encode (Percent.segmentSet (isSpecialScheme scheme))
    (segment.toList.filter (!isDropped ·))
  if chars = ['.', '.'] then parent file base ++ [""]
  else if chars = ['.'] then base ++ [""]
  else base ++ [String.ofList (if file && base.isEmpty then withColon chars else chars)]

/-- The URL with a segment at the end of its path. One or two dots are no segment. -/
def withSegment (url : Url) (segment : String) : Url :=
  match url.path with
  | .segments parts =>
    if segment = "." ∨ segment = ".." then url
    else { url with path := .segments (addSegment url.scheme parts segment) }
  | .whole _ => url

/-- The URL with segments at the end of its path. -/
def withSegments (url : Url) (segments : List String) : Url :=
  segments.foldl withSegment url

/-- The URL without the slash at the end of its path, unless the path is only a slash. -/
def withoutEmptyEnd (url : Url) : Url :=
  match url.path with
  | .segments parts =>
    if 1 < parts.length ∧ parts.getLast? = some "" then
      { url with path := .segments parts.dropLast }
    else url
  | .whole _ => url

/-- The URL with a query of names and values, or without one when there are none. -/
def withQuery (url : Url) (pairs : List (String × String)) : Url :=
  { url with
    query := if pairs.isEmpty then none else some (String.ofList (Form.encodePairs pairs)) }

/-! ### Texts -/

/-- The text of a path. -/
def Path.text : Path → String
  | .segments parts => String.join (parts.map ("/" ++ ·))
  | .whole text => text

/-- The user name and the password with the signs around them. -/
def credentials (url : Url) : String :=
  match url.password with
  | some password => url.user ++ ":" ++ password ++ "@"
  | none => if url.user.isEmpty then "" else url.user ++ "@"

/-- The slashes, the credentials, the host and the port. -/
def authority (url : Url) : String :=
  match url.host with
  | some host =>
    "//" ++ url.credentials ++ host.text ++
      (match url.port with
        | some port => ":" ++ toString port
        | none => "")
  | none => ""

/-- The text of a URL. -/
def text (url : Url) : String :=
  url.scheme ++ ":" ++ url.authority ++ url.path.text ++
    (match url.query with
      | some query => "?" ++ query
      | none => "") ++
    (match url.fragment with
      | some fragment => "#" ++ fragment
      | none => "")

end Url

end FramedAvro
