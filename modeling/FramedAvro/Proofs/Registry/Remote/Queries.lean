import FramedAvro.Proofs.Registry.Remote.Addresses
import FramedAvro.Proofs.Url.Form

/-!
# Queries of calls

The URL of a call is that of the registry with another path and another query. So a request goes to
the server of the registry, whatever the names in it are, and it asks for what the call says and
nothing else: a query that the URL of the registry brings is gone, and the values of the parameters
come back as they were given, also those that look like further parameters.

## Main definitions

* `RemoteCall.asked`: what a call asks for.
* `Url.SameServer`: URLs of one server, reached with the same credentials.
* `Url.pairs?`: the names and values in the query of a URL.

## Main results

* `RemoteCall.pairs_url`: where the request of a call goes, and what it asks for.
-/

namespace FramedAvro

namespace Url

/-- The server, how it is reached and as whom. -/
structure SameServer (url other : Url) : Prop where
  scheme : url.scheme = other.scheme
  user : url.user = other.user
  password : url.password = other.password
  host : url.host = other.host
  port : url.port = other.port

/-- The names and values in the query, if there is one. -/
def pairs? (url : Url) : Option (List (String × String)) :=
  url.query.map fun query => Form.decodePairs query.toList

/-- The URL without what comes after the path. -/
def upToPath (url : Url) : Url :=
  { url with query := none, fragment := none }

/-- Adding a segment changes nothing but the path. -/
theorem exists_withSegment (url : Url) (segment : String) :
    ∃ path, url.withSegment segment = { url with path := path } := by
  rw [withSegment]
  split
  · split
    · exact ⟨url.path, rfl⟩
    · exact ⟨_, rfl⟩
  · exact ⟨url.path, rfl⟩

/-- Adding segments changes nothing but the path. -/
theorem exists_withSegments (url : Url) (segments : List String) :
    ∃ path, url.withSegments segments = { url with path := path } := by
  induction segments generalizing url with
  | nil => exact ⟨url.path, rfl⟩
  | cons segment rest ih =>
      obtain ⟨path, hpath⟩ := url.exists_withSegment segment
      obtain ⟨last, hlast⟩ := ih (url.withSegment segment)
      rw [hpath] at hlast
      exact ⟨last, by rw [withSegments, List.foldl_cons, hpath]; exact hlast⟩

/-- Only the path loses its end. -/
theorem exists_withoutEmptyEnd (url : Url) :
    ∃ path, url.withoutEmptyEnd = { url with path := path } := by
  rw [withoutEmptyEnd]
  split
  · split
    · exact ⟨_, rfl⟩
    · exact ⟨url.path, rfl⟩
  · exact ⟨url.path, rfl⟩

/-- What comes after the path plays no part when a segment is added. -/
theorem upToPath_withSegment (url : Url) (segment : String) :
    (url.withSegment segment).upToPath = url.upToPath.withSegment segment := by
  obtain ⟨scheme, user, password, host, port, path, query, fragment⟩ := url
  cases path with
  | whole text => rfl
  | segments parts =>
      simp only [withSegment, upToPath]
      split <;> rfl

/-- What comes after the path has no say in the segments that are added. -/
theorem upToPath_withSegments (url : Url) (segments : List String) :
    (url.withSegments segments).upToPath = url.upToPath.withSegments segments := by
  induction segments generalizing url with
  | nil => rfl
  | cons segment rest ih =>
      have hrest := ih (url.withSegment segment)
      rw [upToPath_withSegment] at hrest
      exact hrest

/-- What comes after the path has no say in how the path ends. -/
theorem upToPath_withoutEmptyEnd (url : Url) :
    url.withoutEmptyEnd.upToPath = url.upToPath.withoutEmptyEnd := by
  obtain ⟨scheme, user, password, host, port, path, query, fragment⟩ := url
  cases path with
  | whole text => rfl
  | segments parts =>
      simp only [withoutEmptyEnd, upToPath]
      split <;> rfl

/-- Another path and another query leave the server as it is. -/
theorem sameServer_withQuery (url : Url) (segments : List String)
    (pairs : List (String × String)) :
    ((url.upToPath.withoutEmptyEnd.withSegments segments).withQuery pairs).SameServer url ∧
      ((url.upToPath.withoutEmptyEnd.withSegments segments).withQuery pairs).fragment = none := by
  obtain ⟨trimmed, htrimmed⟩ := url.upToPath.exists_withoutEmptyEnd
  obtain ⟨path, hpath⟩ := url.upToPath.withoutEmptyEnd.exists_withSegments segments
  rw [hpath, htrimmed]
  exact ⟨⟨rfl, rfl, rfl, rfl, rfl⟩, rfl⟩

/-- The names and values that a query was written for are in it, and without any there is none. -/
theorem pairs?_withQuery (url : Url) (pairs : List (String × String)) :
    (url.withQuery pairs).pairs? = if pairs.isEmpty then none else some pairs := by
  rw [pairs?, withQuery]
  cases pairs with
  | nil => rfl
  | cons pair rest =>
      have hdecoded := Form.decodePairs_encodePairs (pair :: rest)
      simp only [List.isEmpty_cons, Bool.false_eq_true, if_false, Option.map_some,
        String.toList_ofList, hdecoded]

end Url

namespace RemoteCall

/-- What a call asks for, by names and values, if it asks by a query at all. -/
def asked : RemoteCall → Option (List (String × String))
  | searchByContent group _ =>
    some ([("canonical", "true"), ("artifactType", "AVRO"), ("limit", "10")] ++
      group.toList.map fun text => ("groupId", text))
  | listArtifacts group name type limit =>
    some ([("artifactType", type)] ++ (limit.toList.map fun count => ("limit", toString count)) ++
      (group.toList.map fun text => ("groupId", text)) ++
      name.toList.map fun text => ("name", text))
  | postArtifact _ _ => some [("ifExists", "CREATE_VERSION")]
  | getById _ => none
  | getLatest _ => none
  | getArtifact _ => none
  | postVersion _ _ => none

/-- A call has parameters for what it asks for. -/
theorem asked_eq (call : RemoteCall) :
    call.asked = if call.parameters.isEmpty then none else some call.parameters := by
  cases call with
  | searchByContent group schema => cases group <;> rfl
  | listArtifacts group name type limit => cases group <;> cases name <;> cases limit <;> rfl
  | getById _ | getLatest _ | getArtifact _ | postArtifact _ _ | postVersion _ _ => rfl

/-- The URL of a call in terms of the URL of the registry. -/
theorem url_eq_ok_iff {call : RemoteCall} {base : String} {url : Url} :
    call.url base = .ok url ↔ ∃ parsed parts, Url.parse base = .ok parsed ∧
      parsed.path = .segments parts ∧
        url = (parsed.upToPath.withoutEmptyEnd.withSegments
          (apiSegments ++ call.segments)).withQuery call.parameters := by
  have hwritten (parsed : Url) :
      ({ parsed.withoutEmptyEnd.withSegments (apiSegments ++ call.segments) with
        fragment := none }).withQuery call.parameters =
      (parsed.upToPath.withoutEmptyEnd.withSegments
        (apiSegments ++ call.segments)).withQuery call.parameters := by
    rw [← Url.upToPath_withoutEmptyEnd, ← Url.upToPath_withSegments]
    rfl
  rw [RemoteCall.url]
  cases hparse : Url.parse base with
  | error fault => simp
  | ok parsed =>
      cases hpath : parsed.path with
      | whole text => simp [hpath]
      | segments parts => simp [hpath, hwritten, eq_comm]

/-- The request of a call goes to the server of the registry, without a fragment, and its query asks
for what the call asks for, with the very texts of the caller. Nothing that comes after the path in
the URL of the registry has a say. -/
theorem pairs_url {call : RemoteCall} {base : String} {url : Url} (h : call.url base = .ok url) :
    ∃ parsed, Url.parse base = .ok parsed ∧ url.SameServer parsed ∧ url.fragment = none ∧
      url.pairs? = call.asked ∧ (url.query = none ↔ call.asked = none) ∧
      ∀ (other : String) (own : Url), Url.parse other = .ok own →
        own.upToPath = parsed.upToPath → call.url other = .ok url := by
  obtain ⟨parsed, parts, hparse, hpath, rfl⟩ := url_eq_ok_iff.1 h
  obtain ⟨hserver, hfragment⟩ := parsed.sameServer_withQuery (apiSegments ++ call.segments)
    call.parameters
  have hpairs : ((parsed.upToPath.withoutEmptyEnd.withSegments
      (apiSegments ++ call.segments)).withQuery call.parameters).pairs? = call.asked := by
    rw [Url.pairs?_withQuery, asked_eq]
  refine ⟨parsed, hparse, hserver, hfragment, hpairs, ?_, ?_⟩
  · rw [← hpairs, Url.pairs?, Option.map_eq_none_iff]
  · intro other own hown hsame
    have hsegmented : own.path = .segments parts := (congrArg Url.path hsame).trans hpath
    exact url_eq_ok_iff.2 ⟨own, parts, hown, hsegmented, by rw [hsame]⟩

/-- A listing whose group looks like two parameters and whose name is empty. -/
def forgedListing : RemoteCall :=
  listArtifacts (some "a&name=b#c") (some "") "AV+RO %26" (some 100)

/-- The URL of a registry with credentials, and with a query and a fragment of its own. -/
def crowdedBase : String :=
  "HTTP://me:pw@Reg.test:8080/api/?limit=1&groupId=x#top"

/-- A group that looks like parameters, an empty name and a type with signs of a query, at a
registry whose own URL has credentials, a query and a fragment. -/
theorem pairs_url_forged :
    ∃ url parsed, forgedListing.url crowdedBase = .ok url ∧
      Url.parse crowdedBase = .ok parsed ∧ parsed.query = some "limit=1&groupId=x" ∧
      url.query = some
        "artifactType=AV%2BRO+%2526&limit=100&groupId=a%26name%3Db%23c&name=" ∧
      url.SameServer parsed ∧ url.pairs? = some [("artifactType", "AV+RO %26"), ("limit", "100"),
        ("groupId", "a&name=b#c"), ("name", "")] := by
  have hparse : Url.parse crowdedBase =
      .ok ⟨"http", "me", some "pw", some (.domain "reg.test"), some 8080, .segments ["api", ""],
        some "limit=1&groupId=x", some "top"⟩ := by decide +kernel
  obtain ⟨url, hurl⟩ : ∃ url, forgedListing.url crowdedBase = .ok url :=
    ⟨_, url_eq_ok_iff.2 ⟨_, _, hparse, rfl, rfl⟩⟩
  have hquery : (forgedListing.url crowdedBase).toOption.bind Url.query = some
      "artifactType=AV%2BRO+%2526&limit=100&groupId=a%26name%3Db%23c&name=" := by decide +kernel
  rw [hurl] at hquery
  obtain ⟨parsed, hparsed, hserver, -, hpairs, -⟩ := pairs_url hurl
  obtain rfl := Except.ok.inj (hparse.symm.trans hparsed)
  exact ⟨url, _, hurl, hparse, rfl, hquery, hserver, hpairs⟩

end RemoteCall

end FramedAvro
