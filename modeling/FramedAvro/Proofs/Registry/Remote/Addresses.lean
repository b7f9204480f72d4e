import FramedAvro.Proofs.Registry.Remote.Call
import FramedAvro.Proofs.Url.Kept

/-!
# Addresses of artifacts

A group or a name is a segment of the URL of a call. Most texts are decoded from the URL again, also
those with slashes, percent signs or signs of a query in them, so that calls for different artifacts
have different URLs. The texts that are not are one or two dots, and whatever has a tab or an end of
line in it: such a text is not what the segment says, and the call is for another artifact.

## Main definitions

* `RemoteCall.texts`: the texts of a caller in the path of a call.
* `RemoteCall.baseSegments`: the segments under which a registry is.

## Main results

* `RemoteCall.decoded_url_iff`: which calls have URLs from which their segments are decoded.
* `RemoteCall.shared_url`: two coordinates that share a URL.
-/

namespace FramedAvro

/-- A text that is added as it is is kept. -/
theorem Url.IsPlain.isKept {segment : String} (h : IsPlain segment) : IsKept segment := by
  refine ⟨?_, ?_, fun c hc => (h c hc).1⟩
  · rintro rfl
    exact (h '.' (by decide)).2.1 rfl
  · rintro rfl
    exact (h '.' (by decide)).2.1 rfl

/-- A text that is added as it is comes after what is there. -/
theorem Url.IsPlain.add_eq {segment : String} (h : IsPlain segment) (scheme : String)
    (parts : List String) : add scheme parts segment = cleared parts ++ [segment] := by
  rw [add, if_neg (not_or.2 ⟨h.isKept.1, h.isKept.2.1⟩), h.addSegment_eq, cleared]

/-- A text that is added as it is is decoded as it is. -/
theorem Url.IsPlain.decoded_eq {segment : String} (h : IsPlain segment) :
    decoded segment = Utf8.encode segment := by
  have hself : Percent.encode (Percent.segmentSet true) segment.toList = segment.toList :=
    Percent.encode_eq_self fun c hc => (h c hc).2.2.2 true
  have hdecoded := decoded_encode true segment.toList
  rwa [hself, String.ofList_toList] at hdecoded

/-- A path that ends with a segment that is not empty is not only a slash. -/
theorem Url.cleared_concat (parts : List String) {segment : String} (h : segment ≠ "") :
    cleared (parts ++ [segment]) = parts ++ [segment] := by
  have hne : parts ++ [segment] ≠ [""] := fun heq =>
    h (List.singleton_inj.1 (List.append_inj' (heq.trans (List.nil_append [""]).symm) rfl).2)
  rw [cleared, if_neg hne]

namespace RemoteCall

/-- The texts of a caller that become segments of the path. -/
def texts : RemoteCall → List String
  | getLatest c => [c.group, c.name]
  | getArtifact c => [c.group, c.name]
  | postArtifact group _ => [group]
  | postVersion c _ => [c.group, c.name]
  | _ => []

/-- The segments of a base, less an empty last one. -/
def baseSegments (parts : List String) : List String :=
  if parts.getLast? = some "" then parts.dropLast else parts

/-- The segments of a call are kept exactly if the texts of the caller are. -/
theorem forall_kept_iff (call : RemoteCall) :
    (∀ segment ∈ call.segments, Url.IsKept segment) ↔ ∀ text ∈ call.texts, Url.IsKept text := by
  have hid (id : UInt32) : Url.IsKept (toString id) :=
    (Url.isPlain_of_isDigit (isDigit_toString_id id)).isKept
  have hids : Url.IsKept "ids" := (isPlain_word _ (by decide)).isKept
  have hglobal : Url.IsKept "globalIds" := (isPlain_word _ (by decide)).isKept
  have hgroups : Url.IsKept "groups" := (isPlain_word _ (by decide)).isKept
  have hartifacts : Url.IsKept "artifacts" := (isPlain_word _ (by decide)).isKept
  have hversions : Url.IsKept "versions" := (isPlain_word _ (by decide)).isKept
  have hlatest : Url.IsKept "branch=latest" := (isPlain_word _ (by decide)).isKept
  have hsearch : Url.IsKept "search" := (isPlain_word _ (by decide)).isKept
  cases call <;> simp [segments, texts, *]

/-- The path under which a registry is. A base with two slashes as its path loses both. -/
theorem path_withoutEmptyEnd {base : Url} {parts : List String} (h : base.path = .segments parts) :
    ∃ trimmed, base.withoutEmptyEnd.path = .segments trimmed ∧
      Url.cleared trimmed = if parts = ["", ""] then [] else baseSegments parts := by
  rw [Url.withoutEmptyEnd, h, baseSegments]
  dsimp only
  by_cases hend : parts.getLast? = some ""
  · obtain ⟨front, rfl⟩ := List.getLast?_eq_some_iff.1 hend
    rw [if_pos hend, List.dropLast_concat]
    rcases front with _ | ⟨first, _ | ⟨second, rest⟩⟩
    · exact ⟨[""], h, rfl⟩
    · refine ⟨[first], rfl, ?_⟩
      rw [Url.cleared]
      by_cases hfirst : first = "" <;> simp [hfirst]
    · refine ⟨first :: second :: rest, by rw [if_pos ⟨by simp, hend⟩], ?_⟩
      rw [Url.cleared_of_length (by simp), if_neg (by simp)]
  · have hslash : parts ≠ [""] ∧ parts ≠ ["", ""] := by
      constructor <;> rintro rfl <;> exact hend rfl
    refine ⟨parts, by simp [hend, h], ?_⟩
    rw [Url.cleared, if_neg hslash.1, if_neg hslash.2, if_neg hend]

/-- The segments that all calls have in common come first. -/
theorem addAll_apiSegments (scheme : String) (parts : List String) :
    Url.addAll scheme parts apiSegments = Url.cleared parts ++ apiSegments := by
  have hword (parts : List String) (word : String) (h : word ∈ ["apis", "registry", "v3"]) :
      Url.add scheme parts word = Url.cleared parts ++ [word] :=
    (isPlain_word word (List.mem_append_left _ h)).add_eq scheme parts
  simp only [apiSegments, Url.addAll, List.foldl_cons, List.foldl_nil]
  rw [hword _ "apis" (by decide), hword _ "registry" (by decide), hword _ "v3" (by decide),
    Url.cleared_concat _ (by decide), Url.cleared_concat _ (by decide), List.append_assoc,
    List.append_assoc]
  rfl

/-- The URL of a call has the segments of the base, those that all calls have in common, and what
becomes of its own. -/
theorem exists_url (call : RemoteCall) {base : String} {parsed : Url} {parts : List String}
    (hbase : Url.parse base = .ok parsed) (hpath : parsed.path = .segments parts) :
    ∃ url scheme, call.url base = .ok url ∧
      url.path = .segments (Url.addAll scheme
        ((if parts = ["", ""] then [] else baseSegments parts) ++ apiSegments) call.segments) := by
  obtain ⟨trimmed, htrimmed, hcleared⟩ := path_withoutEmptyEnd hpath
  have hurl : call.url base = .ok ({ parsed.withoutEmptyEnd.withSegments
      (apiSegments ++ call.segments) with fragment := none }.withQuery call.parameters) := by
    rw [url, hbase]
    simp only [hpath]
  refine ⟨_, parsed.withoutEmptyEnd.scheme, hurl, ?_⟩
  have hadded := Url.withSegments_path htrimmed (apiSegments ++ call.segments)
  rw [Url.addAll_append, addAll_apiSegments, hcleared] at hadded
  exact hadded

/-- A call whose texts are kept has a URL from which its segments are decoded. -/
theorem decoded_of_kept {call : RemoteCall} (hkept : ∀ text ∈ call.texts, Url.IsKept text)
    {scheme : String} {front : List String} :
    (Url.addAll scheme (front ++ apiSegments) call.segments).map Url.decoded =
      (front ++ apiSegments).map Url.decoded ++ call.segments.map Utf8.encode := by
  have hlong : 1 < (front ++ apiSegments).length := by
    simp [apiSegments]
  exact (Url.decoded_addAll_iff scheme hlong call.segments).2 (call.forall_kept_iff.2 hkept)

/-- From the URL of a call to a registry, the segments of the base, of the registry and of the call
are decoded, with the group and the name among them, if and only if the group and the name are kept
and the base has a path other than two slashes. Calls whose groups and names are kept do not share a
URL, unless they have the same segments. -/
theorem decoded_url_iff (call : RemoteCall) {base : String} {parsed : Url} {parts : List String}
    (hbase : Url.parse base = .ok parsed) (hpath : parsed.path = .segments parts) :
    ∃ url, call.url base = .ok url ∧
      (url.path.decoded? = some ((baseSegments parts).map Url.decoded ++
          (apiSegments ++ call.segments).map Utf8.encode) ↔
        parts ≠ ["", ""] ∧ ∀ text ∈ call.texts, Url.IsKept text) ∧
      ((∀ text ∈ call.texts, Url.IsKept text) → ∀ other : RemoteCall,
        (∀ text ∈ other.texts, Url.IsKept text) → other.url base = .ok url →
          other.segments = call.segments) := by
  obtain ⟨url, scheme, hurl, hsegments⟩ := call.exists_url hbase hpath
  refine ⟨url, hurl, ?_, fun hkept other hother hsame => ?_⟩
  · have hcommon : apiSegments.map Url.decoded = apiSegments.map Utf8.encode :=
      List.map_congr_left fun word hword =>
        (isPlain_word word (List.mem_append_left _ hword)).decoded_eq
    rw [hsegments, Url.Path.decoded?, Option.some.injEq]
    by_cases hslash : parts = ["", ""]
    · -- The base keeps no segment, so one is missing from the URL.
      refine iff_of_false (fun hsame => ?_) fun h => h.1 hslash
      have hlength := congrArg List.length hsame
      have hlong : 1 < ([] ++ apiSegments).length := by decide
      have hmost := (Url.length_addAll scheme hlong call.segments).2
      have hone : (baseSegments ["", ""]).length = 1 := rfl
      rw [if_pos hslash, hslash] at hlength
      simp only [List.length_map, List.length_append, List.length_nil, hone] at hlength hmost
      omega
    · rw [if_neg hslash, List.map_append, ← List.append_assoc, ← hcommon, ← List.map_append,
        Url.decoded_addAll_iff scheme (by simp [apiSegments]), call.forall_kept_iff]
      exact ⟨fun hkept => ⟨hslash, hkept⟩, And.right⟩
  · obtain ⟨_, _, hurl', hsegments'⟩ := other.exists_url hbase hpath
    obtain rfl := Except.ok.inj (hsame.symm.trans hurl')
    have hadded := Url.Path.segments.inj (hsegments'.symm.trans hsegments)
    have hdecoded := congrArg (List.map Url.decoded) hadded
    rw [decoded_of_kept hother, decoded_of_kept hkept] at hdecoded
    exact List.map_injective_iff.2 (fun _ _ => Utf8.encode_inj) (List.append_cancel_left hdecoded)

/-- The URL of a site on the web, with a port other than the default one if it is given. -/
def site (name : String) (port : Option Nat) (parts : List String) : Url where
  scheme := "http"
  user := ""
  password := none
  host := some (.domain name)
  port := port
  path := .segments parts
  query := none
  fragment := none

/-- A group with a blank, and a name with a slash, a percent sign and signs of a query in it, at a
registry with a path and the default port. -/
theorem decoded_url_iff_reserved :
    Url.parse "http://proxy:80/registry/" = .ok (site "proxy" none ["registry", ""]) ∧
      ∃ url, (getLatest ⟨"my group", "a/b%20#?"⟩).url "http://proxy:80/registry/" = .ok url ∧
        url.path.decoded? = some (["registry"].map Url.decoded ++ ["apis", "registry", "v3",
          "groups", "my group", "artifacts", "a/b%20#?", "versions", "branch=latest"].map
            Utf8.encode) := by
  have hparse : Url.parse "http://proxy:80/registry/" =
      .ok (site "proxy" none ["registry", ""]) := by decide +kernel
  obtain ⟨url, hurl, hdecoded, -⟩ :=
    decoded_url_iff (getLatest ⟨"my group", "a/b%20#?"⟩) hparse rfl
  have hkept : ∀ text ∈ ["my group", "a/b%20#?"], Url.IsKept text := by
    simp [Url.IsKept, Url.isDropped]
  exact ⟨hparse, url, hurl, hdecoded.2 ⟨by decide, hkept⟩⟩

/-- A tab is left out, so the call for the latest version of one artifact is that for another. -/
theorem shared_url :
    let url := site "registry.test" (some 8080) ["apis", "registry", "v3", "groups", "shop",
      "artifacts", "ab", "versions", "branch=latest"]
    (getLatest ⟨"shop", "a\tb"⟩).url "http://registry.test:8080" = .ok url ∧
      (getLatest ⟨"shop", "ab"⟩).url "http://registry.test:8080" = .ok url ∧
        url.path.decoded? ≠ some (["apis", "registry", "v3", "groups", "shop", "artifacts", "a\tb",
          "versions", "branch=latest"].map Utf8.encode) :=
  ⟨by decide +kernel, by decide +kernel, by decide +kernel⟩

end RemoteCall

end FramedAvro
