import FramedAvro.Proofs.Url.Segments
import FramedAvro.Registry.Remote.Call

/-!
# Calls by their URLs

A group or a name may be any text, and the registry may be under any URL. Still no other call that
gets something has a URL under which the document of an id is found, and no two ids share one.

## Main results

* `RemoteCall.endsWith_getById`: how the URL for an id ends.
* `RemoteCall.eq_getById`: only the call for an id has a URL that ends so.
-/

namespace FramedAvro

/-! ### Ids -/

/-- An id is spelled with digits only. -/
theorem isDigit_toString_id (id : UInt32) : ∀ c ∈ (toString id).toList, c.isDigit = true := by
  intro c hc
  have hchars : (toString id).toList = Nat.toDigits 10 id.toNat := String.toList_ofList
  rw [hchars] at hc
  exact Nat.isDigit_of_mem_toDigits (by decide) (by decide) hc

/-- An id is spelled with a digit at least. -/
theorem toString_id_ne_empty (id : UInt32) : toString id ≠ "" := by
  have hchars : (toString id).toList = Nat.toDigits 10 id.toNat := String.toList_ofList
  intro h
  rw [h] at hchars
  exact Nat.toDigits_ne_nil hchars.symm

/-- An id is not spelled as a text with other characters than digits. -/
theorem toString_id_ne {id : UInt32} {text : String} {c : Char} (hc : c ∈ text.toList)
    (hdigit : c.isDigit = false) : toString id ≠ text := by
  rintro rfl
  rw [isDigit_toString_id id c hc] at hdigit
  contradiction

/-- Different ids are spelled differently. -/
theorem toString_id_inj {id other : UInt32} (h : toString id = toString other) : id = other :=
  UInt32.toNat_inj.1 (Nat.repr_inj.1 h)

namespace RemoteCall

/-- The path of a call ends with what becomes of its segments. -/
theorem exists_path_of_url {call : RemoteCall} {base : String} {url : Url}
    (h : call.url base = .ok url) :
    ∃ start : Url, start.EndsWith [] ∧ url.path = (start.withSegments call.segments).path := by
  rw [RemoteCall.url] at h
  split at h
  · contradiction
  · next parsed _ =>
    split at h
    · contradiction
    · next parts hpath =>
      obtain rfl := Except.ok.inj h
      refine ⟨parsed.withoutEmptyEnd.withSegments apiSegments,
        ((Url.endsWith_nil hpath).withoutEmptyEnd).withSegments apiSegments, ?_⟩
      simp only [Url.withQuery, Url.withSegments, List.foldl_append]

/-- The words in the paths of calls are added as they are. -/
theorem isPlain_word (segment : String)
    (h : segment ∈ ["apis", "registry", "v3", "ids", "globalIds", "groups", "artifacts", "versions",
      "branch=latest", "search"]) : Url.IsPlain segment := by
  simp only [List.mem_cons, List.not_mem_nil, or_false] at h
  rcases h with rfl | rfl | rfl | rfl | rfl | rfl | rfl | rfl | rfl | rfl <;>
    simp [Url.IsPlain, Url.isDropped, Url.Percent.segmentSet, Url.Percent.pathSet,
      Url.Percent.fragmentSet, Url.Percent.controlSet]

/-- The URL for an id ends with the id, after a segment that says so. -/
theorem endsWith_getById {id : UInt32} {base : String} {url : Url}
    (h : (getById id).url base = .ok url) : url.EndsWith ["globalIds", toString id] := by
  obtain ⟨start, hstart, hpath⟩ := exists_path_of_url h
  have hids := hstart.withSegments ["ids"]
  have hglobal := hids.withSegment_plain (by decide) (isPlain_word "globalIds" (by decide))
  have hid := hglobal.withSegment_plain (by decide)
    (Url.isPlain_of_isDigit (isDigit_toString_id id))
  obtain ⟨front, hfront⟩ := hid
  exact ⟨front, hpath.trans hfront⟩

/-- Of the calls that post nothing, only the one for an id has a URL that ends so. -/
theorem eq_getById {call : RemoteCall} {id : UInt32} {base : String} {url : Url}
    (hbody : call.body? = none) (h : call.url base = .ok url)
    (hends : url.EndsWith ["globalIds", toString id]) : call = getById id := by
  -- The URLs of the other calls end with a word, with a slash, or after another word.
  have hlast (segment : String) (hsegment : url.EndsWith [segment]) : toString id = segment :=
    (List.cons.inj (hends.tail.unique hsegment rfl)).1
  have hbefore (segment added : String) (hsegment : url.EndsWith [segment, added]) :
      "globalIds" = segment := (List.cons.inj (hends.unique hsegment rfl)).1
  have hartifacts : toString id ≠ "artifacts" := toString_id_ne (c := 'a') (by decide) (by decide)
  obtain ⟨start, hstart, hpath⟩ := exists_path_of_url h
  have hmoved {last : List String} (hlast : (start.withSegments call.segments).EndsWith last) :
      url.EndsWith last := by
    obtain ⟨front, hfront⟩ := hlast
    exact ⟨front, hpath.trans hfront⟩
  cases call with
  | searchByContent _ _ => contradiction
  | postArtifact _ _ => contradiction
  | postVersion _ _ => contradiction
  | getById other =>
      have hsame := (endsWith_getById h).unique hends rfl
      rw [toString_id_inj (List.cons.inj (List.cons.inj hsame).2).1]
  | getLatest c =>
      have hends' := (hstart.withSegments ["groups", c.group, "artifacts", c.name,
        "versions"]).withSegment_plain (by decide)
          (isPlain_word "branch=latest" (by decide))
      exact absurd (hlast _ (hmoved hends')) (toString_id_ne (c := '=') (by decide) (by decide))
  | listArtifacts group name type limit =>
      have hends' := (hstart.withSegments ["search"]).withSegment_plain (by decide)
        (isPlain_word "artifacts" (by decide))
      exact absurd (hlast _ (hmoved hends')) hartifacts
  | getArtifact c =>
      have hends' := (hstart.withSegments ["groups", c.group]).withSegment_plain (by decide)
        (isPlain_word "artifacts" (by decide))
      rcases hends'.withSegment (by decide) c.name with hword | hslash | ⟨added, hadded⟩
      · exact absurd (hlast _ (hmoved hword)) hartifacts
      · exact absurd (hlast _ (hmoved hslash)) (toString_id_ne_empty id)
      · exact absurd (hbefore _ _ (hmoved hadded)) (by decide)

end RemoteCall

end FramedAvro
