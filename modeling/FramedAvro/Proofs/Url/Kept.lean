import FramedAvro.Proofs.Url.Percent
import FramedAvro.Proofs.Url.Segments

/-!
# Segments that stay what they are

A text that is added to a path becomes one more segment, from which it is decoded again, unless it
is one or two dots or has a tab or an end of line in it. Those are left out, so that another text,
or none, is added in its place. Two dots may even take a segment away.

Whatever is added, a path grows by one segment at most. So a path with as many segments more as
texts were added has lost none of them, and its last segment tells whether the last text was kept.

## Main definitions

* `Url.IsKept`: texts that stay what they are.
* `Url.Path.decoded?`: the bytes that the segments of a path stand for.

## Main results

* `Url.decoded_addAll_iff`: texts are decoded from the path if and only if all of them are kept.
-/

namespace FramedAvro.Url

/-- The text is neither one dot nor two, and no character in it is left out. -/
def IsKept (segment : String) : Prop :=
  segment ≠ "." ∧ segment ≠ ".." ∧ ∀ c ∈ segment.toList, isDropped c = false

/-- The bytes that a segment stands for. -/
def decoded (segment : String) : Bytes :=
  Percent.decode segment.toList

/-- The bytes that the segments of a path stand for, one by one. -/
def Path.decoded? : Path → Option (List Bytes)
  | .segments parts => some (parts.map decoded)
  | .whole _ => none

/-! ### One text -/

/-- The segments that a text is added to. The one of a path that is only a slash gives way. -/
def cleared (parts : List String) : List String :=
  if parts = [""] then [] else parts

/-- The segments with a text added, which is nothing for one or two dots. -/
def add (scheme : String) (parts : List String) (segment : String) : List String :=
  if segment = "." ∨ segment = ".." then parts else addSegment scheme parts segment

/-- The characters of a text that are not left out. -/
def remaining (segment : String) : List Char :=
  segment.toList.filter (!isDropped ·)

/-- Nothing of a text that is kept is left out. -/
theorem IsKept.remaining_eq {segment : String} (h : IsKept segment) :
    remaining segment = segment.toList :=
  List.filter_eq_self.2 fun c hc => by simp [h.2.2 c hc]

/-- The encoding of a segment stands for the bytes of the text. -/
theorem decoded_encode (special : Bool) (s : List Char) :
    decoded (String.ofList (Percent.encode (Percent.segmentSet special) s)) =
      Utf8.encode (String.ofList s) := by
  rw [decoded, String.toList_ofList, Percent.decode_encode (Percent.segmentSet_percent special)]

/-- Only dots are encoded as dots. -/
theorem encode_eq_dots_iff (special : Bool) (s : List Char) {dots : List Char}
    (h : ∀ c ∈ dots, c = '.') :
    Percent.encode (Percent.segmentSet special) s = dots ↔ s = dots := by
  have hself : Percent.encode (Percent.segmentSet special) dots = dots :=
    Percent.encode_eq_self fun c hc => h c hc ▸ Percent.segmentSet_dot special
  constructor
  · intro heq
    have hbytes := decoded_encode special s
    rw [heq, ← hself, decoded_encode] at hbytes
    exact (String.ofList_injective (Utf8.encode_inj hbytes)).symm
  · rintro rfl
    exact hself

/-- A path of several segments is not only a slash. -/
theorem cleared_of_length {parts : List String} (h : 1 < parts.length) : cleared parts = parts := by
  rw [cleared, if_neg]
  rintro rfl
  contradiction

/-- What is added for a text depends on what remains of it. After other segments it is never taken
for a drive. -/
theorem addSegment_eq (scheme : String) {parts : List String} (hlong : 1 < parts.length)
    (segment : String) :
    addSegment scheme parts segment =
      if remaining segment = ['.', '.'] then parent (scheme == "file") parts ++ [""]
      else if remaining segment = ['.'] then parts ++ [""]
      else parts ++ [String.ofList
        (Percent.encode (Percent.segmentSet (isSpecialScheme scheme)) (remaining segment))] := by
  have hdots : ∀ c ∈ ['.', '.'], c = '.' := by simp
  have hdot : ∀ c ∈ ['.'], c = '.' := by simp
  have hfirst : parts.isEmpty = false := by
    rw [List.isEmpty_eq_false_iff, ← List.length_pos_iff]
    omega
  simp only [addSegment, encode_eq_dots_iff _ _ hdots, encode_eq_dots_iff _ _ hdot]
  rw [← cleared, cleared_of_length hlong, ← remaining, hfirst, Bool.and_false]
  simp only [Bool.false_eq_true, if_false]

/-- One segment at most is taken away on the way up. -/
theorem length_parent (file : Bool) (parts : List String) :
    parts.length ≤ (parent file parts).length + 1 ∧ (parent file parts).length ≤ parts.length := by
  rw [parent]
  split
  · omega
  · rw [List.length_dropLast]
    omega

/-- A text that is kept is decoded from the segment that is added. -/
theorem IsKept.exists_add_eq {segment : String} (h : IsKept segment) (scheme : String)
    {parts : List String} (hlong : 1 < parts.length) :
    ∃ part, add scheme parts segment = parts ++ [part] ∧ decoded part = Utf8.encode segment := by
  have hdots : segment.toList ≠ ['.', '.'] := fun heq => h.2.1 (String.toList_injective heq)
  have hdot : segment.toList ≠ ['.'] := fun heq => h.1 (String.toList_injective heq)
  have hdecoded := decoded_encode (isSpecialScheme scheme) segment.toList
  refine ⟨_, ?_, hdecoded.trans (by rw [String.ofList_toList])⟩
  rw [add, if_neg (not_or.2 ⟨h.1, h.2.1⟩), addSegment_eq scheme hlong, h.remaining_eq,
    if_neg hdots, if_neg hdot]

/-- A text adds one segment at most, and takes none away without adding one. -/
theorem length_add (scheme : String) {parts : List String} (hlong : 1 < parts.length)
    (segment : String) :
    parts.length ≤ (add scheme parts segment).length ∧
      (add scheme parts segment).length ≤ parts.length + 1 := by
  have hparent := length_parent (scheme == "file") parts
  rw [add]
  split
  · omega
  · rw [addSegment_eq scheme hlong]
    split
    · simp only [List.length_append, List.length_singleton]
      omega
    · split <;> simp only [List.length_append, List.length_singleton] <;> omega

/-- A text that is decoded from the last of one segment more is kept. -/
theorem isKept_of_add_eq {scheme : String} {parts front : List String} {segment part : String}
    (hlong : 1 < parts.length) (h : add scheme parts segment = front ++ [part])
    (hdecoded : decoded part = Utf8.encode segment)
    (hlength : parts.length ≤ front.length) : IsKept segment ∧ front = parts := by
  rw [add] at h
  split at h
  · -- Nothing was added, so there is no segment more.
    rw [h, List.length_append, List.length_singleton] at hlength
    omega
  · next hdots =>
    rw [addSegment_eq scheme hlong] at h
    -- An empty segment stands for the empty text, of which no dots remain.
    have hempty (hpart : "" = part) : remaining segment = [] := by
      rw [← hpart] at hdecoded
      have hnone : decoded "" = Utf8.encode "" := by
        rw [decoded, String.toList_empty, Percent.decode]
        rfl
      rw [← Utf8.encode_inj (hnone.symm.trans hdecoded)]
      rfl
    split at h
    · next hremaining =>
      rw [hempty (List.append_inj' h rfl |>.2 |> List.singleton_inj.1)] at hremaining
      contradiction
    · split at h
      · next hremaining =>
        rw [hempty (List.append_inj' h rfl |>.2 |> List.singleton_inj.1)] at hremaining
        contradiction
      · obtain ⟨hfront, hpart⟩ := List.append_inj' h rfl
        obtain rfl := List.singleton_inj.1 hpart
        rw [decoded_encode] at hdecoded
        have hsame : remaining segment = segment.toList := by
          rw [← String.toList_ofList (l := remaining segment), Utf8.encode_inj hdecoded]
        refine ⟨⟨(not_or.1 hdots).1, (not_or.1 hdots).2, fun c hc => ?_⟩, hfront.symm⟩
        rw [← hsame] at hc
        simpa using (List.mem_filter.1 hc).2

/-! ### Several texts -/

/-- The segments with texts added, one after the other. -/
def addAll (scheme : String) (parts segments : List String) : List String :=
  segments.foldl (add scheme) parts

/-- Texts after texts are added one after the other. -/
theorem addAll_append (scheme : String) (parts segments more : List String) :
    addAll scheme parts (segments ++ more) =
      addAll scheme (addAll scheme parts segments) more :=
  List.foldl_append

/-- Texts add a segment each at most, and take none away. -/
theorem length_addAll (scheme : String) {parts : List String} (hlong : 1 < parts.length)
    (segments : List String) :
    parts.length ≤ (addAll scheme parts segments).length ∧
      (addAll scheme parts segments).length ≤ parts.length + segments.length := by
  induction segments generalizing parts with
  | nil => exact ⟨le_rfl, le_rfl⟩
  | cons segment rest ih =>
      have hadd := length_add scheme hlong segment
      have hrest := ih (hlong.trans_le hadd.1)
      rw [addAll, List.foldl_cons, ← addAll, List.length_cons]
      omega

/-- The texts that are added to a path are decoded from it, after what was there before, if and only
if all of them are kept. -/
theorem decoded_addAll_iff (scheme : String) {parts : List String} (hlong : 1 < parts.length)
    (segments : List String) :
    (addAll scheme parts segments).map decoded = parts.map decoded ++ segments.map Utf8.encode ↔
      ∀ segment ∈ segments, IsKept segment := by
  -- The last text tells by the last segment whether it is kept, so the induction takes it first.
  induction segments using List.reverseRecOn with
  | nil => simp [addAll]
  | append_singleton segments segment ih =>
      obtain ⟨hleast, hmost⟩ := length_addAll scheme hlong segments
      have hlonger := hlong.trans_le hleast
      have hconcat : addAll scheme parts (segments ++ [segment]) =
          add scheme (addAll scheme parts segments) segment := addAll_append _ _ _ _
      rw [hconcat, List.map_append, List.map_singleton, ← List.append_assoc,
        List.forall_mem_append, List.forall_mem_singleton, ← ih]
      constructor
      · intro h
        obtain ⟨front, last, hsplit, hfront, hlast⟩ := List.map_eq_append_iff.1 h
        obtain ⟨part, rfl, hpart⟩ := List.map_eq_singleton_iff.1 hlast
        have hlength := congrArg List.length hfront
        simp only [List.length_map, List.length_append] at hlength
        obtain ⟨hkept, rfl⟩ := isKept_of_add_eq hlonger hsplit hpart (by omega)
        exact ⟨hfront, hkept⟩
      · rintro ⟨hfront, hkept⟩
        obtain ⟨part, hadd, hpart⟩ := hkept.exists_add_eq scheme hlonger
        rw [hadd, List.map_append, hfront, List.map_singleton, hpart]

/-- The path of a URL with texts added is the path with them added. -/
theorem withSegments_path {url : Url} {parts : List String} (h : url.path = .segments parts)
    (segments : List String) :
    (url.withSegments segments).path = .segments (addAll url.scheme parts segments) := by
  induction segments generalizing url parts with
  | nil => exact h
  | cons segment rest ih =>
      have hnext : (url.withSegment segment).path = .segments (add url.scheme parts segment) ∧
          (url.withSegment segment).scheme = url.scheme := by
        rw [withSegment, h, add]
        dsimp only
        split
        · exact ⟨h, rfl⟩
        · exact ⟨rfl, rfl⟩
      have hrest := ih hnext.1
      rw [hnext.2] at hrest
      exact hrest

end FramedAvro.Url
