import Mathlib
import FramedAvro.Url.Basic

/-!
# Ends of paths

Adding a segment that needs no encoding puts it at the end of the path. Any other text may add a
segment, leave the path as it is, or end it with a slash, but what was at its end before stays there
or goes as a whole. So how a path ends tells which segments were added last.

## Main definitions

* `Url.EndsWith`: the last segments of a path.
* `Url.IsPlain`: segments that are added as they are.

## Main results

* `Url.EndsWith.withSegment_plain`: adding a plain segment.
* `Url.EndsWith.withSegment`: adding any text.
-/

namespace FramedAvro.Url

/-- The path of a URL has segments, the last of which are the given ones. -/
def EndsWith (url : Url) (last : List String) : Prop :=
  ∃ front, url.path = .segments (front ++ last)

/-- A path of segments ends with no segments, as any does. -/
theorem endsWith_nil {url : Url} {parts : List String} (h : url.path = .segments parts) :
    url.EndsWith [] :=
  ⟨parts, by rw [h, List.append_nil]⟩

/-- A segment is added as it is: no character in it is left out or encoded, or is a dot, or the bar
of a drive. -/
def IsPlain (segment : String) : Prop :=
  ∀ c ∈ segment.toList, isDropped c = false ∧ c ≠ '.' ∧ c ≠ '|' ∧
    ∀ special, Percent.segmentSet special c = false

/-- A text without a bar has no drive that needs a colon. -/
theorem withColon_eq_self {s : List Char} (h : '|' ∉ s) : withColon s = s := by
  rw [withColon]
  split
  · next hdrive =>
    match s, hdrive with
    | [c, mark], hdrive =>
        have hmark : mark = ':' := by
          simp only [isDrive, Bool.and_eq_true, Bool.or_eq_true, decide_eq_true_eq] at hdrive
          refine hdrive.2.resolve_right fun hbar => h ?_
          simp [hbar]
        rw [hmark]
        rfl
  · rfl

/-- A text without characters of the set is its own encoding. -/
theorem Percent.encode_eq_self {set : Char → Bool} {s : List Char} (h : ∀ c ∈ s, set c = false) :
    Percent.encode set s = s := by
  induction s with
  | nil => rfl
  | cons c rest ih =>
      have hrest := ih fun d hd => h d (List.mem_cons_of_mem c hd)
      rw [Percent.encode] at hrest ⊢
      rw [List.flatMap_cons, hrest, h c List.mem_cons_self]
      rfl

/-- Digits are added as they are. -/
theorem isPlain_of_isDigit {segment : String} (h : ∀ c ∈ segment.toList, c.isDigit = true) :
    IsPlain segment := by
  intro c hc
  have hlow : 48 ≤ c.toNat ∧ c.toNat ≤ 57 := by
    have hdigit := h c hc
    simp only [Char.isDigit, Bool.and_eq_true, decide_eq_true_eq] at hdigit
    exact hdigit
  have hne (d : Char) (hd : d.toNat < 48 ∨ 57 < d.toNat) : c ≠ d := by
    rintro rfl
    omega
  refine ⟨?_, hne '.' (by decide), hne '|' (by decide), fun special => ?_⟩
  · simp [isDropped, hne '\t' (by decide), hne '\n' (by decide), hne '\r' (by decide)]
  · simp [Percent.segmentSet, Percent.pathSet, Percent.fragmentSet, Percent.controlSet,
      hne ' ' (by decide), hne '"' (by decide), hne '<' (by decide), hne '>' (by decide),
      hne (Char.ofNat 0x60) (by decide), hne '#' (by decide), hne '?' (by decide),
      hne '\x7b' (by decide), hne '\x7d' (by decide), hne '/' (by decide), hne '%' (by decide),
      hne '\\' (by decide)]
    omega

/-- A plain segment comes after those that are there, except the one of a path that is only a
slash. -/
theorem IsPlain.addSegment_eq {segment : String} (h : IsPlain segment) (scheme : String)
    (parts : List String) :
    addSegment scheme parts segment = (if parts = [""] then [] else parts) ++ [segment] := by
  have hkept : segment.toList.filter (!isDropped ·) = segment.toList :=
    List.filter_eq_self.2 fun c hc => by simp [(h c hc).1]
  have hchars : Percent.encode (Percent.segmentSet (isSpecialScheme scheme))
      (segment.toList.filter (!isDropped ·)) = segment.toList := by
    rw [hkept, Percent.encode_eq_self fun c hc => (h c hc).2.2.2 _]
  have hcolon : withColon segment.toList = segment.toList :=
    withColon_eq_self fun hbar => (h '|' hbar).2.2.1 rfl
  have hdots (dots : List Char) (hmem : '.' ∈ dots) : segment.toList ≠ dots := by
    rintro rfl
    exact (h '.' hmem).2.1 rfl
  simp only [addSegment, hchars, hcolon, ite_self]
  rw [if_neg (hdots _ (by simp)), if_neg (hdots _ (by simp)), String.ofList_toList]

/-- A text that is neither one dot nor two is added to the path. -/
theorem withSegment_path {url : Url} {segment : String} {parts : List String}
    (hpath : url.path = .segments parts) (hne : segment ≠ "." ∧ segment ≠ "..") :
    (url.withSegment segment).path = .segments (addSegment url.scheme parts segment) := by
  have hdots : ¬(segment = "." ∨ segment = "..") := by tauto
  rw [Url.withSegment, hpath]
  simp only [if_neg hdots]

/-- A plain segment comes after what was at the end of the path. -/
theorem EndsWith.withSegment_plain {url : Url} {last : List String} {segment : String}
    (h : url.EndsWith last) (hlast : last ≠ [""]) (hplain : IsPlain segment) :
    (url.withSegment segment).EndsWith (last ++ [segment]) := by
  obtain ⟨front, hpath⟩ := h
  have hne : segment ≠ "." ∧ segment ≠ ".." := by
    constructor <;> rintro rfl <;> exact (hplain '.' (by decide)).2.1 rfl
  have hadded := withSegment_path hpath hne
  rw [hplain.addSegment_eq] at hadded
  by_cases hslash : front ++ last = [""]
  · -- Only the path that is a slash loses its one segment, which is not among the last ones.
    obtain rfl : last = [] := by
      rcases List.append_eq_singleton_iff.1 hslash with ⟨-, hlast'⟩ | ⟨-, hlast'⟩
      · exact absurd hlast' hlast
      · exact hlast'
    exact ⟨[], by rw [hadded, if_pos hslash]; rfl⟩
  · exact ⟨front, by rw [hadded, if_neg hslash, List.append_assoc]⟩

/-- A path that ends with a plain segment still does after adding a text, or the text follows, or it
ends with a slash. -/
theorem EndsWith.withSegment {url : Url} {segment : String} (h : url.EndsWith [segment])
    (hne : segment ≠ "") (text : String) :
    (url.withSegment text).EndsWith [segment] ∨ (url.withSegment text).EndsWith [""] ∨
      ∃ added, (url.withSegment text).EndsWith [segment, added] := by
  by_cases hdots : text = "." ∨ text = ".."
  · have hself : url.withSegment text = url := by
      obtain ⟨front, hpath⟩ := h
      rw [Url.withSegment, hpath]
      simp only [if_pos hdots]
    rw [hself]
    exact .inl h
  · obtain ⟨front, hpath⟩ := h
    have hslash : front ++ [segment] ≠ [""] := by
      intro heq
      rcases List.append_eq_singleton_iff.1 heq with ⟨-, hsegment⟩ | ⟨-, hsegment⟩
      · exact hne (List.cons.inj hsegment).1
      · contradiction
    have hadded := withSegment_path hpath (not_or.1 hdots)
    rw [addSegment] at hadded
    simp only [if_neg hslash] at hadded
    split at hadded
    · exact .inr (.inl ⟨_, hadded⟩)
    · split at hadded
      · exact .inr (.inl ⟨_, hadded⟩)
      · rw [List.append_assoc] at hadded
        exact .inr (.inr ⟨_, front, hadded⟩)

/-- Adding texts keeps a path a path of segments. -/
theorem EndsWith.withSegments {url : Url} (h : url.EndsWith []) (segments : List String) :
    (url.withSegments segments).EndsWith [] := by
  induction segments generalizing url with
  | nil => exact h
  | cons segment rest ih =>
      refine ih ?_
      obtain ⟨front, hpath⟩ := h
      by_cases hdots : segment = "." ∨ segment = ".."
      · exact ⟨front, by rw [Url.withSegment, hpath]; simp only [if_pos hdots, hpath]⟩
      · exact endsWith_nil (withSegment_path hpath (not_or.1 hdots))

/-- A path that loses an empty end is still one of segments. -/
theorem EndsWith.withoutEmptyEnd {url : Url} (h : url.EndsWith []) :
    url.withoutEmptyEnd.EndsWith [] := by
  obtain ⟨front, hpath⟩ := h
  rw [Url.withoutEmptyEnd, hpath]
  dsimp only
  split
  · exact endsWith_nil rfl
  · exact ⟨front, hpath⟩

/-- Paths that end with as many segments end with the same. -/
theorem EndsWith.unique {url : Url} {last other : List String} (h : url.EndsWith last)
    (h' : url.EndsWith other) (hlength : last.length = other.length) : last = other := by
  obtain ⟨front, hpath⟩ := h
  obtain ⟨front', hpath'⟩ := h'
  rw [hpath] at hpath'
  exact (List.append_inj' (Path.segments.inj hpath') hlength).2

/-- The last segments end the path without those before them. -/
theorem EndsWith.tail {url : Url} {segment : String} {last : List String}
    (h : url.EndsWith (segment :: last)) : url.EndsWith last := by
  obtain ⟨front, hpath⟩ := h
  exact ⟨front ++ [segment], by rw [hpath, List.append_assoc]; rfl⟩

end FramedAvro.Url
