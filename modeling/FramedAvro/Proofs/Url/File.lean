import FramedAvro.Proofs.Url.Segments
import FramedAvro.Url.Parser

/-!
# Paths of files

When the path of a file is read, empty segments in front of others are left out, and a drive in
front keeps whatever leads up from leaving it. Adding a text has to see to neither: the path it is
added to has no empty segments in front of others, and none get there, while a drive stays where it
is even when the text turns out to be two dots.

## Main definitions

* `Url.IsRooted`: no empty segment is in front of others.

## Main results

* `Url.isRooted_of_readFile`: the paths of files that were read.
* `Url.IsRooted.rooted_addSegment`: nothing is to be left out when a text is added.
* `Url.head?_addSegment_drive`: a drive stays when a text is added.
-/

namespace FramedAvro.Url

/-- No empty segment is in front of others. -/
def IsRooted (parts : List String) : Prop :=
  ∀ rest, parts = "" :: rest → rest = []

/-- An empty path has nothing in front. -/
theorem isRooted_nil : IsRooted [] :=
  fun _ heq => by contradiction

/-- A segment in front that is not empty may have others after it. -/
theorem isRooted_cons {part : String} (h : part ≠ "") (rest : List String) :
    IsRooted (part :: rest) :=
  fun _ heq => absurd (List.cons.inj heq).1 h

/-- A segment on its own is in front of no others. -/
theorem isRooted_singleton (part : String) : IsRooted [part] :=
  fun _ heq => (List.cons.inj heq).2.symm

/-- What is left of a path has no empty segments in front of others. -/
theorem isRooted_rooted (parts : List String) : IsRooted (rooted parts) := by
  induction parts with
  | nil => exact isRooted_nil
  | cons part rest ih =>
      cases rest with
      | nil => exact isRooted_singleton part
      | cons next rest =>
          rw [rooted]
          split
          · exact ih
          · next hpart => exact isRooted_cons (by simpa using hpart) _

/-- Nothing is left out of a path without empty segments in front. -/
theorem IsRooted.rooted_eq {parts : List String} (h : IsRooted parts) : rooted parts = parts := by
  match parts with
  | [] => rfl
  | [part] => rfl
  | part :: next :: rest =>
      have hpart : part ≠ "" := by
        rintro rfl
        exact absurd (h _ rfl) (List.cons_ne_nil _ _)
      rw [rooted, if_neg (by simpa using hpart)]

/-- The path of a file that was read has no empty segments in front of others. -/
theorem isRooted_of_readFile {s : List Char} {url : Url} {parts : List String}
    (h : readFile s = .ok url) (hpath : url.path = .segments parts) : IsRooted parts := by
  -- Whichever way the text goes, the rules for the path of a file come last.
  have hread : ∃ own : Url, url = own.asFile := by
    rw [readFile.eq_def] at h
    dsimp only at h
    split at h
    · split at h
      · split at h
        · exact ⟨_, (Except.ok.inj h).symm⟩
        · cases hhost : readHost true _ with
          | error fault =>
              rw [hhost] at h
              contradiction
          | ok host =>
              rw [hhost] at h
              exact ⟨_, (Except.ok.inj h).symm⟩
      · exact ⟨_, (Except.ok.inj h).symm⟩
    · exact ⟨_, (Except.ok.inj h).symm⟩
  obtain ⟨own, rfl⟩ := hread
  rw [asFile] at hpath
  cases hown : own.path with
  | whole text => simp [hown] at hpath
  | segments given =>
      simp only [hown] at hpath
      obtain rfl := Path.segments.inj hpath
      exact isRooted_rooted given

/-! ### Adding a text -/

/-- A segment that is put at the end is not in front of others, unless an empty one was there. -/
theorem IsRooted.concat {parts : List String} (h : IsRooted parts) (hslash : parts ≠ [""])
    (part : String) : IsRooted (parts ++ [part]) := by
  cases parts with
  | nil => exact isRooted_singleton part
  | cons first rest =>
      refine isRooted_cons ?_ _
      rintro rfl
      exact hslash (by rw [h rest rfl])

/-- The way up leads to no empty segment in front. -/
theorem IsRooted.parent {parts : List String} (h : IsRooted parts) (hslash : parts ≠ [""])
    (file : Bool) : IsRooted (parent file parts) ∧ parent file parts ≠ [""] := by
  rw [Url.parent]
  split
  · exact ⟨h, hslash⟩
  · match parts with
    | [] => exact ⟨isRooted_nil, (List.cons_ne_nil _ _).symm⟩
    | [part] => exact ⟨isRooted_nil, (List.cons_ne_nil _ _).symm⟩
    | first :: next :: rest =>
        have hfirst : first ≠ "" := by
          rintro rfl
          exact absurd (h _ rfl) (List.cons_ne_nil _ _)
        rw [List.dropLast_cons_cons]
        exact ⟨isRooted_cons hfirst _, fun heq => hfirst (List.cons.inj heq).1⟩

/-- Adding a text puts no empty segments in front of others. -/
theorem IsRooted.addSegment {parts : List String} (h : IsRooted parts) (scheme segment : String) :
    IsRooted (addSegment scheme parts segment) := by
  rw [Url.addSegment]
  have hbase : IsRooted (if parts = [""] then [] else parts) ∧
      (if parts = [""] then [] else parts) ≠ [""] := by
    split
    · exact ⟨isRooted_nil, (List.cons_ne_nil _ _).symm⟩
    · next hslash => exact ⟨h, hslash⟩
  obtain ⟨hroot, hslash⟩ := hbase
  split
  · exact (hroot.parent hslash _).1.concat (hroot.parent hslash _).2 _
  · split <;> exact hroot.concat hslash _

/-- When a text is added to the path of a file, nothing is left out in front. -/
theorem IsRooted.rooted_addSegment {parts : List String} (h : IsRooted parts)
    (scheme segment : String) :
    rooted (Url.addSegment scheme parts segment) = Url.addSegment scheme parts segment :=
  (h.addSegment scheme segment).rooted_eq

/-- When a text is added to the path of a file, a drive in front stays. -/
theorem head?_addSegment_drive {parts : List String} {drive : String}
    (hhead : parts.head? = some drive) (hdrive : isDrive drive.toList = true) (segment : String) :
    (addSegment "file" parts segment).head? = some drive := by
  obtain ⟨rest, rfl⟩ : ∃ rest, parts = drive :: rest := by
    cases parts with
    | nil => contradiction
    | cons first rest => exact ⟨rest, by rw [Option.some.inj hhead]⟩
  have hne : drive ≠ "" := by
    rintro rfl
    contradiction
  have hbase : drive :: rest ≠ [""] := fun heq => hne (List.cons.inj heq).1
  have hparent : ∃ rest', parent true (drive :: rest) = drive :: rest' := by
    cases rest with
    | nil => exact ⟨[], by simp [parent, hdrive]⟩
    | cons next rest =>
        rw [parent]
        split
        · exact ⟨_, rfl⟩
        · exact ⟨_, List.dropLast_cons_cons ..⟩
  obtain ⟨rest', hparent⟩ := hparent
  simp only [addSegment, if_neg hbase, beq_self_eq_true, hparent]
  split
  · rfl
  · split <;> rfl

end FramedAvro.Url
