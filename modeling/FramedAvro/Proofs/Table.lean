import FramedAvro.Table
import Mathlib.Data.List.Basic

/-!
# Counting and order in tables

A table lists its entries in ascending order, so a key is found exactly when it has an entry, a new
key makes the table longer by one, and the last entry has the greatest key.

## Main results

* `Entries.get?_ofList`: what is found in a list that was put in order.
* `Entries.eq_of_get?_eq`: a list in order is known by what is found in it.
* `Table.mem_entries_iff`: the entries are the keys with their values.
* `Table.size_insert`: inserting counts the key once.
* `Table.exists_greatest_of_get?`: no key is past the greatest one.
-/

namespace FramedAvro

variable {κ α : Type} [Ord κ]

namespace Entries

/-- A key in front of all keys is not found. -/
theorem get?_eq_none_of_lt {key : κ} {entries : List (κ × α)}
    (h : ∀ entry ∈ entries, compare key entry.1 = .lt) : get? key entries = none := by
  induction entries with
  | nil => rfl
  | cons head rest ih =>
      obtain ⟨k, a⟩ := head
      have hk : compare key k = .lt := h (k, a) List.mem_cons_self
      rw [get?, if_neg (by simp [hk])]
      exact ih fun entry hentry => h entry (List.mem_cons_of_mem _ hentry)

/-- What is found is an entry. -/
theorem mem_of_get? [Std.LawfulEqOrd κ] {key : κ} {a : α} {entries : List (κ × α)}
    (h : get? key entries = some a) : (key, a) ∈ entries := by
  induction entries with
  | nil => simp [get?] at h
  | cons head rest ih =>
      obtain ⟨k, b⟩ := head
      rw [get?] at h
      split at h
      · next heq =>
          obtain rfl := Std.LawfulEqOrd.compare_eq_iff_eq.1 heq
          obtain rfl := Option.some.inj h
          exact List.mem_cons_self
      · exact List.mem_cons_of_mem _ (ih h)

/-- The key of an entry is found, if not always with this entry. -/
theorem exists_get?_of_mem [Std.LawfulEqOrd κ] {entry : κ × α} {entries : List (κ × α)}
    (h : entry ∈ entries) : ∃ a, get? entry.1 entries = some a := by
  induction entries with
  | nil => contradiction
  | cons head rest ih =>
      obtain ⟨k, b⟩ := head
      rw [get?]
      by_cases heq : compare entry.1 k = .eq
      · exact ⟨b, if_pos heq⟩
      · rw [if_neg heq]
        refine ih ((List.mem_cons.1 h).resolve_left fun hentry => heq ?_)
        rw [hentry]
        exact Std.LawfulEqOrd.compare_eq_iff_eq.2 rfl

/-- In ascending order every entry is found under its key. -/
theorem get?_of_mem [Std.TransOrd κ] [Std.LawfulEqOrd κ] {key : κ} {a : α}
    {entries : List (κ × α)} (h : Ascending entries) (hmem : (key, a) ∈ entries) :
    get? key entries = some a := by
  induction entries with
  | nil => simp at hmem
  | cons head rest ih =>
      obtain ⟨k, b⟩ := head
      obtain ⟨hk, hrest⟩ := List.pairwise_cons.1 h
      rcases List.mem_cons.1 hmem with heq | hmem
      · obtain ⟨rfl, rfl⟩ := Prod.mk.inj heq
        have hself : compare key key = .eq := Std.LawfulEqOrd.compare_eq_iff_eq.2 rfl
        rw [get?, if_pos hself]
      · have hlt : compare k key = .lt := hk _ hmem
        have hne : compare key k ≠ .eq := fun heq => by
          obtain rfl := Std.LawfulEqOrd.compare_eq_iff_eq.1 heq
          rw [heq] at hlt
          contradiction
        rw [get?, if_neg hne]
        exact ih hrest hmem

/-- A key that is there keeps the length, a new one adds one to it. -/
theorem length_insert [Std.TransOrd κ] [Std.LawfulEqOrd κ] (key : κ) (a : α)
    {entries : List (κ × α)} (h : Ascending entries) :
    (insert key a entries).length =
      if (get? key entries).isSome then entries.length else entries.length + 1 := by
  induction entries with
  | nil => rfl
  | cons head rest ih =>
      obtain ⟨k, b⟩ := head
      obtain ⟨hk, hrest⟩ := List.pairwise_cons.1 h
      rw [insert]
      split
      · next hlt =>
          have hnone : get? key ((k, b) :: rest) = none := get?_eq_none_of_lt fun entry hentry => by
            rcases List.mem_cons.1 hentry with rfl | hentry
            · exact hlt
            · exact Std.TransCmp.lt_trans hlt (hk entry hentry)
          simp [hnone]
      · next heq => simp [get?, heq]
      · next hgt =>
          have htail : get? key ((k, b) :: rest) = get? key rest := by
            rw [get?, if_neg (by simp [hgt])]
          rw [List.length_cons, ih hrest, htail]
          split <;> rfl

/-- A list that is put in order has its keys in order. -/
theorem ascending_ofList [Std.TransOrd κ] [Std.LawfulEqOrd κ] (entries : List (κ × α)) :
    Ascending (ofList entries) := by
  have hfold (sorted : List (κ × α)) (h : Ascending sorted) :
      Ascending (entries.foldl (fun sorted entry => insert entry.1 entry.2 sorted) sorted) := by
    induction entries generalizing sorted with
    | nil => exact h
    | cons entry rest ih => exact ih _ (ascending_insert entry.1 entry.2 h)
  exact hfold [] List.Pairwise.nil

/-- Of entries one after the other, the first ones with a key count. -/
theorem get?_append (key : κ) (entries more : List (κ × α)) :
    get? key (entries ++ more) = (get? key entries).or (get? key more) := by
  induction entries with
  | nil => rfl
  | cons entry rest ih =>
      obtain ⟨k, a⟩ := entry
      rw [List.cons_append, get?, get?, ih]
      split <;> rfl

/-- Of what is inserted one after the other, the last value of a key counts. -/
theorem get?_foldl_insert [Std.TransOrd κ] [Std.LawfulEqOrd κ] [DecidableEq κ] (key : κ)
    (entries sorted : List (κ × α)) :
    get? key (entries.foldl (fun sorted entry => insert entry.1 entry.2 sorted) sorted) =
      (get? key entries.reverse).or (get? key sorted) := by
  induction entries generalizing sorted with
  | nil => rfl
  | cons entry rest ih =>
      obtain ⟨k, a⟩ := entry
      rw [List.foldl_cons, ih, get?_insert, List.reverse_cons, get?_append, Option.or_assoc, get?]
      simp only [Std.LawfulEqOrd.compare_eq_iff_eq]
      split <;> rfl

/-- What is put in order has under each key the last value it had. -/
theorem get?_ofList [Std.TransOrd κ] [Std.LawfulEqOrd κ] [DecidableEq κ] (key : κ)
    (entries : List (κ × α)) : get? key (ofList entries) = get? key entries.reverse := by
  rw [ofList, get?_foldl_insert]
  exact Option.or_none

/-- Entries that were put in order were among those given, or in order before. -/
theorem mem_foldl_insert {entry : κ × α} {entries sorted : List (κ × α)}
    (h : entry ∈ entries.foldl (fun sorted entry => insert entry.1 entry.2 sorted) sorted) :
    entry ∈ entries ∨ entry ∈ sorted := by
  induction entries generalizing sorted with
  | nil => exact Or.inr h
  | cons first rest ih =>
      rcases ih h with hrest | hsorted
      · exact Or.inl (List.mem_cons_of_mem _ hrest)
      · rcases mem_insert hsorted with rfl | hold
        · exact Or.inl List.mem_cons_self
        · exact Or.inr hold

/-- The entries of a table were among those given. -/
theorem mem_ofList {entry : κ × α} {entries : List (κ × α)} (h : entry ∈ ofList entries) :
    entry ∈ entries :=
  (mem_foldl_insert h).resolve_right List.not_mem_nil

/-- A key behind all keys is put behind them. -/
theorem insert_of_forall_lt [Std.OrientedOrd κ] {key : κ} (a : α) {entries : List (κ × α)}
    (h : ∀ entry ∈ entries, compare entry.1 key = .lt) :
    insert key a entries = entries ++ [(key, a)] := by
  induction entries with
  | nil => rfl
  | cons first rest ih =>
      obtain ⟨hfirst, hrest⟩ := List.forall_mem_cons.1 h
      obtain ⟨k, b⟩ := first
      rw [insert, Std.OrientedCmp.gt_of_lt hfirst, List.cons_append]
      exact congrArg _ (ih hrest)

/-- Inserting one after the other what is in order appends it. -/
theorem foldl_insert_of_ascending [Std.OrientedOrd κ] {sorted entries : List (κ × α)}
    (h : Ascending (sorted ++ entries)) :
    entries.foldl (fun sorted entry => insert entry.1 entry.2 sorted) sorted =
      sorted ++ entries := by
  induction entries generalizing sorted with
  | nil => rw [List.foldl_nil, List.append_nil]
  | cons entry rest ih =>
      have hlast : insert entry.1 entry.2 sorted = sorted ++ [entry] :=
        insert_of_forall_lt entry.2 fun other hother =>
          (List.pairwise_append.1 h).2.2 other hother entry List.mem_cons_self
      rw [← List.singleton_append, ← List.append_assoc] at h ⊢
      rw [List.singleton_append, List.foldl_cons, hlast, ih h]

/-- What is in order stays as it is. -/
theorem ofList_eq_self [Std.OrientedOrd κ] {entries : List (κ × α)} (h : Ascending entries) :
    ofList entries = entries := by
  have hfold := @foldl_insert_of_ascending κ α _ _ [] entries
  exact hfold h

/-- Two lists in order that have the same value under each key are one. -/
theorem eq_of_get?_eq [Std.TransOrd κ] [Std.LawfulEqOrd κ] {entries other : List (κ × α)}
    (h : Ascending entries) (h' : Ascending other)
    (heq : ∀ key, get? key entries = get? key other) : entries = other := by
  have hdistinct {entries : List (κ × α)} (h : Ascending entries) : entries.Nodup := by
    refine h.imp fun {a b} hlt heq => ?_
    rw [heq] at hlt
    exact absurd (hlt.symm.trans Std.ReflCmp.compare_self) (by decide)
  have hperm : entries.Perm other := by
    refine (List.perm_ext_iff_of_nodup (hdistinct h) (hdistinct h')).2 fun ⟨key, a⟩ => ?_
    exact ⟨fun hmem => mem_of_get? (heq key ▸ get?_of_mem h hmem),
      fun hmem => mem_of_get? (heq key ▸ get?_of_mem h' hmem)⟩
  refine hperm.eq_of_pairwise (fun a b _ _ hlt hgt => ?_) h h'
  rw [Std.OrientedCmp.gt_of_lt hlt] at hgt
  contradiction

end Entries

namespace Table

/-- The entries of a table are its keys with their values. -/
theorem mem_entries_iff [Std.TransOrd κ] [Std.LawfulEqOrd κ] {table : Table κ α} {key : κ} {a : α} :
    (key, a) ∈ table.entries ↔ table.get? key = some a :=
  ⟨Entries.get?_of_mem table.ascending, Entries.mem_of_get?⟩

/-- The keys are what has a value. -/
theorem mem_keys_iff [Std.TransOrd κ] [Std.LawfulEqOrd κ] {table : Table κ α} {key : κ} :
    key ∈ table.keys ↔ ∃ a, table.get? key = some a := by
  rw [keys, List.mem_map]
  constructor
  · rintro ⟨⟨own, a⟩, hmem, rfl⟩
    exact ⟨a, mem_entries_iff.1 hmem⟩
  · rintro ⟨a, ha⟩
    exact ⟨(key, a), mem_entries_iff.2 ha, rfl⟩

/-- No key is listed twice. -/
theorem nodup_keys [Std.ReflOrd κ] (table : Table κ α) : table.keys.Nodup := by
  rw [keys, List.Nodup, List.pairwise_map]
  refine table.ascending.imp fun {a b} hlt heq => ?_
  rw [heq] at hlt
  exact absurd (hlt.symm.trans Std.ReflCmp.compare_self) (by decide)

/-- A key that is there keeps the size, a new one adds one to it. -/
theorem size_insert [Std.TransOrd κ] [Std.LawfulEqOrd κ] (table : Table κ α) (key : κ) (a : α) :
    (table.insert key a).size = if table.contains key then table.size else table.size + 1 :=
  Entries.length_insert key a table.ascending

/-- The greatest key has a value. -/
theorem exists_get?_greatest [Std.TransOrd κ] [Std.LawfulEqOrd κ] {table : Table κ α} {key : κ}
    (h : table.greatest? = some key) : ∃ a, table.get? key = some a := by
  obtain ⟨⟨k, a⟩, hlast, rfl⟩ := Option.map_eq_some_iff.1 h
  exact ⟨a, mem_entries_iff.1 (List.mem_of_getLast? hlast)⟩

/-- No key is past the greatest one. -/
theorem exists_greatest_of_get? [Std.TransOrd κ] [Std.LawfulEqOrd κ] {table : Table κ α} {key : κ}
    {a : α} (h : table.get? key = some a) :
    ∃ greatest, table.greatest? = some greatest ∧
      (key = greatest ∨ compare key greatest = .lt) := by
  obtain ⟨init, last, heq⟩ : ∃ init last, table.entries = init ++ [last] :=
    List.eq_nil_or_concat' table.entries |>.resolve_left
      fun hnil => by simpa [hnil] using mem_entries_iff.2 h
  refine ⟨last.1, by simp [greatest?, heq], ?_⟩
  have hmem := mem_entries_iff.2 h
  have hascending := table.ascending
  rw [heq] at hmem hascending
  rcases List.mem_append.1 hmem with hinit | hlast
  · exact Or.inr ((List.pairwise_append.1 hascending).2.2 _ hinit last List.mem_cons_self)
  · exact Or.inl (congrArg Prod.fst (List.mem_singleton.1 hlast))

/-- A table without a greatest key is empty. -/
theorem get?_of_greatest_eq_none [Std.TransOrd κ] [Std.LawfulEqOrd κ] {table : Table κ α}
    (h : table.greatest? = none) (key : κ) : table.get? key = none := by
  by_contra hsome
  obtain ⟨a, ha⟩ := Option.ne_none_iff_exists'.1 hsome
  obtain ⟨greatest, hgreatest, -⟩ := exists_greatest_of_get? ha
  rw [h] at hgreatest
  contradiction

end Table

end FramedAvro
