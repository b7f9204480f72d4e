import FramedAvro.Proofs.Registry.Remote.Sending

/-!
# Custom headers

Headers are set under names as they are spelled, and sent under names without regard to the case of
their letters. A builder keeps the last value of each spelling, and when the settings are built, its
headers are gone through in an order that nobody knows, of which the last one of a name is sent. So
of several spellings of one name the order decides and not the call that was made last, unless it
does not matter because they all have the same value.

## Main definitions

* `Http.Header.lastValue?`: the value that was set last.
* `RemoteSettings.Carries`: all requests have a header with a value.
* `SettingsBuilder.Step`, `SettingsBuilder.collect`: collecting settings.

## Main results

* `Http.Header.filter_merge`: what is sent under a name, in any order.
* `SettingsBuilder.carries_last_iff`: when the value that was set last is sent in every order.
* `SettingsBuilder.carries_stale`: settings with which it is not.
-/

namespace FramedAvro

namespace Http.Header

/-! ### The last value -/

/-- The value in the last of the headers whose name is one of those in question. -/
def lastValue? (named : String → Bool) (headers : List (String × String)) : Option String :=
  (headers.reverse.find? fun header => named header.1).map (·.2)

/-- Where no header is set, none is last. -/
@[simp] theorem lastValue?_nil (named : String → Bool) : lastValue? named [] = none := rfl

/-- A header that is set after others is the last one of its name. -/
theorem lastValue?_concat (named : String → Bool) (headers : List (String × String))
    (header : String × String) :
    lastValue? named (headers ++ [header]) =
      if named header.1 then some header.2 else lastValue? named headers := by
  rw [lastValue?, List.reverse_append, List.reverse_singleton, List.singleton_append,
    List.find?_cons]
  cases hnamed : named header.1 <;> simp [lastValue?]

/-- The last value was set, under a name that is in question. -/
theorem exists_mem_of_lastValue? {named : String → Bool} {headers : List (String × String)}
    {value : String} (h : lastValue? named headers = some value) :
    ∃ name, named name = true ∧ (name, value) ∈ headers := by
  obtain ⟨header, hfound, rfl⟩ := Option.map_eq_some_iff.1 h
  have hnamed : named header.1 = true :=
    List.find?_some (p := fun header : String × String => named header.1) hfound
  exact ⟨header.1, hnamed, List.mem_reverse.1 (List.mem_of_find?_eq_some hfound)⟩

/-- Where a header is set under a name in question, there is a last one. -/
theorem exists_lastValue?_of_mem (named : String → Bool) {headers : List (String × String)}
    {header : String × String} (hmem : header ∈ headers) (hnamed : named header.1 = true) :
    ∃ value, lastValue? named headers = some value := by
  have hfound : (headers.reverse.find? fun header => named header.1).isSome = true :=
    List.find?_isSome.2 ⟨header, List.mem_reverse.2 hmem, hnamed⟩
  obtain ⟨last, hlast⟩ := Option.isSome_iff_exists.1 hfound
  exact ⟨last.2, by rw [lastValue?, hlast]; rfl⟩

/-! ### Headers as they are set -/

namespace Table

/-- Setting a header adds its spelling at the end, unless it is there already. -/
theorem keys_set (name value : String) (table : Table) :
    (table.set name value).map (·.1) =
      if name ∈ table.map (·.1) then table.map (·.1) else table.map (·.1) ++ [name] := by
  induction table with
  | nil => rfl
  | cons entry rest ih =>
      obtain ⟨other, old⟩ := entry
      rw [set]
      by_cases hsame : other = name
      · simp [hsame]
      · rw [if_neg hsame, List.map_cons, ih]
        by_cases hrest : name ∈ rest.map (·.1) <;> simp [hrest, Ne.symm hsame]

/-- After setting a header, its spelling has the new value and all others have theirs. -/
theorem mem_set_iff {name value : String} {table : Table} (h : (table.map (·.1)).Nodup)
    {spelling own : String} :
    (spelling, own) ∈ table.set name value ↔
      if spelling = name then own = value else (spelling, own) ∈ table := by
  induction table with
  | nil => by_cases hname : spelling = name <;> simp [set, hname]
  | cons entry rest ih =>
      obtain ⟨other, old⟩ := entry
      obtain ⟨hfresh, hrest⟩ := List.nodup_cons.1 h
      have hmissing (own : String) : (other, own) ∉ rest :=
        fun hmem => hfresh (List.mem_map.2 ⟨_, hmem, rfl⟩)
      rw [set]
      by_cases hsame : other = name
      · subst hsame
        by_cases hname : spelling = other
        · subst hname
          simp [hmissing]
        · simp [hname]
      · rw [if_neg hsame, List.mem_cons, ih hrest, List.mem_cons]
        by_cases hname : spelling = name
        · simp [hname, Ne.symm hsame]
        · simp [hname]

/-- A table has one entry for each spelling that was set, with the value that was set last. -/
structure Holds (table : Table) (calls : List (String × String)) : Prop where
  nodup : (table.map (·.1)).Nodup
  mem_iff : ∀ spelling value,
    (spelling, value) ∈ table ↔ lastValue? (· = spelling) calls = some value

/-- The empty table is what no calls have set. -/
theorem holds_nil : Holds [] [] where
  nodup := List.nodup_nil
  mem_iff spelling value := by simp

/-- Setting one more header keeps the table what it is. -/
theorem Holds.set {table : Table} {calls : List (String × String)} (h : Holds table calls)
    (call : String × String) : Holds (table.set call.1 call.2) (calls ++ [call]) where
  nodup := by
    rw [keys_set]
    split
    · exact h.nodup
    · next hnew => exact List.nodup_append.2 ⟨h.nodup, List.nodup_singleton _, by
        rintro other hother _ hcall rfl
        exact hnew (List.mem_singleton.1 hcall ▸ hother)⟩
  mem_iff spelling value := by
    rw [mem_set_iff h.nodup, lastValue?_concat, h.mem_iff]
    by_cases hspelling : spelling = call.1
    · simp [hspelling, eq_comm]
    · simp [hspelling, Ne.symm hspelling]

/-- The table of headers that were set one after the other. -/
theorem Holds.foldl {table : Table} {before : List (String × String)} (h : Holds table before)
    (calls : List (String × String)) :
    Holds (calls.foldl (fun table call => table.set call.1 call.2) table) (before ++ calls) := by
  induction calls generalizing table before with
  | nil => exact (List.append_nil before).symm ▸ h
  | cons call rest ih => exact List.append_cons before call rest ▸ ih (h.set call)

variable {table order : Table} {calls : List (String × String)} {name : String}

/-- Whatever the order of a table, the last of its headers with a name has the last value of some
spelling of the name. -/
theorem Holds.exists_spelling (h : Holds table calls) (horder : order.Perm table) {value : String}
    (hvalue : lastValue? (·.toLower = name) order = some value) :
    ∃ spelling, spelling.toLower = name ∧ lastValue? (· = spelling) calls = some value := by
  obtain ⟨spelling, hspelling, hmem⟩ := exists_mem_of_lastValue? hvalue
  exact ⟨spelling, of_decide_eq_true hspelling, (h.mem_iff _ _).1 (horder.mem_iff.1 hmem)⟩

/-- A table has a header with each name that was set. -/
theorem Holds.exists_lastValue? (h : Holds table calls) (horder : order.Perm table)
    {call : String × String} (hcall : call ∈ calls) :
    ∃ value, lastValue? (·.toLower = call.1.toLower) order = some value := by
  obtain ⟨own, hown⟩ := exists_lastValue?_of_mem (· = call.1) hcall (by simp)
  have hmem := horder.mem_iff.2 ((h.mem_iff _ _).2 hown)
  exact exists_lastValue?_of_mem (·.toLower = call.1.toLower) hmem (by simp)

/-- Each spelling is the last one of its name in some order. -/
theorem Holds.exists_order (h : Holds table calls) {spelling value : String}
    (hvalue : lastValue? (· = spelling) calls = some value) :
    ∃ order, order.Perm table ∧ lastValue? (·.toLower = spelling.toLower) order = some value := by
  have hmem := (h.mem_iff _ _).2 hvalue
  refine ⟨table.erase (spelling, value) ++ [(spelling, value)], ?_, ?_⟩
  · exact List.perm_append_comm.trans (List.perm_cons_erase hmem).symm
  · simp [lastValue?_concat]

end Table

/-! ### Headers as they are sent -/

/-- A header that is put among others takes the place of all with its name. -/
theorem filter_put (name value own : String) (headers : List (String × String)) :
    (put name value headers).filter (·.1 = own) =
      if name.toLower = own then [(own, value)] else headers.filter (·.1 = own) := by
  rw [put, List.filter_append, List.filter_filter]
  by_cases hsame : name.toLower = own
  · subst hsame
    simp
  · have hkept : headers.filter (fun header =>
        decide (header.1 = own) && decide (header.1 ≠ name.toLower)) =
          headers.filter (·.1 = own) := by
      refine List.filter_congr fun header _ => ?_
      by_cases hown : header.1 = own <;> simp [hown, Ne.symm hsame]
    rw [hkept]
    simp [hsame]

/-- Of the headers with a name the last one is sent, and nothing else under this name. -/
theorem filter_merge (name : String) (headers : List (String × String)) :
    (merge headers).filter (·.1 = name) =
      ((lastValue? (·.toLower = name) headers).map fun value => (name, value)).toList := by
  induction headers using List.reverseRecOn with
  | nil => rfl
  | append_singleton headers header ih =>
      have hmerge : merge (headers ++ [header]) = put header.1 header.2 (merge headers) := by
        rw [merge, List.foldl_append]
        rfl
      rw [hmerge, filter_put, lastValue?_concat, ih]
      by_cases hname : header.1.toLower = name <;> simp [hname]

/-- The names of headers that requests may have of their own. -/
def ownNames : List String :=
  ["content-type", "accept", "authorization", "host", "content-length"]

/-- A header that can be set for all calls: one that can be sent and that requests do not have of
their own. -/
structure IsCustom (header : String × String) : Prop where
  isName : Header.isName header.1 = true
  isValue : Header.isValue header.2 = true
  not_own : header.1.toLower ∉ ownNames

instance (header : String × String) : Decidable (IsCustom header) :=
  decidable_of_iff (Header.isName header.1 = true ∧ Header.isValue header.2 = true ∧
      header.1.toLower ∉ ownNames)
    ⟨fun ⟨hname, hvalue, hown⟩ => ⟨hname, hvalue, hown⟩,
      fun h => ⟨h.isName, h.isValue, h.not_own⟩⟩

end Http.Header

namespace Http.Request

/-- Who a request comes from is said under one name. -/
theorem name_of_mem_headers {authorization : Authorization} {header : String × String}
    (h : header ∈ authorization.headers) : header.1 = "authorization" := by
  rw [Authorization.headers] at h
  split at h
  · rw [List.mem_singleton.1 h]
  · contradiction

/-- The headers of a call have names that no custom header may have. -/
theorem mem_ownNames_of_mem_ownHeaders {login authorization : Authorization}
    {body : Option String} {header : String × String}
    (h : header ∈ ownHeaders login authorization body) : header.1 ∈ Header.ownNames := by
  have hnamed {said : Authorization} (hmem : header ∈ said.headers) :
      header.1 ∈ Header.ownNames := by
    rw [name_of_mem_headers hmem]
    decide
  rw [ownHeaders, List.mem_append, List.mem_append] at h
  rcases h with (hlogin | hbody) | hsaid
  · exact hnamed hlogin
  · split at hbody
    · simp only [List.mem_cons, List.not_mem_nil, or_false] at hbody
      rcases hbody with rfl | rfl <;> decide
    · contradiction
  · exact hnamed hsaid

/-- Under a name that requests do not have of their own, they have what was set for all calls. -/
theorem filter_headersWith {login authorization : Authorization} {body : Option String}
    {custom : List (String × String)} {name : String} (h : name ∉ Header.ownNames) :
    (headersWith (ownHeaders login authorization body) custom).filter (·.1 = name) =
      custom.filter (·.1 = name) := by
  have hown (header : String × String) (hmem : header ∈ ownHeaders login authorization body) :
      header.1 ≠ name := fun heq => h (heq ▸ mem_ownNames_of_mem_ownHeaders hmem)
  have hnone : (ownHeaders login authorization body).filter (·.1 = name) = [] :=
    List.filter_eq_nil_iff.2 fun header hmem => by simpa using hown header hmem
  have haccept : "accept" ≠ name := fun heq => h (heq ▸ by decide)
  have hlookup : (ownHeaders login authorization body).lookup name = none :=
    List.lookup_eq_none_iff.2 fun header hmem => by simpa using (hown header hmem).symm
  have hcustom : (ownHeaders login authorization body ++ custom.filter fun header =>
      ((ownHeaders login authorization body).lookup header.1).isNone).filter (·.1 = name) =
        custom.filter (·.1 = name) := by
    rw [List.filter_append, hnone, List.nil_append, List.filter_filter]
    refine List.filter_congr fun header _ => ?_
    by_cases hname : header.1 = name <;> simp [hname, hlookup]
  rw [headersWith]
  split
  · exact hcustom
  · rw [List.filter_append, hcustom]
    simp [haccept]

end Http.Request

/-! ### Settings -/

instance : Inhabited Url :=
  ⟨⟨"http", "", none, none, none, .segments [], none, none⟩⟩

/-- Under the name, each request for a call has the value and nothing else, and so has each that
goes over a transport. -/
structure RemoteSettings.Carries (settings : RemoteSettings) (name value : String) : Prop where
  request : ∀ call url,
    (Remote.request settings call url).headers.filter (·.1 = name) = [(name, value)]
  exchange : ∀ (τ : Type) (transport : Http.Transport τ) (call : RemoteCall) (state : τ),
    ∀ exchange ∈ (Remote.ending transport settings call state).exchanges,
      exchange.request.headers.filter (·.1 = name) = [(name, value)]

/-- There is one value under a name. -/
theorem RemoteSettings.Carries.unique {settings : RemoteSettings} {name value other : String}
    (h : settings.Carries name value) (h' : settings.Carries name other) : value = other := by
  have hrequest := h.request (.getById 0) default
  rw [h'.request] at hrequest
  simpa using hrequest.symm

open Http in
/-- Requests have the last value among the headers that the settings were built of. -/
theorem RemoteSettings.carries_of_lastValue? {settings : RemoteSettings}
    {order : List (String × String)} (hmerge : settings.headers = Header.merge order)
    {name value : String} (hname : name ∉ Header.ownNames)
    (hlast : Header.lastValue? (·.toLower = name) order = some value) :
    settings.Carries name value := by
  have hrequest (call : RemoteCall) (url : Url) :
      (Remote.request settings call url).headers.filter (·.1 = name) = [(name, value)] := by
    rw [Remote.request, Request.make, Request.filter_headersWith hname, hmerge,
      Header.filter_merge, hlast]
    rfl
  refine ⟨hrequest, fun τ transport call state exchange hmem => ?_⟩
  obtain ⟨_, -, url, -, hmade⟩ :=
    (Remote.makes_ending transport settings call state).requests exchange hmem
  rw [hmade]
  exact hrequest call url

namespace SettingsBuilder

/-! ### Collecting settings -/

/-- A call to a builder. -/
inductive Step where
  | url (url : String)
  | authorization (authorization : Http.Authorization)
  | header (name value : String)
  | proxy (proxy : String)
  | maxRetries (maxRetries : Nat)

/-- The header that a call sets. -/
def Step.header? : Step → Option (String × String)
  | header name value => some (name, value)
  | _ => none

/-- The builder after a call. -/
def next (builder : SettingsBuilder) : Step → SettingsBuilder
  | .url url => builder.addUrl url
  | .authorization authorization => builder.setAuthorization authorization
  | .header name value => builder.addHeader name value
  | .proxy proxy => builder.setProxy proxy
  | .maxRetries maxRetries => builder.setMaxRetries maxRetries

/-- The builder after calls, one after the other. -/
def collect (steps : List Step) (builder : SettingsBuilder) : SettingsBuilder :=
  steps.foldl next builder

/-- The headers that calls set, in their order. -/
def headerCalls (steps : List Step) : List (String × String) :=
  steps.filterMap Step.header?

/-- Only calls that set a header change the headers. -/
theorem headers_collect (steps : List Step) (builder : SettingsBuilder) :
    (collect steps builder).headers =
      (headerCalls steps).foldl (fun table call => table.set call.1 call.2) builder.headers := by
  induction steps generalizing builder with
  | nil => rfl
  | cons step rest ih =>
      rw [collect, List.foldl_cons]
      refine (ih (builder.next step)).trans ?_
      cases step <;> rfl

/-- A builder has the last value of each spelling. -/
theorem holds_collect (first : String) (steps : List Step) :
    (collect steps (ofUrl first)).headers.Holds (headerCalls steps) := by
  rw [headers_collect]
  exact Http.Header.Table.holds_nil.foldl (headerCalls steps)

/-! ### Building settings -/

/-- Headers that can be sent are not refused. -/
theorem checkHeaders_eq_ok {headers : List (String × String)}
    (h : ∀ header ∈ headers, Http.Header.isName header.1 = true ∧
      Http.Header.isValue header.2 = true) : checkHeaders headers = .ok () := by
  induction headers with
  | nil => rfl
  | cons header rest ih =>
      obtain ⟨⟨hname, hvalue⟩, hrest⟩ := List.forall_mem_cons.1 h
      simp [checkHeaders, hname, hvalue, ih hrest]

variable {first : String} {steps : List Step} {order : List (String × String)}
  {settings : RemoteSettings}

/-- Headers are merged in the order in which they are gone through. -/
theorem headers_of_buildInOrder {builder : SettingsBuilder}
    (h : builder.buildInOrder order = .ok settings) :
    settings.headers = Http.Header.merge order := by
  rw [buildInOrder] at h
  cases hheaders : checkHeaders order with
  | error failure =>
      rw [hheaders] at h
      contradiction
  | ok =>
      cases hproxy : checkProxy builder.proxy with
      | error failure =>
          rw [hheaders, hproxy] at h
          contradiction
      | ok =>
          rw [hheaders, hproxy] at h
          obtain rfl := Except.ok.inj h
          rfl

/-- Settings are built in every order of the headers. -/
theorem exists_buildInOrder (hcustom : ∀ call ∈ headerCalls steps, Http.Header.IsCustom call)
    (hproxy : checkProxy (collect steps (ofUrl first)).proxy = .ok ())
    (horder : order.Perm (collect steps (ofUrl first)).headers) :
    ∃ settings, (collect steps (ofUrl first)).buildInOrder order = .ok settings := by
  have hheaders : checkHeaders order = .ok () := by
    refine checkHeaders_eq_ok fun header hmem => ?_
    have hset := ((holds_collect first steps).mem_iff _ _).1 (horder.mem_iff.1 hmem)
    obtain ⟨name, hname, hcall⟩ := Http.Header.exists_mem_of_lastValue? hset
    obtain rfl := of_decide_eq_true hname
    exact ⟨(hcustom _ hcall).isName, (hcustom _ hcall).isValue⟩
  rw [buildInOrder, hheaders, hproxy]
  exact ⟨_, rfl⟩

/-- Under each name that was set, requests have the last value of one of its spellings. -/
theorem exists_carries (hcustom : ∀ call ∈ headerCalls steps, Http.Header.IsCustom call)
    (horder : order.Perm (collect steps (ofUrl first)).headers)
    (hbuilt : (collect steps (ofUrl first)).buildInOrder order = .ok settings)
    {call : String × String} (hcall : call ∈ headerCalls steps) :
    ∃ spelling value, spelling.toLower = call.1.toLower ∧
      Http.Header.lastValue? (· = spelling) (headerCalls steps) = some value ∧
      settings.Carries call.1.toLower value := by
  have hholds := holds_collect first steps
  obtain ⟨value, hvalue⟩ := hholds.exists_lastValue? horder hcall
  obtain ⟨spelling, hspelling, hlast⟩ := hholds.exists_spelling horder hvalue
  have hcarries := RemoteSettings.carries_of_lastValue? (headers_of_buildInOrder hbuilt)
    (hcustom call hcall).not_own hvalue
  exact ⟨spelling, value, hspelling, hlast, hcarries⟩

/-- The last value of each spelling is what requests have for some order. -/
theorem exists_order_carries (hcustom : ∀ call ∈ headerCalls steps, Http.Header.IsCustom call)
    (hproxy : checkProxy (collect steps (ofUrl first)).proxy = .ok ()) {spelling value : String}
    (hlast : Http.Header.lastValue? (· = spelling) (headerCalls steps) = some value) :
    ∃ order settings, order.Perm (collect steps (ofUrl first)).headers ∧
      (collect steps (ofUrl first)).buildInOrder order = .ok settings ∧
      settings.Carries spelling.toLower value := by
  obtain ⟨order, horder, hvalue⟩ := (holds_collect first steps).exists_order hlast
  obtain ⟨settings, hbuilt⟩ := exists_buildInOrder hcustom hproxy horder
  obtain ⟨name, hname, hcall⟩ := Http.Header.exists_mem_of_lastValue? hlast
  obtain rfl := of_decide_eq_true hname
  exact ⟨order, settings, horder, hbuilt, RemoteSettings.carries_of_lastValue?
    (headers_of_buildInOrder hbuilt) (hcustom _ hcall).not_own hvalue⟩

/-- Whatever the order in which the headers of a builder are gone through, its settings are built,
and under each name that was set all requests have one value, which was set last under a spelling of
the name. It is the one that was set last under the name in every order exactly if it was set last
under each of its spellings. -/
theorem carries_last_iff (first : String) (steps : List Step)
    (hcustom : ∀ call ∈ headerCalls steps, Http.Header.IsCustom call)
    (hproxy : checkProxy (collect steps (ofUrl first)).proxy = .ok ()) :
    (∀ order, order.Perm (collect steps (ofUrl first)).headers → ∃ settings,
      (collect steps (ofUrl first)).buildInOrder order = .ok settings ∧
        ∀ call ∈ headerCalls steps, ∃ spelling value, spelling.toLower = call.1.toLower ∧
          Http.Header.lastValue? (· = spelling) (headerCalls steps) = some value ∧
          settings.Carries call.1.toLower value) ∧
    ∀ name value, Http.Header.lastValue? (·.toLower = name) (headerCalls steps) = some value →
      ((∀ order settings, order.Perm (collect steps (ofUrl first)).headers →
          (collect steps (ofUrl first)).buildInOrder order = .ok settings →
          settings.Carries name value) ↔
        ∀ spelling own, spelling.toLower = name →
          Http.Header.lastValue? (· = spelling) (headerCalls steps) = some own → own = value) := by
  constructor
  · intro order horder
    obtain ⟨settings, hbuilt⟩ := exists_buildInOrder hcustom hproxy horder
    exact ⟨settings, hbuilt, fun call hcall => exists_carries hcustom horder hbuilt hcall⟩
  · intro name value hset
    obtain ⟨setting, hnamed, hcall⟩ := Http.Header.exists_mem_of_lastValue? hset
    obtain rfl := of_decide_eq_true hnamed
    constructor
    · intro halways spelling own hspelling hown
      obtain ⟨order, settings, horder, hbuilt, hcarries⟩ :=
        exists_order_carries hcustom hproxy hown
      rw [hspelling] at hcarries
      exact hcarries.unique (halways order settings horder hbuilt)
    · intro hsame order settings horder hbuilt
      obtain ⟨spelling, own, hspelling, hlast, hcarries⟩ :=
        exists_carries hcustom horder hbuilt hcall
      rwa [hsame spelling own hspelling hlast] at hcarries

/-- A header that is set under two spellings of its name, and to the same value under both in the
end, with other settings in between. -/
def respelled : List Step :=
  [.header "X-Trace" "1", .authorization (.token "t"), .header "x-trace" "2", .url "http://b",
    .header "X-Trace" "2"]

/-- A header that was set under two spellings, and last to the same value under both, is sent with
this value in every order. -/
theorem carries_last_iff_respelled :
    (∀ call ∈ headerCalls respelled, Http.Header.IsCustom call) ∧
      checkProxy (collect respelled (ofUrl "http://a")).proxy = .ok () ∧
      Http.Header.lastValue? (·.toLower = "x-trace") (headerCalls respelled) = some "2" ∧
      ∀ order settings, order.Perm (collect respelled (ofUrl "http://a")).headers →
        (collect respelled (ofUrl "http://a")).buildInOrder order = .ok settings →
        settings.Carries "x-trace" "2" := by
  have hcustom : ∀ call ∈ headerCalls respelled, Http.Header.IsCustom call := by decide +kernel
  have hlast : Http.Header.lastValue? (·.toLower = "x-trace") (headerCalls respelled) =
      some "2" := by decide +kernel
  refine ⟨hcustom, rfl, hlast, ?_⟩
  refine ((carries_last_iff "http://a" respelled hcustom rfl).2 _ _ hlast).2 ?_
  intro spelling own _ hown
  by_cases hupper : "X-Trace" = spelling
  · subst hupper
    exact Option.some.inj (hown.symm.trans (by decide +kernel))
  · have hcalls : headerCalls respelled =
        [("X-Trace", "1"), ("x-trace", "2"), ("X-Trace", "2")] := rfl
    obtain ⟨-, rfl⟩ : "x-trace" = spelling ∧ "2" = own := by
      simpa [hcalls, Http.Header.lastValue?, hupper] using hown
    rfl

/-- A header that is set under two spellings of its name, and last under the first of them. -/
def restored : List Step :=
  [.header "foo" "1", .header "Foo" "2", .header "foo" "3"]

/-- The value that was set last is not sent when its spelling is gone through before another one. -/
theorem carries_stale :
    (∀ call ∈ headerCalls restored, Http.Header.IsCustom call) ∧
      Http.Header.lastValue? (·.toLower = "foo") (headerCalls restored) = some "3" ∧
      [("foo", "3"), ("Foo", "2")].Perm (collect restored (ofUrl "http://a")).headers ∧
      ∃ settings, (collect restored (ofUrl "http://a")).buildInOrder
          [("foo", "3"), ("Foo", "2")] = .ok settings ∧
        settings.Carries "foo" "2" ∧ ¬settings.Carries "foo" "3" := by
  have hcustom : ∀ call ∈ headerCalls restored, Http.Header.IsCustom call := by decide +kernel
  have horder : [("foo", "3"), ("Foo", "2")].Perm
      (collect restored (ofUrl "http://a")).headers := by decide +kernel
  obtain ⟨settings, hbuilt⟩ := exists_buildInOrder hcustom rfl horder
  have hcarries : settings.Carries "foo" "2" :=
    RemoteSettings.carries_of_lastValue? (headers_of_buildInOrder hbuilt) (by decide)
      (by decide +kernel)
  exact ⟨hcustom, by decide +kernel, horder, settings, hbuilt, hcarries,
    fun hlast => absurd (hcarries.unique hlast) (by decide)⟩

end SettingsBuilder

end FramedAvro
