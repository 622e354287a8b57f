import ApiToolkit.Http.Options
import ApiToolkit.Proofs.Entries
import ApiToolkit.Proofs.Json.Parts
/-!
# The theory of request options

Options are put over each other in layers, and they are written as objects and read back.  As long as
no table repeats a name, layering is an idempotent monoid.  Writing and reading are inverse to each
other for all options that no object could be read as otherwise: a body is not null, and the other
options do not use the keys with a meaning of their own.

## What is inside

- `RequestOptions.Distinct`; `layer_assoc`, `empty_layer`, `layer_empty`, `layer_self`: the laws of
  layers.
- `RequestOptions.Reads`, `RequestOptions.distinct_of_ofJson?`: what is read from an object.
- `RequestOptions.Writable`, `RequestOptions.ofJson?_toJson`: what is written is read back.
- `RequestOptions.rewritten?`, `RequestOptions.toJson_of_ofJson?`: what was read, written again.
-/

namespace ApiToolkit

namespace RequestOptions

/-! ## Layers -/

/-- No table of the options repeats a name, as is the case for all tables that were written name by
name. -/
structure Distinct (o : RequestOptions) : Prop where
  headers : o.headers.keys.Nodup
  query : o.query.keys.Nodup
  extra : o.extra.keys.Nodup

theorem distinct_empty : empty.Distinct := ⟨List.nodup_nil, List.nodup_nil, List.nodup_nil⟩

section Layers

variable {base middle : RequestOptions}

theorem Distinct.layer (hbase : base.Distinct) (top : RequestOptions) :
    (base.layer top).Distinct where
  headers := Entries.nodup_keys_overlay hbase.headers top.headers
  query := Entries.nodup_keys_overlay hbase.query top.query
  extra := Entries.nodup_keys_overlay hbase.extra top.extra

theorem layer_empty (base : RequestOptions) : base.layer empty = base := by
  simp [layer, empty]

theorem empty_layer (hbase : base.Distinct) : empty.layer base = base := by
  simp [layer, empty, Entries.nil_overlay hbase.headers, Entries.nil_overlay hbase.query,
    Entries.nil_overlay hbase.extra]

/-- Settings that are absent on top are looked for further down, in whichever order the layers are put
together; the tables keep the places of the lowest layer and the values of the highest one. -/
theorem layer_assoc (hbase : base.Distinct) (hmiddle : middle.Distinct) (top : RequestOptions) :
    (base.layer middle).layer top = base.layer (middle.layer top) := by
  simp only [layer, Option.or_assoc, Entries.overlay_assoc hbase.headers hmiddle.headers,
    Entries.overlay_assoc hbase.query hmiddle.query,
    Entries.overlay_assoc hbase.extra hmiddle.extra]

theorem layer_self (hbase : base.Distinct) : base.layer base = base := by
  simp [layer, Entries.overlay_self hbase.headers, Entries.overlay_self hbase.query,
    Entries.overlay_self hbase.extra]

end Layers

/-! ## What is written -/

/-- The entries of the keys with a meaning of their own. -/
def knownPart (o : RequestOptions) : Entries Json :=
  settingPart "baseURL" (o.baseUrl.map .str) ++
    tableEntry "headers" (o.headers.mapValues .str) ++
    settingPart "method" (o.method.map fun m => .str m.name) ++ tableEntry "query" o.query ++
    settingPart "body" o.body

theorem toJson_eq (o : RequestOptions) : o.toJson = .obj (o.knownPart ++ o.extra) := rfl

/-- The value of a table, unless it is empty. -/
def tableValue (entries : Entries Json) : Option Json :=
  if entries.isEmpty then none else some (.obj entries)

theorem settingPart_eq (key : String) (value : Option Json) :
    settingPart key value = (value.map fun v => (key, v)).toList := by
  cases value <;> rfl

theorem tableEntry_eq (key : String) (entries : Entries Json) :
    tableEntry key entries = ((tableValue entries).map fun v => (key, v)).toList := by
  unfold tableEntry tableValue
  split <;> rfl

theorem find?_part (key name : String) (value : Option Json) :
    Entries.find? (value.map fun v => (key, v)).toList name =
      if key = name then value else none := by
  cases value with
  | none => simp
  | some v => simp [Entries.find?_cons]

/-- What is found under a known key is what stands for the setting. -/
theorem find?_knownPart (o : RequestOptions) :
    o.knownPart.find? "baseURL" = o.baseUrl.map .str ∧
    o.knownPart.find? "headers" = tableValue (o.headers.mapValues .str) ∧
    o.knownPart.find? "method" = o.method.map (fun m => .str m.name) ∧
    o.knownPart.find? "query" = tableValue o.query ∧
    o.knownPart.find? "body" = o.body := by
  unfold knownPart
  simp only [settingPart_eq, tableEntry_eq, Entries.find?_append, find?_part]
  simp

theorem mem_knownKeys_of_mem_knownPart {o : RequestOptions} {entry : String × Json}
    (h : entry ∈ o.knownPart) : entry.1 ∈ knownKeys := by
  unfold knownPart at h
  simp only [settingPart_eq, tableEntry_eq, List.mem_append, Option.mem_toList,
    Option.map_eq_some_iff] at h
  rcases h with (((h | h) | h) | h) | h <;> obtain ⟨value, -, rfl⟩ := h <;> simp [knownKeys]

/-- Whether an entry is none of the keys with a meaning of their own. -/
def isOther (entry : String × Json) : Bool := !knownKeys.contains entry.1

theorem isOther_iff {entry : String × Json} : isOther entry = true ↔ entry.1 ∉ knownKeys := by
  simp [isOther]

/-- What is read field by field from the entries of an object. -/
structure Reads (entries : Entries Json) (o : RequestOptions) : Prop where
  baseUrl : optional? Json.asString? (entries.find? "baseURL") = some o.baseUrl
  headers : headers? (entries.find? "headers") = some o.headers
  method : optional? method? (entries.find? "method") = some o.method
  query : query? (entries.find? "query") = some o.query
  body : optional? some (entries.find? "body") = some o.body
  extra : entries.filter isOther = o.extra

theorem ofJson?_obj_eq_some_iff {entries : Entries Json} {o : RequestOptions} :
    ofJson? (.obj entries) = some o ↔ Reads entries o := by
  rw [ofJson?]
  constructor
  · intro h
    obtain ⟨base, hbase, h⟩ := Option.bind_eq_some_iff.mp h
    obtain ⟨headers, hheaders, h⟩ := Option.bind_eq_some_iff.mp h
    obtain ⟨method, hmethod, h⟩ := Option.bind_eq_some_iff.mp h
    obtain ⟨query, hquery, h⟩ := Option.bind_eq_some_iff.mp h
    obtain ⟨body, hbody, h⟩ := Option.bind_eq_some_iff.mp h
    cases h
    exact ⟨hbase, hheaders, hmethod, hquery, hbody, rfl⟩
  · rintro ⟨hbase, hheaders, hmethod, hquery, hbody, hextra⟩
    simp only [hbase, hheaders, hmethod, hquery, hbody]
    exact congrArg (fun extra => some { o with extra := extra }) hextra

/-! ## Reading what was written -/

/-- The options that can be read back. -/
structure Writable (o : RequestOptions) : Prop where
  /-- A body that is null would be read as none. -/
  body : o.body ≠ some .null
  /-- Another option with a known key would be read as the setting. -/
  extra : ∀ entry ∈ o.extra, entry.1 ∉ knownKeys

theorem Writable.layer {base top : RequestOptions} (hbase : base.Writable) (htop : top.Writable) :
    (base.layer top).Writable where
  body := by
    show top.body.or base.body ≠ some .null
    cases hbody : top.body with
    | none => exact hbase.body
    | some value =>
      rw [Option.some_or, ← hbody]
      exact htop.body
  extra := by
    intro entry hentry
    exact (Entries.mem_of_mem_overlay hentry).elim (hbase.extra entry) (htop.extra entry)

theorem Writable.find?_extra {o : RequestOptions} (h : o.Writable) {key : String}
    (hkey : key ∈ knownKeys) : o.extra.find? key = none := by
  refine Entries.find?_eq_none_iff.mpr fun hmem => ?_
  obtain ⟨entry, hentry, rfl⟩ := List.mem_map.mp hmem
  exact h.extra entry hentry hkey

theorem Writable.filter_isOther {o : RequestOptions} (h : o.Writable) :
    (o.knownPart ++ o.extra).filter isOther = o.extra := by
  have hknown : o.knownPart.filter isOther = [] := by
    rw [List.filter_eq_nil_iff]
    intro entry hentry hother
    exact isOther_iff.mp hother (mem_knownKeys_of_mem_knownPart hentry)
  have hextra : o.extra.filter isOther = o.extra :=
    List.filter_eq_self.mpr fun entry hentry => isOther_iff.mpr (h.extra entry hentry)
  rw [List.filter_append, hknown, hextra, List.nil_append]

theorem optional?_asString?_map (value : Option String) :
    optional? Json.asString? (value.map .str) = some value := by
  cases value <;> rfl

theorem ofOption?_name (m : Method) : Method.ofOption? m.name = some m := by
  cases m <;> decide

theorem optional?_method?_map (value : Option Method) :
    optional? method? (value.map fun m => .str m.name) = some value := by
  cases value with
  | none => rfl
  | some m => simp [optional?, method?, ofOption?_name]

theorem headers?_tableValue (headers : Entries String) :
    headers? (tableValue (headers.mapValues .str)) = some headers := by
  have hread : (headers.mapValues Json.str).mapM
      (fun entry => entry.2.asString?.map fun v => (entry.1, v)) = some headers := by
    induction headers with
    | nil => rfl
    | cons header rest ih =>
      rw [Entries.mapValues] at ih
      rw [Entries.mapValues, List.map_cons, List.mapM_cons, ih]
      rfl
  cases headers with
  | nil => rfl
  | cons header rest => exact hread

theorem query?_tableValue (query : Entries Json) : query? (tableValue query) = some query := by
  cases query <;> rfl

theorem optional?_some {value : Option Json} (h : value ≠ some .null) :
    optional? some value = some value := by
  cases value with
  | none => rfl
  | some json =>
    cases json with
    | null => exact absurd rfl h
    | _ => rfl

/-- What is written is read back. -/
theorem ofJson?_toJson {o : RequestOptions} (h : o.Writable) : ofJson? o.toJson = some o := by
  obtain ⟨hbase, hheaders, hmethod, hquery, hbody⟩ := find?_knownPart o
  have hfind (key : String) (hkey : key ∈ knownKeys) :
      Entries.find? (o.knownPart ++ o.extra) key = o.knownPart.find? key := by
    rw [Entries.find?_append, h.find?_extra hkey, Option.or_none]
  rw [toJson_eq, ofJson?_obj_eq_some_iff]
  constructor
  · rw [hfind "baseURL" (by simp [knownKeys]), hbase]
    exact optional?_asString?_map o.baseUrl
  · rw [hfind "headers" (by simp [knownKeys]), hheaders]
    exact headers?_tableValue o.headers
  · rw [hfind "method" (by simp [knownKeys]), hmethod]
    exact optional?_method?_map o.method
  · rw [hfind "query" (by simp [knownKeys]), hquery]
    exact query?_tableValue o.query
  · rw [hfind "body" (by simp [knownKeys]), hbody]
    exact optional?_some h.body
  · exact h.filter_isOther

/-! ## Writing what was read -/

/-- The name of a method in capital letters. -/
def capitals (text : String) : String := String.ofList (text.toList.map Letter.asciiUpper)

/-- What an entry that was read is written as: a setting that is null and a table that is empty are
left out, a method is written as its name in capital letters, and all else stays as it is. -/
def rewritten? (key : String) (value : Json) : Option Json :=
  match key, value with
  | "baseURL", .null | "method", .null | "body", .null => none
  | "headers", .obj [] | "query", .obj [] => none
  | "method", .str text | "method", .obj [(text, .null)] => some (.str (capitals text))
  | _, value => some value

theorem rewritten?_of_not_mem {key : String} (h : key ∉ knownKeys) (value : Json) :
    rewritten? key value = some value := by
  unfold rewritten?
  split <;> first | rfl | exact absurd (by decide) h

theorem capitals_of_ofOption? {text : String} {m : Method} (h : Method.ofOption? text = some m) :
    capitals text = m.name := by
  have hname := List.find?_some h
  rw [Bool.or_eq_true, beq_iff_eq, beq_iff_eq] at hname
  unfold capitals
  -- The name is in capital letters, or it is in small ones.
  rcases hname with hname | hname
  · rw [← hname]
    cases m <;> decide
  · rw [← hname]
    cases m <;> decide

section Read

variable {value : Option Json}

theorem map_str_of_optional? {base : Option String}
    (h : optional? Json.asString? value = some base) :
    base.map .str = value.bind (rewritten? "baseURL") := by
  rcases value with _ | value
  · cases h
    rfl
  · cases value <;> cases h <;> rfl

theorem map_name_of_optional? {method : Option Method}
    (h : optional? method? value = some method) :
    method.map (fun m => .str m.name) = value.bind (rewritten? "method") := by
  unfold optional? at h
  split at h
  next => cases h; rfl
  next => cases h; rfl
  next json hnull =>
    obtain ⟨m, hm, rfl⟩ := Option.map_eq_some_iff.mp h
    unfold method? at hm
    split at hm
    next text => simp [rewritten?, capitals_of_ofOption? hm]
    next text => simp [rewritten?, capitals_of_ofOption? hm]
    next => cases hm

theorem mapValues_of_mapM {entries : Entries Json} {headers : Entries String}
    (h : entries.mapM (fun entry => entry.2.asString?.map fun v => (entry.1, v)) = some headers) :
    headers.mapValues .str = entries := by
  induction entries generalizing headers with
  | nil =>
    cases h
    rfl
  | cons entry rest ih =>
    obtain ⟨key, json⟩ := entry
    rw [List.mapM_cons] at h
    obtain ⟨header, hheader, hmore⟩ := Option.bind_eq_some_iff.mp h
    obtain ⟨more, hrest, hcons⟩ := Option.bind_eq_some_iff.mp hmore
    obtain ⟨text, htext, rfl⟩ := Option.map_eq_some_iff.mp hheader
    cases hcons
    cases json with
    | str own =>
      cases htext
      exact congrArg ((key, Json.str _) :: ·) (ih hrest)
    | _ => cases htext

theorem tableValue_of_headers? {headers : Entries String} (h : headers? value = some headers) :
    tableValue (headers.mapValues .str) = value.bind (rewritten? "headers") := by
  unfold headers? at h
  split at h
  next => cases h; rfl
  next entries =>
    rw [mapValues_of_mapM h]
    cases entries <;> rfl
  next => cases h

theorem tableValue_of_query? {query : Entries Json} (h : query? value = some query) :
    tableValue query = value.bind (rewritten? "query") := by
  unfold query? at h
  split at h
  next => cases h; rfl
  next =>
    cases h
    cases query <;> rfl
  next => cases h

theorem eq_of_optional?_some {body : Option Json} (h : optional? some value = some body) :
    body = value.bind (rewritten? "body") := by
  rcases value with _ | value
  · cases h
    rfl
  · cases value <;> cases h <;> rfl

section Nodup

variable (hvalue : ∀ table : Entries Json, value = some (.obj table) → table.keys.Nodup)

include hvalue

theorem nodup_keys_of_headers? {headers : Entries String} (h : headers? value = some headers) :
    headers.keys.Nodup := by
  unfold headers? at h
  split at h
  next =>
    cases h
    exact List.nodup_nil
  next table =>
    have hkeys : headers.keys = Entries.keys table := by
      rw [← mapValues_of_mapM h]
      simp [Entries.keys, Entries.mapValues, Function.comp_def]
    rw [hkeys]
    exact hvalue table rfl
  next => cases h

theorem nodup_keys_of_query? {query : Entries Json} (h : query? value = some query) :
    query.keys.Nodup := by
  unfold query? at h
  split at h
  next =>
    cases h
    exact List.nodup_nil
  next table =>
    cases h
    exact hvalue query rfl
  next => cases h

end Nodup

end Read

/-- Options that are read from a value without repeated keys repeat no name. -/
theorem distinct_of_ofJson? {value : Json} (hdistinct : value.Distinct) {o : RequestOptions}
    (h : ofJson? value = some o) : o.Distinct := by
  cases value with
  | obj entries =>
    obtain ⟨here, below⟩ := hdistinct
    have htable (key : String) (table : Entries Json)
        (hfind : Entries.find? entries key = some (.obj table)) : table.keys.Nodup := by
      obtain ⟨hinner, -⟩ := below _ (Json.mem_children_of_find? hfind)
      exact hinner table rfl
    have hreads := ofJson?_obj_eq_some_iff.mp h
    constructor
    · exact nodup_keys_of_headers? (htable "headers") hreads.headers
    · exact nodup_keys_of_query? (htable "query") hreads.query
    · rw [← hreads.extra]
      exact (here entries rfl).sublist (List.filter_sublist.map _)
  | null | bool | num | str | arr => cases h

/-- The entries of known keys, in their order, as they are written again. -/
def rewrittenPart (entries : Entries Json) : Entries Json :=
  knownKeys.filterMap fun key =>
    ((entries.find? key).bind (rewritten? key)).map fun value => (key, value)

/-- What was read is written again with the known keys in front, and with the other entries as they
are. -/
theorem toJson_of_ofJson? {entries : Entries Json} {o : RequestOptions}
    (h : ofJson? (.obj entries) = some o) :
    o.toJson = .obj (rewrittenPart entries ++ entries.filter isOther) ∧ o.Writable := by
  obtain ⟨hbase, hheaders, hmethod, hquery, hbody, hextra⟩ := ofJson?_obj_eq_some_iff.mp h
  constructor
  · rw [toJson_eq, hextra]
    congr 2
    unfold knownPart rewrittenPart
    simp only [settingPart_eq, tableEntry_eq, map_str_of_optional? hbase,
      tableValue_of_headers? hheaders, map_name_of_optional? hmethod, tableValue_of_query? hquery,
      eq_of_optional?_some hbody, List.filterMap_eq_flatMap_toList, knownKeys, List.flatMap_cons,
      List.flatMap_nil, List.append_nil, List.append_assoc]
  · constructor
    · rw [eq_of_optional?_some hbody]
      intro hnull
      -- A body that is null is not read as one.
      obtain ⟨value, -, hvalue⟩ := Option.bind_eq_some_iff.mp hnull
      cases value <;> cases hvalue
    · intro entry hentry
      rw [← hextra] at hentry
      exact isOther_iff.mp (List.mem_filter.mp hentry).2

/-- Under every key is written what was there, unless it is left out. -/
theorem find?_rewritten (entries : Entries Json) (key : String) :
    Entries.find? (rewrittenPart entries ++ entries.filter isOther) key =
      (entries.find? key).bind (rewritten? key) := by
  have hothers := Entries.find?_filter_names (fun name => !knownKeys.contains name) entries key
  rw [Entries.find?_append, rewrittenPart, Entries.find?_filterMap_names]
  unfold isOther
  rw [hothers]
  by_cases hkey : key ∈ knownKeys
  · simp [hkey]
  · have hstays : (entries.find? key).bind (rewritten? key) = entries.find? key := by
      rw [funext (rewritten?_of_not_mem hkey), Option.bind_fun_some]
    simp [hkey, hstays]

end RequestOptions

end ApiToolkit
