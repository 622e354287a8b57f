import ApiToolkit.Http.Request
import ApiToolkit.Proofs.Entries
/-!
# The headers of a request

Options are layered with regard to how header names are spelled: a layer over others writes a known
spelling in place and appends a new one.  Only then are names compared in small letters, and of
several spellings of one name the last one stays.  So it is not the layers that decide between two
spellings but which of them is newer.

## What is inside

- `RequestOptions.layered`: layers over each other; `keys_layered` and `find?_layered`.
- `Http.buildHeaders_eq_ok_iff`: the headers that are built.
- `RequestOptions.newestSpelling`, `RequestOptions.mostSpecific`: the spelling that stays, and what the
  last layer says.
- `Http.find?_buildHeaders_layered`: the value of a header, and when it is the most specific one.
-/

namespace ApiToolkit

namespace RequestOptions

/-! ## Layers -/

/-- Layers over each other, the last one on top. -/
def layered (layers : List RequestOptions) : RequestOptions :=
  match layers with
  | [] => empty
  | first :: rest => rest.foldl layer first

theorem headers_foldl_layer (base : RequestOptions) (layers : List RequestOptions) :
    (layers.foldl layer base).headers = (layers.map headers).foldl Entries.overlay base.headers := by
  induction layers generalizing base with
  | nil => rfl
  | cons top rest ih => exact ih (base.layer top)

section Layered

variable {layers : List RequestOptions} (h : ∀ layer ∈ layers, layer.headers.keys.Nodup)

include h

/-- The spellings stand in the order in which the layers brought them. -/
theorem keys_layered :
    (layered layers).headers.keys = (layers.flatMap fun layer => layer.headers.keys).eraseDups := by
  cases layers with
  | nil => rfl
  | cons first rest =>
    obtain ⟨hfirst, -⟩ := List.forall_mem_cons.mp h
    show ((rest.foldl layer first).headers).keys = _
    rw [headers_foldl_layer, Entries.keys_foldl_overlay hfirst, List.flatMap_cons, List.flatMap_map]

theorem nodup_keys_layered : (layered layers).headers.keys.Nodup := by
  rw [keys_layered h]
  exact nodup_eraseDups _

/-- As long as the spelling is the same, the last layer wins. -/
theorem find?_layered (spelling : String) :
    (layered layers).headers.find? spelling =
      layers.reverse.findSome? fun layer => layer.headers.find? spelling := by
  cases layers with
  | nil => rfl
  | cons first rest =>
    obtain ⟨-, hrest⟩ := List.forall_mem_cons.mp h
    have htables : ∀ table ∈ rest.map headers, table.keys.Nodup := by simpa using hrest
    show ((rest.foldl layer first).headers).find? spelling = _
    rw [headers_foldl_layer, Entries.find?_foldl_overlay _ htables, List.reverse_cons,
      List.findSome?_append, ← List.map_reverse, List.findSome?_map]
    simp [Function.comp_def]

end Layered

end RequestOptions

namespace Http

/-! ## Built headers -/

/-- Whether a header can be sent. -/
def isHeader (header : String × String) : Bool :=
  isHeaderName header.1 && header.2.toList.all isValueChar

/-- Headers with their names in small letters. -/
def lowered (headers : Entries String) : Entries String :=
  headers.map fun header => (lowerName header.1, header.2)

theorem putHeader_eq_ok_iff {headers after : Entries String} {header : String × String} :
    putHeader headers header = .ok after ↔
      isHeader header = true ∧ after = headers.put (lowerName header.1) header.2 := by
  unfold putHeader isHeader
  cases isHeaderName header.1 with
  | false => simp
  | true =>
    cases header.2.toList.all isValueChar with
    | false => simp
    | true => simp [eq_comm]

theorem foldlM_putHeader_eq_ok_iff {headers before built : Entries String} :
    headers.foldlM putHeader before = .ok built ↔
      (∀ header ∈ headers, isHeader header = true) ∧ built = before.overlay (lowered headers) := by
  induction headers generalizing before with
  | nil =>
    simp [lowered, Entries.overlay, pure, Except.pure]
    exact eq_comm
  | cons header rest ih =>
    rw [List.foldlM_cons, List.forall_mem_cons]
    cases hput : putHeader before header with
    | error e =>
      -- Nothing is built, since this header cannot be sent.
      have hbad : ¬ isHeader header = true := fun hgood => by
        rw [putHeader_eq_ok_iff.mpr ⟨hgood, rfl⟩] at hput
        cases hput
      simp [bind, Except.bind, hbad]
    | ok after =>
      obtain ⟨hgood, rfl⟩ := putHeader_eq_ok_iff.mp hput
      show List.foldlM putHeader _ rest = .ok built ↔ _
      rw [ih]
      simp [hgood, lowered, Entries.overlay]

/-- Headers are built if all of them can be sent, and then the last one of a name stays. -/
theorem buildHeaders_eq_ok_iff {headers built : Entries String} :
    buildHeaders headers = .ok built ↔
      (∀ header ∈ headers, isHeader header = true) ∧ built = (lowered headers).collapse :=
  foldlM_putHeader_eq_ok_iff

/-! ## Spellings -/

/-- Whether a text spells the name of a header, without regard to case. -/
def spells (name spelling : String) : Bool := lowerName spelling == lowerName name

/-- What stays of several spellings of a name is the value of the last one. -/
theorem find?_collapse_lowered {headers : Entries String} (h : headers.keys.Nodup) (name : String) :
    (lowered headers).collapse.find? (lowerName name) =
      (headers.keys.filter (spells name)).getLast?.bind headers.find? := by
  rw [Entries.find?_collapse]
  -- It is the last spelling that stays, so the induction takes headers off the end.
  induction headers using List.reverseRecOn with
  | nil => rfl
  | append_singleton headers header ih =>
    obtain ⟨spelling, value⟩ := header
    have hkeys : Entries.keys (headers ++ [(spelling, value)]) =
        Entries.keys headers ++ [spelling] := by
      simp [Entries.keys]
    rw [hkeys, List.nodup_append] at h
    obtain ⟨hheaders, -, hnew⟩ := h
    have hlowered : lowered (headers ++ [(spelling, value)]) =
        lowered headers ++ [(lowerName spelling, value)] := by
      simp [lowered]
    rw [hlowered, List.reverse_append, List.reverse_singleton, List.singleton_append,
      Entries.find?_cons, hkeys, List.filter_append]
    by_cases hspells : lowerName spelling = lowerName name
    · have hfresh : Entries.find? headers spelling = none :=
        Entries.find?_eq_none_iff.mpr fun hmem => hnew _ hmem _ (List.mem_singleton_self _) rfl
      simp [spells, hspells, Entries.find?_append, Entries.find?_cons, hfresh]
    · rw [if_neg hspells, ih hheaders]
      have hskip : [spelling].filter (spells name) = [] := by simp [spells, hspells]
      rw [hskip, List.append_nil]
      -- Whatever spelling stays is another one than the last.
      cases hlast : ((Entries.keys headers).filter (spells name)).getLast? with
      | none => rfl
      | some other =>
        have hother : spells name other = true :=
          (List.mem_filter.mp (List.mem_of_getLast? hlast)).2
        have hne : spelling ≠ other := by
          rintro rfl
          exact hspells (by simpa [spells] using hother)
        simp [Entries.find?_append, Entries.find?_cons, hne]

end Http

namespace RequestOptions

open Http (lowerName spells isHeaderName)

/-- All spellings of a name, in the order in which the layers brought them. -/
def spellings (layers : List RequestOptions) (name : String) : List String :=
  (layers.flatMap fun layer => layer.headers.keys).eraseDups.filter (spells name)

/-- The spelling of a name that was brought last. -/
def newestSpelling (layers : List RequestOptions) (name : String) : Option String :=
  (spellings layers name).getLast?

/-- The value that the last layer with this very spelling gives. -/
def lastValue (layers : List RequestOptions) (spelling : String) : Option String :=
  layers.reverse.findSome? fun layer => layer.headers.find? spelling

/-- The spelling of a name in the last layer that declares it. -/
def lastSpelling (layers : List RequestOptions) (name : String) : Option String :=
  layers.reverse.findSome? fun layer => layer.headers.keys.find? (spells name)

/-- The value of a header in one layer, whatever its spelling. -/
def declared? (layer : RequestOptions) (name : String) : Option String :=
  (layer.headers.keys.find? (spells name)).bind layer.headers.find?

/-- The value that the last layer gives that declares a header. -/
def mostSpecific (layers : List RequestOptions) (name : String) : Option String :=
  layers.reverse.findSome? fun layer => layer.declared? name

/-- Nothing is spelled in two ways that can be sent. -/
structure DeclaresOnce (layer : RequestOptions) : Prop where
  nodup : layer.headers.keys.Nodup
  eq_of_spells : ∀ {name spelling other : String}, spelling ∈ layer.headers.keys →
    other ∈ layer.headers.keys → isHeaderName spelling → isHeaderName other →
    spells name spelling → spells name other → spelling = other

/-- What the last layer says is said in its own spelling. -/
theorem mostSpecific_eq_bind_lastSpelling (layers : List RequestOptions) (name : String) :
    mostSpecific layers name = (lastSpelling layers name).bind (lastValue layers) := by
  unfold mostSpecific lastSpelling lastValue
  -- The induction goes from the top layer down.
  induction layers.reverse with
  | nil => rfl
  | cons top below ih =>
    rw [List.findSome?_cons, List.findSome?_cons]
    cases hspelling : top.headers.keys.find? (spells name) with
    | some spelling =>
      have hmem := List.mem_of_find?_eq_some hspelling
      obtain ⟨value, hvalue⟩ := Entries.exists_find?_of_mem_keys hmem
      simp [declared?, hspelling, hvalue]
    | none =>
      have habsent := List.find?_eq_none.mp hspelling
      simp only [declared?, hspelling, Option.bind_none]
      refine ih.trans (Option.bind_congr fun spelling hfound => ?_)
      -- A spelling from below is none of the top layer.
      obtain ⟨layer, -, hlayer⟩ := List.exists_of_findSome?_eq_some hfound
      have hnot : spelling ∉ top.headers.keys := fun hmem =>
        habsent spelling hmem (List.find?_some hlayer)
      rw [List.findSome?_cons, Entries.find?_eq_none_iff.mpr hnot]

section Once

variable {layers : List RequestOptions} {name : String}

/-- A layer of its own has at most one spelling of a name. -/
theorem DeclaresOnce.filter_keys {layer : RequestOptions} (h : layer.DeclaresOnce)
    (hvalid : ∀ spelling ∈ layer.headers.keys, isHeaderName spelling = true) :
    layer.headers.keys.filter (spells name) = (layer.headers.keys.find? (spells name)).toList := by
  have hnodup : (layer.headers.keys.filter (spells name)).Nodup := h.nodup.filter _
  have hsame : ∀ spelling ∈ layer.headers.keys.filter (spells name),
      ∀ other ∈ layer.headers.keys.filter (spells name), spelling = other := by
    intro spelling hspelling other hother
    obtain ⟨hmem, hspells⟩ := List.mem_filter.mp hspelling
    obtain ⟨hmem', hspells'⟩ := List.mem_filter.mp hother
    exact h.eq_of_spells hmem hmem' (hvalid _ hmem) (hvalid _ hmem') hspells hspells'
  rw [← List.head?_filter]
  match hfilter : layer.headers.keys.filter (spells name) with
  | [] => rfl
  | [spelling] => rfl
  | first :: second :: rest =>
    rw [hfilter] at hnodup hsame
    have heq : first = second := hsame first (by simp) second (by simp)
    simp [heq] at hnodup

/-- The spellings of a name, if every layer has at most one: those of the layers one after the other,
without repetition. -/
theorem spellings_eq (h : ∀ layer ∈ layers, layer.DeclaresOnce)
    (hvalid : ∀ layer ∈ layers, ∀ spelling ∈ layer.headers.keys, isHeaderName spelling = true) :
    spellings layers name =
      (layers.filterMap fun layer => layer.headers.keys.find? (spells name)).eraseDups := by
  have hlayer : ∀ layer ∈ layers, layer.headers.keys.filter (spells name) =
      (layer.headers.keys.find? (spells name)).toList := fun layer hmem =>
    (h layer hmem).filter_keys (hvalid layer hmem)
  unfold spellings
  rw [filter_eraseDups, List.filter_flatMap, List.filterMap_eq_flatMap_toList,
    List.flatMap_congr hlayer]

/-- Two layers leave no room for a spelling that is newer than that of the last layer. -/
theorem newestSpelling_of_length_le_two (hlength : layers.length ≤ 2)
    (h : ∀ layer ∈ layers, layer.DeclaresOnce)
    (hvalid : ∀ layer ∈ layers, ∀ spelling ∈ layer.headers.keys, isHeaderName spelling = true) :
    newestSpelling layers name = lastSpelling layers name := by
  unfold newestSpelling lastSpelling
  rw [spellings_eq h hvalid]
  -- Where both layers spell the name alike, the top one has no newer place, but neither another
  -- spelling.
  match layers, hlength with
  | [], _ => rfl
  | [only], _ =>
    cases honly : only.headers.keys.find? (spells name) <;> simp [List.eraseDups_cons, honly]
  | [base, top], _ =>
    cases htop : top.headers.keys.find? (spells name) with
    | none =>
      cases hbase : base.headers.keys.find? (spells name) <;>
        simp [List.eraseDups_cons, hbase, htop]
    | some spelling =>
      cases hbase : base.headers.keys.find? (spells name) with
      | none => simp [List.eraseDups_cons, hbase, htop]
      | some other =>
        by_cases heq : spelling = other <;> simp [List.eraseDups_cons, hbase, htop, heq]

end Once

end RequestOptions

namespace Http

open RequestOptions

/-! ## The value of a header -/

/-- The value of a header is what the last layer with the newest spelling of its name says.  This is
what the last layer says that declares the header, if its spelling is the newest one, and so for two
layers. -/
theorem find?_buildHeaders_layered {layers : List RequestOptions}
    (h : ∀ layer ∈ layers, layer.DeclaresOnce)
    (hvalid : ∀ header ∈ (layered layers).headers, isHeader header = true) :
    ∃ built, buildHeaders (layered layers).headers = .ok built ∧ ∀ name,
      built.find? (lowerName name) = (newestSpelling layers name).bind (lastValue layers) ∧
      (newestSpelling layers name = lastSpelling layers name ∨ layers.length ≤ 2 →
        built.find? (lowerName name) = mostSpecific layers name) := by
  have hnodup : ∀ layer ∈ layers, layer.headers.keys.Nodup := fun layer hmem => (h layer hmem).nodup
  have hnames : ∀ layer ∈ layers, ∀ spelling ∈ layer.headers.keys,
      isHeaderName spelling = true := by
    intro layer hlayer spelling hspelling
    have hmem : spelling ∈ (layered layers).headers.keys := by
      rw [keys_layered hnodup, List.mem_eraseDups]
      exact List.mem_flatMap.mpr ⟨layer, hlayer, hspelling⟩
    obtain ⟨value, hvalue⟩ := Entries.exists_find?_of_mem_keys hmem
    have hheader := hvalid _ (Entries.mem_of_find? hvalue)
    exact (Bool.and_eq_true_iff.mp hheader).1
  refine ⟨_, buildHeaders_eq_ok_iff.mpr ⟨hvalid, rfl⟩, fun name => ?_⟩
  have hvalue : (lowered (layered layers).headers).collapse.find? (lowerName name) =
      (newestSpelling layers name).bind (lastValue layers) := by
    rw [find?_collapse_lowered (nodup_keys_layered hnodup), keys_layered hnodup]
    exact Option.bind_congr fun spelling _ => find?_layered hnodup spelling
  refine ⟨hvalue, fun hnewest => ?_⟩
  have heq : newestSpelling layers name = lastSpelling layers name := by
    rcases hnewest with heq | hlength
    · exact heq
    · exact newestSpelling_of_length_le_two hlength h hnames
  rw [hvalue, heq, mostSpecific_eq_bind_lastSpelling]

/-- Options with one header. -/
def oneHeader (name value : String) : RequestOptions :=
  { RequestOptions.empty with headers := [(name, value)] }

theorem declaresOnce_oneHeader (name value : String) : (oneHeader name value).DeclaresOnce where
  nodup := List.nodup_singleton name
  eq_of_spells hspelling hother _ _ _ _ :=
    (List.mem_singleton.mp hspelling).trans (List.mem_singleton.mp hother).symm

/-- Two layers that spell the name of a header in different ways. -/
def respelled : List RequestOptions := [oneHeader "X-Foo" "1", oneHeader "x-foo" "2"]

theorem find?_buildHeaders_respelled :
    (∀ layer ∈ respelled, layer.DeclaresOnce) ∧
    (∀ header ∈ (layered respelled).headers, isHeader header = true) ∧
    ∃ built, buildHeaders (layered respelled).headers = .ok built ∧
      built.find? (lowerName "X-FOO") = mostSpecific respelled "X-FOO" ∧
      mostSpecific respelled "X-FOO" = some "2" := by
  have honce : ∀ layer ∈ respelled, layer.DeclaresOnce := by
    simp [respelled, declaresOnce_oneHeader]
  have hvalid : ∀ header ∈ (layered respelled).headers, isHeader header = true := by decide +kernel
  obtain ⟨built, hbuilt, hvalues⟩ := find?_buildHeaders_layered honce hvalid
  obtain ⟨-, hspecific⟩ := hvalues "X-FOO"
  have hlength : respelled.length ≤ 2 := Nat.le_refl 2
  exact ⟨honce, hvalid, built, hbuilt, hspecific (.inr hlength), by decide +kernel⟩

/-- A third layer in the spelling of the first one writes its value in place, where it is hidden by
that of the second one. -/
theorem buildHeaders_respelled_back :
    (∀ layer ∈ respelled ++ [oneHeader "X-Foo" "3"], layer.DeclaresOnce) ∧
    mostSpecific (respelled ++ [oneHeader "X-Foo" "3"]) "X-Foo" = some "3" ∧
    buildHeaders (layered (respelled ++ [oneHeader "X-Foo" "3"])).headers =
      .ok [("x-foo", "2")] := by
  refine ⟨?_, by decide +kernel, by decide +kernel⟩
  simp [respelled, declaresOnce_oneHeader]

end Http

end ApiToolkit
