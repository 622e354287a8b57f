import ApiToolkit.Proofs.Http.QueryParameters
/-!
# Query parameters without values

Null and the empty array ask for no pair.  Beside other parameters they leave nothing in the URL.  If
there are no other ones, they still open the query: a URL without a query gets an empty one, and so a
question mark.

## What is inside

- `Http.isAbsent`, `RequestOptions.withoutAbsent`, `RequestOptions.OnlyAbsent`: parameters without
  values.
- `Url.openQuery`, `Url.text_openQuery_eq_iff`: what opening a query does to the text.
- `Http.withParameters_eq_withoutAbsent`: what is left of absent parameters.
- `Http.text_buildUrl_withoutAbsent`: when a request shows that there were absent parameters.
-/

namespace ApiToolkit

/-! ## Opening a query -/

namespace Url

/-- A URL with its query, or with an empty one. -/
def openQuery (url : Url) : Url := { url with query := some (url.query.getD []) }

theorem withPairs_nil (url : Url) : url.withPairs [] = url.openQuery := rfl

theorem openQuery_of_query {url : Url} {query : List Char} (h : url.query = some query) :
    url.openQuery = url := by
  rw [openQuery, h, Option.getD_some, ← h]

/-- Opening a query cannot be seen where there was one.  Where there was none, a question mark is
added. -/
theorem text_openQuery_eq_iff {url : Url} : url.openQuery.text = url.text ↔ url.query ≠ none := by
  constructor
  · intro htext hnone
    have hchars : url.openQuery.chars = url.chars := String.ofList_injective htext
    have hlength : url.openQuery.chars.length = url.chars.length + 1 := by
      simp [chars, front, openQuery, hnone]
      omega
    rw [hchars] at hlength
    exact Nat.succ_ne_self _ hlength.symm
  · intro hsome
    obtain ⟨query, hquery⟩ := Option.ne_none_iff_exists'.mp hsome
    rw [openQuery_of_query hquery]

end Url

/-! ## Absent parameters -/

namespace Http

/-- Whether a query parameter has no value: it is null or an empty array. -/
def isAbsent : Json → Bool
  | .null | .arr [] => true
  | _ => false

/-- A parameter without a value has no pairs, and any other one has some. -/
theorem parameterPairs_eq_nil_iff {name : String} {value : Json} :
    parameterPairs name value = [] ↔ isAbsent value = true := by
  rw [parameterPairs_eq, List.map_eq_nil_iff]
  cases value with
  | arr items => cases items <;> simp [askedValues, isAbsent]
  | _ => simp [askedValues, isAbsent]

end Http

namespace RequestOptions

open Http (isAbsent)

/-- Options without the query parameters that have no value. -/
def withoutAbsent (o : RequestOptions) : RequestOptions :=
  { o with query := o.query.filter fun parameter => !isAbsent parameter.2 }

/-- Whether there are query parameters, but none with a value. -/
def OnlyAbsent (o : RequestOptions) : Prop :=
  o.query ≠ [] ∧ ∀ parameter ∈ o.query, isAbsent parameter.2 = true

instance (o : RequestOptions) : Decidable o.OnlyAbsent := inferInstanceAs (Decidable (_ ∧ _))

theorem query_withoutAbsent_eq_nil_iff {o : RequestOptions} :
    o.withoutAbsent.query = [] ↔ ∀ parameter ∈ o.query, isAbsent parameter.2 = true := by
  simp [withoutAbsent]

end RequestOptions

namespace Http

/-! ## What absent parameters leave -/

section Leave

variable (o : RequestOptions)

theorem pairs_withoutAbsent :
    o.withoutAbsent.query.flatMap (fun p => parameterPairs p.1 p.2) =
      o.query.flatMap fun p => parameterPairs p.1 p.2 := by
  unfold RequestOptions.withoutAbsent
  induction o.query with
  | nil => rfl
  | cons parameter rest ih =>
    rw [List.filter_cons, List.flatMap_cons]
    cases habsent : isAbsent parameter.2 with
    | true =>
      rw [parameterPairs_eq_nil_iff.mpr habsent]
      simpa using ih
    | false => simpa using ih

/-- Absent parameters leave nothing, unless there are no others: then they open the query. -/
theorem withParameters_eq_withoutAbsent (url : Url) :
    withParameters o url =
      if o.OnlyAbsent then (withParameters o.withoutAbsent url).openQuery
      else withParameters o.withoutAbsent url := by
  unfold withParameters
  rw [pairs_withoutAbsent]
  -- The two sides differ in whether the list of parameters is empty, not in the pairs.
  by_cases hnone : o.query = []
  · have hrest : o.withoutAbsent.query = [] := by simp [RequestOptions.withoutAbsent, hnone]
    have hnot : ¬ o.OnlyAbsent := fun h => h.1 hnone
    simp [hnone, hrest, hnot]
  · by_cases hall : o.withoutAbsent.query = []
    · have honly : o.OnlyAbsent :=
        ⟨hnone, RequestOptions.query_withoutAbsent_eq_nil_iff.mp hall⟩
      have hpairs : (o.query.flatMap fun p => parameterPairs p.1 p.2) = [] := by
        rw [← pairs_withoutAbsent, hall, List.flatMap_nil]
      rw [hpairs, Url.withPairs_nil]
      simp [hnone, hall, honly]
    · have hnot : ¬ o.OnlyAbsent := fun h =>
        hall (RequestOptions.query_withoutAbsent_eq_nil_iff.mpr h.2)
      simp [hnone, hall, hnot]

end Leave

/-- The URL of a request, from the one without absent parameters; an error is the same. -/
theorem buildUrl_eq_map_withoutAbsent [Url.DomainToAscii] (target : String) (o : RequestOptions) :
    buildUrl target o =
      (buildUrl target o.withoutAbsent).map fun url =>
        if o.OnlyAbsent then url.openQuery else url := by
  have hbase : o.withoutAbsent.baseUrl = o.baseUrl := rfl
  unfold buildUrl
  simp only [hbase]
  -- The text that is read does not depend on the parameters.
  cases Url.parse (joinedTarget target o.baseUrl).toList with
  | error fault => rfl
  | ok read =>
    have hparameters := withParameters_eq_withoutAbsent o read
    unfold withParameters at hparameters
    simp only [hparameters, Except.map]

/-- **When absent parameters leave a trace**: with and without them the request fails alike or goes
to the same URL, except that parameters none of which has a value give an empty query to a URL that
has none.  That is the only case in which the text of the URL differs. -/
theorem text_buildUrl_withoutAbsent [Url.DomainToAscii] (target : String) (o : RequestOptions) :
    (buildUrl target o =
      (buildUrl target o.withoutAbsent).map fun url =>
        if o.OnlyAbsent then url.openQuery else url) ∧
    ((buildUrl target o).map Url.text = (buildUrl target o.withoutAbsent).map Url.text ↔
      ¬ (o.OnlyAbsent ∧
        ∃ url, buildUrl target o.withoutAbsent = .ok url ∧ url.query = none)) := by
  have hmap := buildUrl_eq_map_withoutAbsent target o
  refine ⟨hmap, ?_⟩
  rw [hmap]
  cases buildUrl target o.withoutAbsent with
  | error e => simp [Except.map]
  | ok url =>
    by_cases honly : o.OnlyAbsent
    · simp [Except.map, honly, Url.text_openQuery_eq_iff]
    · simp [Except.map, honly]

/-- A parameter that is null, as a caller passes a filter that is not set. -/
def unsetFilter : RequestOptions :=
  { RequestOptions.empty with baseUrl := some "http://host", query := [("skip", .null)] }

/-- The only parameter is null, and the URL ends in a question mark. -/
theorem text_buildUrl_unsetFilter :
    (buildUrl "/pets" unsetFilter).map Url.text = .ok "http://host/pets?" ∧
    (buildUrl "/pets" unsetFilter.withoutAbsent).map Url.text = .ok "http://host/pets" := by
  decide +kernel

end Http

end ApiToolkit
