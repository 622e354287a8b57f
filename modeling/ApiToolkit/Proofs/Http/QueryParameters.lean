import ApiToolkit.Proofs.Http.Origin
import ApiToolkit.Proofs.Url.Query
/-!
# Query parameters reach the server

The query parameters of options are written behind the query that the target brings along.  The
server reads the pairs of the target and then one pair for each value that is asked for.

## What is inside

- `Http.askedValues`, `Http.askedPairs`: what query parameters ask for.
- `Http.pairs_withParameters`: the pairs of a URL with query parameters.
- `Http.pairs_of_buildUrl`: the pairs of a request.
-/

namespace ApiToolkit.Http

/-! ## What is asked for -/

/-- The values that one parameter asks for: the elements of an array, and otherwise the value itself
unless it is null. -/
def askedValues : Json → List Json
  | .null => []
  | .arr items => items
  | value => [value]

/-- The pairs that parameters ask for, in their order. -/
def askedPairs (parameters : Entries Json) : List (List Char × List Char) :=
  parameters.flatMap fun parameter =>
    (askedValues parameter.2).map fun value => (parameter.1.toList, Path.parameterText value)

theorem parameterPairs_eq (name : String) (value : Json) :
    parameterPairs name value =
      (askedValues value).map fun item => (name.toList, Path.parameterText item) := by
  cases value <;> rfl

/-! ## The URL of a request -/

theorem withParameters_fragment (o : RequestOptions) (url : Url) :
    (withParameters o url).fragment = url.fragment := by
  unfold withParameters
  split <;> rfl

theorem pairs_withParameters (o : RequestOptions) (url : Url) :
    Url.pairs ((withParameters o url).query.getD []) =
      Url.pairs (url.query.getD []) ++ askedPairs o.query := by
  unfold withParameters
  split
  next hempty => rw [List.isEmpty_iff.mp hempty, askedPairs, List.flatMap_nil, List.append_nil]
  next =>
    rw [Url.pairs_withPairs, askedPairs]
    simp only [parameterPairs_eq]

/-- **The server reads what was asked for**: the pairs of the joined target and then those of the
query parameters.  All else is as in the joined target. -/
theorem pairs_of_buildUrl [Url.DomainToAscii] {target : String} {o : RequestOptions} {url : Url}
    (h : buildUrl target o = .ok url) :
    ∃ read, Url.parse (joinedTarget target o.baseUrl).toList = .ok read ∧
      Url.pairs (url.query.getD []) = Url.pairs (read.query.getD []) ++ askedPairs o.query ∧
      url.scheme = read.scheme ∧ url.authority = read.authority ∧ url.path = read.path ∧
      url.fragment = read.fragment := by
  obtain ⟨read, hread, rfl⟩ := buildUrl_eq_ok_iff.mp h
  exact ⟨read, hread, pairs_withParameters o read, withParameters_scheme o read,
    withParameters_authority o read, withParameters_path o read, withParameters_fragment o read⟩

/-- Parameters with separators, a plus sign, an empty name, null and an array. -/
def awkwardOptions : RequestOptions :=
  { RequestOptions.empty with
    baseUrl := some "http://host/v1",
    query := [("a&b=", .arr [.str "1+1 %", .null, .str "é"]), ("c", .null), ("", .bool true)] }

/-- What is read from a target with a query that ends in a separator, and a fragment. -/
def awkwardTarget : Url where
  scheme := "http".toList
  authority := some ⟨[], none, .name "host".toList, none⟩
  path := "/v1/x".toList
  query := some "q=%26&".toList
  fragment := some "f?&".toList

/-- The target with the parameters behind its own query. -/
def awkwardUrl : Url :=
  { awkwardTarget with
    query := some "q=%26&&a%26b%3D=1%2B1+%25&a%26b%3D=null&a%26b%3D=%C3%A9&=true".toList }

theorem pairs_of_awkwardUrl :
    buildUrl "x?q=%26&#f?&" awkwardOptions = .ok awkwardUrl ∧
    Url.pairs (awkwardUrl.query.getD []) =
      [("q".toList, "&".toList), ("a&b=".toList, "1+1 %".toList), ("a&b=".toList, "null".toList),
        ("a&b=".toList, "é".toList), ([], "true".toList)] ∧
    awkwardUrl.fragment = awkwardTarget.fragment := by
  have hbuild : buildUrl "x?q=%26&#f?&" awkwardOptions = .ok awkwardUrl := by decide +kernel
  have htarget : Url.parse (joinedTarget "x?q=%26&#f?&" awkwardOptions.baseUrl).toList =
      .ok awkwardTarget := by
    decide +kernel
  have hown : Url.pairs (awkwardTarget.query.getD []) = [("q".toList, "&".toList)] := by
    decide +kernel
  obtain ⟨read, hread, hpairs, -, -, -, hfragment⟩ := pairs_of_buildUrl hbuild
  rw [htarget] at hread
  cases hread
  rw [hown] at hpairs
  exact ⟨hbuild, hpairs.trans (by decide +kernel), hfragment⟩

end ApiToolkit.Http
