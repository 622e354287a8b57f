import ApiToolkit.Proofs.Http.Origin
import ApiToolkit.Proofs.Path.Component
import ApiToolkit.Proofs.Path.Substitution
import ApiToolkit.Proofs.Url.Path
import Mathlib.Data.List.Forall2
/-!
# Parameters reach the server as segments

A path template is resolved, joined to the base address and read as a URL.  Every piece of the
template comes out as one segment, and the segment of a parameter stands for the assigned string.
Dots are not escaped, so the strings `.` and `..` are the exceptions.

## What is inside

- `Path.Word`, `Path.Piece`, `Path.template`: templates, piece by piece.
- `Path.Piece.Matches`: what a segment has to be.
- `Path.plainSegment_encodeComponent`: components are read as they are written.
- `Http.segments_of_buildUrl`: the segments of the request.
- `Http.segments_of_dots`: the requests that dot segments lead elsewhere.
-/

namespace ApiToolkit

namespace Path

/-! ## Templates -/

/-- A text of ASCII letters and digits. -/
structure Word where
  /-- The text. -/
  text : List Char
  /-- There is something in it. -/
  nonempty : text ≠ []
  /-- There is nothing else in it. -/
  plain : text.all Letter.isAsciiAlphanumeric = true

/-- A segment of a template. -/
inductive Piece where
  /-- A segment that is kept. -/
  | literal (word : Word)
  /-- The name of a parameter in braces. -/
  | parameter (name : List Char) (flat : BraceFree name)

/-- How a piece stands in the template. -/
def Piece.text : Piece → List Char
  | .literal word => word.text
  | .parameter name _ => placeholder name

/-- The template with these pieces. -/
def template (pieces : List Piece) : List Char := pieces.flatMap ('/' :: ·.text)

/-- Whether a segment is what a piece asks for: the literal itself, or an escaped form of the string
under the name. -/
def Piece.Matches (parameters : Entries Json) : Piece → List Char → Prop
  | .literal word, segment => segment = word.text
  | .parameter name _, segment => ∃ value,
    parameters.find? (String.ofList name) = some (.str value) ∧
      Utf8.decode? (Percent.decode segment) = some value

/-! ## Resolved templates -/

/-- What is written for a piece. -/
def Piece.written (parameters : Entries Json) : Piece → List Char
  | .literal word => word.text
  | .parameter name _ => Path.written parameters name

theorem Word.isAsciiAlphanumeric (word : Word) {c : Char} (h : c ∈ word.text) :
    Letter.isAsciiAlphanumeric c = true := List.all_eq_true.mp word.plain c h

theorem Word.braceFree (word : Word) : BraceFree word.text := by
  constructor
  · exact fun h => absurd (word.isAsciiAlphanumeric h) (by decide)
  · exact fun h => absurd (word.isAsciiAlphanumeric h) (by decide)

theorem unnested_template (pieces : List Piece) : Unnested (template pieces) := by
  rw [unnested_iff]
  induction pieces with
  | nil => rfl
  | cons piece pieces ih =>
    rw [template, List.flatMap_cons, List.cons_append, isUnnested_char (by decide) (by decide)]
    cases piece with
    | literal word => exact (isUnnested_append_of_braceFree word.braceFree _ _).trans ih
    | parameter name flat => exact (isUnnested_placeholder flat _ _).trans ih

/-- A template is resolved piece by piece. -/
theorem resolve_template (pieces : List Piece) {parameters : Entries Json}
    (hkeys : ∀ name ∈ parameters.keys, BraceFree name.toList) :
    resolve (template pieces) parameters =
      (pieces.map (Piece.written parameters)).flatMap ('/' :: ·) := by
  rw [resolve_eq_atOnce (unnested_template pieces) hkeys]
  induction pieces with
  | nil => exact resolveAtOnce_nil _
  | cons piece pieces ih =>
    rw [template, List.flatMap_cons, List.cons_append, resolveAtOnce_cons _ (by decide),
      List.map_cons, List.flatMap_cons, ← ih, List.cons_append]
    cases piece with
    | literal word =>
      exact congrArg _ (resolveAtOnce_append_of_braceFree _ word.braceFree (template pieces))
    | parameter name flat =>
      exact congrArg _ (resolveAtOnce_placeholder _ flat (template pieces))

/-! ## Components as segments -/

theorem kept_of_isUnreserved {c : Char} (hascii : c.toNat < 0x80)
    (h : isUnreserved c = true ∨ c = '%') :
    Url.keptInPath c = true ∧ Url.isSlash true c = false :=
  Letter.forall_of_toNat_lt (p := fun c => (isUnreserved c = true ∨ c = '%') →
    Url.keptInPath c = true ∧ Url.isSlash true c = false) (by decide +kernel) hascii h

/-- Components are read as they are written, but for the two that stand for directories. -/
theorem plainSegment_encodeComponent {text : List Char} (hsingle : text ≠ ['.'])
    (hdouble : text ≠ ['.', '.']) : Url.PlainSegment (encodeComponent text) where
  kept := by
    intro c hc
    obtain ⟨hascii, hkept⟩ := isUnreserved_of_mem_encodeComponent hc
    exact ⟨hascii, (kept_of_isUnreserved hascii hkept).1⟩
  whole := by
    intro c hc
    obtain ⟨hascii, hkept⟩ := isUnreserved_of_mem_encodeComponent hc
    exact (kept_of_isUnreserved hascii hkept).2
  noDots := by
    -- The escaped form of another text would stand for the same octets as the dots.
    constructor
    · by_contra hdot
      rw [Bool.not_eq_false] at hdot
      have hdecode := Url.decode_of_isSingleDot hdot
      rw [decode_encodeComponent] at hdecode
      exact hsingle (Utf8.encodeChars_inj hdecode)
    · by_contra hdots
      rw [Bool.not_eq_false] at hdots
      have hdecode := Url.decode_of_isDoubleDot hdots
      rw [decode_encodeComponent] at hdecode
      exact hdouble (Utf8.encodeChars_inj hdecode)

theorem encodeComponent_ne_nil {text : List Char} (h : text ≠ []) : encodeComponent text ≠ [] := by
  intro hnil
  have hdecode := decode_encodeComponent text
  rw [hnil] at hdecode
  exact h (Utf8.encodeChars_inj hdecode.symm)

/-- A word is its own component. -/
theorem Word.encodeComponent_text (word : Word) : encodeComponent word.text = word.text := by
  refine Percent.encode_of_forall fun c hc => ?_
  have hplain := word.isAsciiAlphanumeric hc
  exact ⟨Nat.lt_of_le_of_lt (Letter.bounds_of_isAsciiAlphanumeric hplain).2 (by decide),
    by rw [isUnreserved, hplain, Bool.true_or]⟩

theorem Word.plainSegment (word : Word) : Url.PlainSegment word.text := by
  rw [← word.encodeComponent_text]
  apply plainSegment_encodeComponent
  · intro hdot
    exact absurd (word.isAsciiAlphanumeric (hdot ▸ List.mem_cons_self)) (by decide)
  · intro hdots
    exact absurd (word.isAsciiAlphanumeric (hdots ▸ List.mem_cons_self)) (by decide)

/-- Whether a piece is a literal or the name of a string that is neither empty nor dots. -/
def Piece.IsAssigned (parameters : Entries Json) : Piece → Prop
  | .literal _ => True
  | .parameter name _ => ∃ value, parameters.find? (String.ofList name) = some (.str value) ∧
    value ≠ "" ∧ value ≠ "." ∧ value ≠ ".."

theorem Piece.written_spec {parameters : Entries Json} {piece : Piece}
    (h : piece.IsAssigned parameters) :
    Url.PlainSegment (piece.written parameters) ∧ piece.written parameters ≠ [] ∧
      piece.Matches parameters (piece.written parameters) := by
  cases piece with
  | literal word => exact ⟨word.plainSegment, word.nonempty, rfl⟩
  | parameter name flat =>
    obtain ⟨value, hfind, hempty, hdot, hdots⟩ := h
    have hwritten : Piece.written parameters (.parameter name flat) =
        encodeComponent value.toList := by
      simp only [Piece.written, Path.written, hfind, parameterText]
    have hne : ∀ other : String, value ≠ other → value.toList ≠ other.toList :=
      fun other hother heq => hother (String.toList_inj.mp heq)
    rw [hwritten]
    refine ⟨plainSegment_encodeComponent (hne "." hdot) (hne ".." hdots),
      encodeComponent_ne_nil (hne "" hempty), value, hfind, ?_⟩
    rw [decode_encodeComponent, Utf8.decode?_encodeChars, String.ofList_toList]

end Path

namespace Http

open ApiToolkit.Path

/-! ## Requests -/

/-- The address of a host, and of a directory below it. -/
def baseText (host : List Char) (directories : List Word) : List Char :=
  "http://".toList ++ (host ++ directories.flatMap ('/' :: ·.text))

theorem getLast?_baseText {host : List Char} (hhost : Url.IsSite host) (hne : host ≠ [])
    (directories : List Word) : (baseText host directories).getLast? ≠ some '/' := by
  cases directories using List.reverseRecOn with
  | nil =>
    have htext : baseText host [] = "http://".toList ++ host := by
      unfold baseText
      rw [List.flatMap_nil, List.append_nil]
    rw [htext, List.getLast?_append_of_ne_nil _ hne]
    intro hlast
    exact absurd (hhost '/' (List.mem_of_getLast? hlast)).1 (by decide)
  | append_singleton front word =>
    have htext : baseText host (front ++ [word]) =
        "http://".toList ++ (host ++ (front.flatMap ('/' :: ·.text) ++ ['/'])) ++ word.text := by
      unfold baseText
      generalize "http://".toList = start
      rw [List.flatMap_append, List.flatMap_singleton]
      simp only [List.append_assoc, List.singleton_append]
    rw [htext, List.getLast?_append_of_ne_nil _ word.nonempty]
    intro hlast
    exact absurd (word.isAsciiAlphanumeric (List.mem_of_getLast? hlast)) (by decide)

theorem parse_slash [Url.DomainToAscii] (rest : List Char) : Url.parse
    ('/' :: rest) = .error .noScheme := by
  have hclean := Url.cleaned_append_slash [] rest
  rw [List.nil_append] at hclean
  rw [Url.parse_eq, hclean]
  rfl

/-- A path is joined to a base that does not end in a slash without a change. -/
theorem joinedTarget_path [Url.DomainToAscii] {base more : List Char} {o : RequestOptions}
    (hbase : o.baseUrl = some (String.ofList base)) (hhttp : ∃ rest, base = 'h' :: rest)
    (hlast : base.getLast? ≠ some '/') (hmore : more ≠ []) :
    joinedTarget (String.ofList ('/' :: more)) o.baseUrl =
      String.ofList (base ++ '/' :: more) := by
  obtain ⟨rest, rfl⟩ := hhttp
  have htarget : Url.parse (String.ofList ('/' :: more)).toList = .error .noScheme := by
    rw [String.toList_ofList, parse_slash]
  have hlead : Path.stripLead ('/' :: more) = more := by
    cases more <;> rfl
  have hjoin : Path.joinSegment ('h' :: rest) ('/' :: more) = 'h' :: rest ++ '/' :: more := by
    simp [Path.joinSegment, hlast, hmore, hlead]
  rw [joinedTarget_relative hbase htarget, String.toList_ofList, String.toList_ofList, hjoin]
  -- The base begins with a letter, so no path begins with the base.
  rfl

/-- A path of plain segments is appended to the base. -/
theorem segments_of_path [Url.DomainToAscii] {host : List Char} (hhost : Url.IsSite host)
    {site : Url}
    (hsite : Url.parse ("http://".toList ++ host) = .ok site) {directories : List Word}
    {o : RequestOptions} (hbase : o.baseUrl = some (String.ofList (baseText host directories)))
    {first : List Char} (hfirst : first ≠ []) {rest : List (List Char)}
    (hplain : ∀ segment ∈ first :: rest, Url.PlainSegment segment) :
    ∃ url, buildUrl (String.ofList ((first :: rest).flatMap ('/' :: ·))) o = .ok url ∧
      url.scheme = site.scheme ∧ url.authority = site.authority ∧
      url.segments = directories.map (·.text) ++ first :: rest := by
  have hne : host ≠ [] := Url.site_ne_nil hhost hsite
  have hall : ∀ segment ∈ directories.map (·.text) ++ first :: rest,
      Url.PlainSegment segment := by
    intro segment hsegment
    rcases List.mem_append.mp hsegment with hsegment | hsegment
    · obtain ⟨word, -, rfl⟩ := List.mem_map.mp hsegment
      exact word.plainSegment
    · exact hplain segment hsegment
  obtain ⟨read, hparse, hscheme, hauthority, hsegments⟩ :=
    Url.segments_of_append hhost hsite (by simp) hall
  have hmore : first ++ rest.flatMap ('/' :: ·) ≠ [] := by
    simpa using fun h => absurd h hfirst
  have hjoined : baseText host directories ++ '/' :: (first ++ rest.flatMap ('/' :: ·)) =
      "http://".toList ++
        (host ++ (directories.map (·.text) ++ first :: rest).flatMap ('/' :: ·)) := by
    unfold baseText
    generalize "http://".toList = start
    rw [List.flatMap_append, List.flatMap_map]
    simp only [List.append_assoc, List.flatMap_cons, List.cons_append]
  have htarget : joinedTarget (String.ofList ((first :: rest).flatMap ('/' :: ·))) o.baseUrl =
      String.ofList ("http://".toList ++
        (host ++ (directories.map (·.text) ++ first :: rest).flatMap ('/' :: ·))) := by
    rw [← hjoined]
    exact joinedTarget_path hbase ⟨_, rfl⟩ (getLast?_baseText hhost hne directories) hmore
  have hread : Url.parse (joinedTarget (String.ofList ((first :: rest).flatMap ('/' :: ·)))
      o.baseUrl).toList = .ok read := by
    rw [htarget, String.toList_ofList]
    exact hparse
  refine ⟨withParameters o read, buildUrl_eq_ok_iff.mpr ⟨read, hread, rfl⟩, ?_, ?_, ?_⟩
  · rw [withParameters_scheme, hscheme]
  · rw [withParameters_authority, hauthority]
  · rw [Url.segments, withParameters_path]
    exact hsegments

/-- **Path parameters**: the segments of a request are those of the base address and one for each
piece of the template. -/
theorem segments_of_buildUrl [Url.DomainToAscii] {host : List Char} (hhost : Url.IsSite host)
    {site : Url}
    (hsite : Url.parse ("http://".toList ++ host) = .ok site) {directories : List Word}
    {o : RequestOptions} (hbase : o.baseUrl = some (String.ofList (baseText host directories)))
    {pieces : List Piece} (hpieces : pieces ≠ []) {parameters : Entries Json}
    (hkeys : ∀ name ∈ parameters.keys, BraceFree name.toList)
    (hassigned : ∀ piece ∈ pieces, piece.IsAssigned parameters) :
    ∃ url, buildUrl (String.ofList (resolve (template pieces) parameters)) o = .ok url ∧
      url.scheme = site.scheme ∧ url.authority = site.authority ∧
      ∃ reached, url.segments = directories.map (·.text) ++ reached ∧
        List.Forall₂ (Piece.Matches parameters) pieces reached := by
  have hspec := fun piece hpiece => Piece.written_spec (hassigned piece hpiece)
  have hplain : ∀ segment ∈ pieces.map (Piece.written parameters), Url.PlainSegment segment := by
    intro segment hsegment
    obtain ⟨piece, hpiece, rfl⟩ := List.mem_map.mp hsegment
    exact (hspec piece hpiece).1
  obtain ⟨first, rest, rfl⟩ := List.exists_cons_of_ne_nil hpieces
  obtain ⟨url, hurl, hscheme, hauthority, hsegments⟩ :=
    segments_of_path hhost hsite hbase (hspec first List.mem_cons_self).2.1 hplain
  rw [resolve_template _ hkeys]
  refine ⟨url, hurl, hscheme, hauthority, _, hsegments, ?_⟩
  show List.Forall₂ (Piece.Matches parameters) (first :: rest)
    ((first :: rest).map (Piece.written parameters))
  rw [List.forall₂_map_right_iff, List.forall₂_same]
  exact fun piece hpiece => (hspec piece hpiece).2.2

/-! ## A template with a parameter between two literals -/

/-- The pieces of `/users/{id}/posts`. -/
def postsPieces : List Piece :=
  [.literal ⟨"users".toList, by decide, by decide⟩, .parameter "id".toList (by decide),
    .literal ⟨"posts".toList, by decide, by decide⟩]

/-- A string with slashes, braces and marks of its own. -/
def postsParameters : Entries Json := [("id", .str "../a%2F?é{id}")]

/-- The options of a base address. -/
def optionsOf (base : String) : RequestOptions := { RequestOptions.empty with baseUrl := some base }

/-- The directories of a base address. -/
def apiDirectories : List Word :=
  [⟨"api".toList, by decide, by decide⟩, ⟨"v1".toList, by decide, by decide⟩]

/-- A host with a login and a port. -/
def apiSite : Url where
  scheme := "http".toList
  authority := some ⟨"user".toList, none, .name "host".toList, some 8080⟩
  path := ['/']
  query := none
  fragment := none

theorem isAssigned_postsPieces {parameters : Entries Json} {value : String}
    (hfind : parameters.find? "id" = some (.str value)) (hempty : value ≠ "") (hdot : value ≠ ".")
    (hdots : value ≠ "..") : ∀ piece ∈ postsPieces, piece.IsAssigned parameters := by
  intro piece hpiece
  simp only [postsPieces, List.mem_cons, List.not_mem_nil, or_false] at hpiece
  rcases hpiece with rfl | rfl | rfl
  · trivial
  · exact ⟨value, hfind, hempty, hdot, hdots⟩
  · trivial

theorem segments_of_postsPieces :
    Url.IsSite "user@host:8080".toList ∧
    Url.parse ("http://".toList ++ "user@host:8080".toList) = .ok apiSite ∧
    (∀ name ∈ postsParameters.keys, BraceFree name.toList) ∧
    (∀ piece ∈ postsPieces, piece.IsAssigned postsParameters) ∧
    ∃ url, buildUrl (String.ofList (resolve (template postsPieces) postsParameters))
        (optionsOf "http://user@host:8080/api/v1") = .ok url ∧
      url.text =
        "http://user@host:8080/api/v1/users/..%2Fa%252F%3F%C3%A9%7Bid%7D/posts" ∧
      ∃ reached, url.segments = ["api".toList, "v1".toList] ++ reached ∧
        List.Forall₂ (Piece.Matches postsParameters) postsPieces reached := by
  have hhost : Url.IsSite "user@host:8080".toList := by decide
  have hsite : Url.parse ("http://".toList ++ "user@host:8080".toList) = .ok apiSite := by
    decide +kernel
  have hkeys : ∀ name ∈ postsParameters.keys, BraceFree name.toList := by decide
  have hassigned : ∀ piece ∈ postsPieces, piece.IsAssigned postsParameters :=
    isAssigned_postsPieces rfl (by decide) (by decide) (by decide)
  have hbase : (optionsOf "http://user@host:8080/api/v1").baseUrl =
      some (String.ofList (baseText "user@host:8080".toList apiDirectories)) := by decide
  have htext : (buildUrl (String.ofList (resolve (template postsPieces) postsParameters))
      (optionsOf "http://user@host:8080/api/v1")).toOption.map Url.text =
        some "http://user@host:8080/api/v1/users/..%2Fa%252F%3F%C3%A9%7Bid%7D/posts" := by
    decide +kernel
  have hpieces : postsPieces ≠ [] := List.cons_ne_nil _ _
  obtain ⟨url, hurl, -, -, hreached⟩ :=
    segments_of_buildUrl hhost hsite hbase hpieces hkeys hassigned
  rw [hurl] at htext
  exact ⟨hhost, hsite, hkeys, hassigned, url, hurl, Option.some.inj htext, hreached⟩

/-- A URL below the host, without directories of the base. -/
def hostUrl (path : String) : Url where
  scheme := "http".toList
  authority := some ⟨[], none, .name "host".toList, none⟩
  path := path.toList
  query := none
  fragment := none

theorem not_matches_of_length {parameters : Entries Json} {url : Url}
    (h : url.segments.length ≠ postsPieces.length) :
    ¬ ∃ reached, url.segments = ([] : List Word).map (·.text) ++ reached ∧
      List.Forall₂ (Piece.Matches parameters) postsPieces reached := by
  rintro ⟨reached, hsegments, hmatches⟩
  rw [List.map_nil, List.nil_append] at hsegments
  apply h
  rw [hsegments]
  exact hmatches.length_eq.symm

/-- No segment stands for one dot or for two, and two take the segment before them away as well. -/
theorem segments_of_dots :
    Url.IsSite "host".toList ∧ Url.parse ("http://".toList ++ "host".toList) = .ok (hostUrl "/") ∧
    (optionsOf "http://host").baseUrl = some (String.ofList (baseText "host".toList [])) ∧
    (∀ name flat, Piece.parameter name flat ∈ postsPieces → name = "id".toList) ∧
    BraceFree "id".toList ∧
    (buildUrl (String.ofList (resolve (template postsPieces) [("id", .str "..")]))
        (optionsOf "http://host") = .ok (hostUrl "/posts") ∧
      ¬ ∃ reached, (hostUrl "/posts").segments = ([] : List Word).map (·.text) ++ reached ∧
        List.Forall₂ (Piece.Matches [("id", .str "..")]) postsPieces reached) ∧
    (buildUrl (String.ofList (resolve (template postsPieces) [("id", .str ".")]))
        (optionsOf "http://host") = .ok (hostUrl "/users/posts") ∧
      ¬ ∃ reached, (hostUrl "/users/posts").segments = ([] : List Word).map (·.text) ++ reached ∧
        List.Forall₂ (Piece.Matches [("id", .str ".")]) postsPieces reached) := by
  have hnames : ∀ name flat, Piece.parameter name flat ∈ postsPieces → name = "id".toList := by
    intro name flat hmem
    simp only [postsPieces, List.mem_cons, List.not_mem_nil, or_false] at hmem
    rcases hmem with h | h | h
    · cases h
    · cases h
      rfl
    · cases h
  refine ⟨by decide, by decide +kernel, by decide, hnames, by decide, ?_, ?_⟩
  · exact ⟨by decide +kernel, not_matches_of_length (by decide)⟩
  · exact ⟨by decide +kernel, not_matches_of_length (by decide)⟩

end Http

end ApiToolkit
