import ApiToolkit.Http.Request
import ApiToolkit.Proofs.Url.Reading
/-!
# The origin of a request

A target that is no URL by itself is joined to the base address, and the whole is read again.  The
text that is read is not the base and the target one after the other: a slash may come between them,
blanks at the end of the base are no longer at an end, and a target may carry at signs, colons and
slashes of its own.  None of this changes where the request goes.

## What is inside

- `Http.joinSegment_forms`, `Http.joinedTarget_relative`: the texts that a joined target can be.
- `Http.buildUrl_eq_ok_iff`: the URL of a request is what is read, with query parameters.
- `Http.buildUrl_origin`: the origin of the base is the origin of the request.
-/

namespace ApiToolkit.Http

/-! ## Joined targets -/

/-- The three forms of a joined address: the base alone, or the base and a slash and more, where the
base may have brought the slash. -/
theorem joinSegment_forms {base : List Char} (hbase : base ≠ []) (segment : List Char) :
    Path.joinSegment base segment = base ∨
      (∃ front back, base = front ++ ['/'] ∧
        Path.joinSegment base segment = front ++ '/' :: back) ∨
      ∃ back, Path.joinSegment base segment = base ++ '/' :: back := by
  simp only [Path.joinSegment, if_neg hbase]
  split
  next => exact .inl rfl
  next =>
    split
    next hslash =>
      obtain ⟨front, rfl⟩ := List.getLast?_eq_some_iff.mp hslash
      exact .inr (.inl ⟨front, Path.stripLead segment, rfl, (List.append_cons ..).symm⟩)
    next => exact .inr (.inr ⟨Path.stripLead segment, rfl⟩)

/-- A target that is no URL is joined to the base, unless it begins with it. -/
theorem joinedTarget_relative [Url.DomainToAscii] {target base : String} {o : RequestOptions}
    {fault : Url.Fault} (hbase : o.baseUrl = some base) (htarget : Url.parse target.toList = .error fault) :
    joinedTarget target o.baseUrl =
      if Text.startsWith base.toList target.toList then target
      else String.ofList (Path.joinSegment base.toList target.toList) := by
  unfold joinedTarget
  simp only [hbase, htarget]
  rfl

/-! ## Query parameters -/

/-- A URL with the query parameters of options behind its own query. -/
def withParameters (o : RequestOptions) (url : Url) : Url :=
  if o.query.isEmpty then url
  else url.withPairs (o.query.flatMap fun p => parameterPairs p.1 p.2)

section Parameters

variable (o : RequestOptions) (url : Url)

@[simp] theorem withParameters_scheme : (withParameters o url).scheme = url.scheme := by
  unfold withParameters
  split <;> rfl

@[simp] theorem withParameters_authority : (withParameters o url).authority = url.authority := by
  unfold withParameters
  split <;> rfl

@[simp] theorem withParameters_path : (withParameters o url).path = url.path := by
  unfold withParameters
  split <;> rfl

end Parameters

theorem buildUrl_eq_ok_iff [Url.DomainToAscii] {target : String} {o : RequestOptions} {url : Url} :
    buildUrl target o = .ok url ↔
      ∃ read, Url.parse (joinedTarget target o.baseUrl).toList = .ok read ∧
        url = withParameters o read := by
  unfold buildUrl
  simp only
  split
  next fault hread => simp [hread]
  next read hread =>
    rw [hread]
    constructor
    · intro h
      exact ⟨read, rfl, (Except.ok.inj h).symm⟩
    · rintro ⟨other, hother, rfl⟩
      cases hother
      rfl

/-! ## Relative targets -/

/-- However a relative target is written, and whatever names come to in ASCII, its request goes where
the base address points. -/
theorem buildUrl_origin [Url.DomainToAscii] (hnames : Url.DomainToAscii.RefusesBlanks)
    {target base : String} {o : RequestOptions} {site url : Url} {fault : Url.Fault}
    (hbase : o.baseUrl = some base) (hsite : Url.parse base.toList = .ok site)
    (hscheme : site.scheme = "http".toList ∨ site.scheme = "https".toList)
    (htarget : Url.parse target.toList = .error fault) (h : buildUrl target o = .ok url) :
    url.scheme = site.scheme ∧ url.authority = site.authority ∧ site.authority.isSome := by
  have hkind : Url.schemeKind site.scheme = .web := by
    rcases hscheme with hscheme | hscheme <;> rw [hscheme] <;> rfl
  obtain ⟨read, hread, rfl⟩ := buildUrl_eq_ok_iff.mp h
  rw [joinedTarget_relative hbase htarget] at hread
  split at hread
  · -- The target begins with the base and stays as it is, but it is not readable.
    rw [htarget] at hread
    cases hread
  rw [String.toList_ofList] at hread
  have hne : base.toList ≠ [] := by
    intro hnil
    rw [hnil] at hsite
    cases hsite
  rw [withParameters_scheme, withParameters_authority]
  rcases joinSegment_forms hne target.toList with heq | ⟨front, back, hfront, heq⟩ | ⟨back, heq⟩
  · -- The base alone.
    rw [heq, hsite] at hread
    cases hread
    obtain ⟨-, -, -, authority, -, -, hsome⟩ := Url.exists_located hkind hsite
    rw [hsome]
    exact ⟨rfl, rfl, rfl⟩
  · -- The base brought the slash.
    rw [hfront] at hsite
    rw [heq] at hread
    exact Url.origin_of_append hkind hsite hread
  · -- The slash came between them.
    rw [heq] at hread
    exact Url.origin_of_append_slash hnames hkind hsite hread

/-- A base with a login, a port and a query, which the target comes to be a part of. -/
def sampleOptions : RequestOptions :=
  { RequestOptions.empty with
    baseUrl := some " http://user:pw@host:8080?q \t", query := [("a", .str "b")] }

/-- The site of the base. -/
def sampleSite : Url where
  scheme := "http".toList
  authority := some ⟨"user".toList, some "pw".toList, .name "host".toList, some 8080⟩
  path := ['/']
  query := some ['q']
  fragment := none

theorem buildUrl_sampleOptions :
    Url.parse " http://user:pw@host:8080?q \t".toList = .ok sampleSite ∧
    Url.parse "//evil.com:99/@x".toList = .error .noScheme ∧
    buildUrl "//evil.com:99/@x" sampleOptions =
      .ok { sampleSite with query := some "q%20//evil.com:99/@x&a=b".toList } ∧
    sampleSite.authority.isSome := by
  have hsite : Url.parse " http://user:pw@host:8080?q \t".toList = .ok sampleSite := by
    decide +kernel
  have htarget : Url.parse "//evil.com:99/@x".toList = .error .noScheme := by decide +kernel
  have hbuild : buildUrl "//evil.com:99/@x" sampleOptions =
      .ok { sampleSite with query := some "q%20//evil.com:99/@x&a=b".toList } := by
    decide +kernel
  obtain ⟨-, -, hsome⟩ :=
    buildUrl_origin Url.DomainToAscii.refusesBlanks_plain rfl hsite (.inl rfl) htarget hbuild
  exact ⟨hsite, htarget, hbuild, hsome⟩

end ApiToolkit.Http
