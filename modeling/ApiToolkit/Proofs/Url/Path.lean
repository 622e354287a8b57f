import ApiToolkit.Proofs.Url.Reading
/-!
# Paths that are read as they are written

Reading a path cuts it at slashes, escapes its segments and takes away the dot segments.  Segments
that need no escapes and are no dot segments stay.

## What is inside

- `Url.segments`: the segments of the path of a URL.
- `Url.PlainSegment`, `Url.readPath_closed`: the segments that stay, and a path of them.
- `Url.decode_isSingleDot`, `Url.decode_isDoubleDot`: dot segments may be escaped.
- `Url.parse_append_path`: a path appended to a site.
-/

namespace ApiToolkit.Url

/-- The segments of the path of a URL. -/
def segments (url : Url) : List (List Char) := Text.splitBy (· == '/') (url.path.drop 1)

/-! ## Paths of plain segments -/

/-- Segments that are read as they are written. -/
structure PlainSegment (segment : List Char) : Prop where
  /-- No character is escaped. -/
  kept : ∀ c ∈ segment, c.toNat < 0x80 ∧ keptInPath c = true
  /-- No character ends the segment. -/
  whole : ∀ c ∈ segment, isSlash true c = false
  /-- The segment does not stand for a directory. -/
  noDots : isSingleDot segment = false ∧ isDoubleDot segment = false

/-- A path of segments that a slash follows, and a last segment. -/
def closedPath (closed : List (List Char)) (last : List Char) : List Char :=
  closed.flatMap (· ++ ['/']) ++ last

theorem flatMap_slash (closed : List (List Char)) (last : List Char) :
    (closed ++ [last]).flatMap ('/' :: ·) = '/' :: closedPath closed last := by
  induction closed with
  | nil => simp [closedPath]
  | cons segment closed ih =>
    rw [List.cons_append, List.flatMap_cons, ih]
    simp [closedPath]

theorem splitBy_closedPath {isCut : Char → Bool} (hcut : isCut '/' = true)
    {closed : List (List Char)} {last : List Char}
    (hclosed : ∀ segment ∈ closed, ∀ c ∈ segment, isCut c = false)
    (hlast : ∀ c ∈ last, isCut c = false) :
    Text.splitBy isCut (closedPath closed last) = closed ++ [last] := by
  induction closed with
  | nil => exact Text.splitBy_of_forall hlast
  | cons segment closed ih =>
    obtain ⟨hsegment, hrest⟩ := List.forall_mem_cons.mp hclosed
    have hpath : closedPath (segment :: closed) last =
        segment ++ '/' :: closedPath closed last := by
      simp [closedPath]
    rw [hpath, Text.splitBy_append_cut _ hcut, Text.splitBy_of_forall hsegment, ih hrest]
    rfl

theorem push_of_noDots {segment : List Char}
    (h : isSingleDot segment = false ∧ isDoubleDot segment = false) {kind : SchemeKind}
    (hkind : kind ≠ .file) (closed : List (List Char)) (ended : Bool) :
    Segments.push kind closed segment ended =
      if ended then ⟨segment :: closed, []⟩ else ⟨closed, segment⟩ := by
  simp [Segments.push, h, hkind]

theorem ofParts_of_noDots {kind : SchemeKind} (hkind : kind ≠ .file)
    {parts : List (List Char)} {last : List Char}
    (hparts : ∀ part ∈ parts, isSingleDot part = false ∧ isDoubleDot part = false)
    (hlast : isSingleDot last = false ∧ isDoubleDot last = false) (closed : List (List Char)) :
    Segments.ofParts kind closed (parts ++ [last]) = ⟨parts.reverse ++ closed, last⟩ := by
  induction parts generalizing closed with
  | nil =>
    rw [List.nil_append, Segments.ofParts, push_of_noDots hlast hkind]
    rfl
  | cons part parts ih =>
    obtain ⟨hpart, hrest⟩ := List.forall_mem_cons.mp hparts
    obtain ⟨next, rest, hcons⟩ : ∃ next rest, parts ++ [last] = next :: rest :=
      List.exists_cons_of_ne_nil (by simp)
    rw [List.cons_append, hcons, Segments.ofParts, ← hcons, push_of_noDots hpart hkind, if_pos rfl,
      ih hrest]
    · simp
    · simp

/-- Plain segments stay, and so does their path. -/
theorem readPath_closedPath {closed : List (List Char)} {last : List Char}
    (hclosed : ∀ segment ∈ closed, PlainSegment segment) (hlast : PlainSegment last) :
    readPath .web (closedPath closed last) = '/' :: closedPath closed last := by
  have hsplit : Text.splitBy (isSlash true) (closedPath closed last) = closed ++ [last] :=
    splitBy_closedPath rfl (fun segment h => (hclosed segment h).whole) hlast.whole
  have hencode : (closed ++ [last]).map (Percent.encode keptInPath) = closed ++ [last] := by
    refine (List.map_congr_left fun segment hmem => ?_).trans (List.map_id _)
    rcases List.mem_append.mp hmem with hmem | hmem
    · exact Percent.encode_of_forall (hclosed segment hmem).kept
    · rw [List.mem_singleton.mp hmem]
      exact Percent.encode_of_forall hlast.kept
  have hweb : SchemeKind.web ≠ .file := by decide
  have hparts := ofParts_of_noDots hweb
    (fun segment h => (hclosed segment h).noDots) hlast.noDots []
  simp only [readPath, SchemeKind.isSpecial, hsplit, hencode, hparts, reduceCtorEq, if_false]
  simp [Segments.text, closedPath]

/-! ## Dot segments -/

/-- Of the characters that dots are written with, only one has a capital form. -/
theorem eq_of_asciiLower {c d : Char} (hd : d ∈ ['.', '%', '2', 'e'])
    (h : Letter.asciiLower c = d) : c = d ∨ (c = 'E' ∧ d = 'e') := by
  by_cases hupper : Letter.isAsciiUpper c = true
  · have hle : c.toNat < 91 := by
      rw [Letter.isAsciiUpper, Bool.and_eq_true, decide_eq_true_eq, decide_eq_true_eq] at hupper
      exact Nat.lt_succ_of_le (UInt32.le_iff_toNat_le.mp (Char.le_def.mp hupper.2))
    have hall := Letter.forall_of_toNat_lt (p := fun c => ['.', '%', '2', 'e'].all (fun d =>
      decide (Letter.asciiLower c = d → c = d ∨ (c = 'E' ∧ d = 'e'))) = true) (by decide) hle
    exact of_decide_eq_true (List.all_eq_true.mp hall d hd) h
  · rw [Letter.asciiLower, if_neg hupper] at h
    exact .inl h

theorem isSingleDot_cases {segment : List Char} (h : isSingleDot segment = true) :
    segment = ['.'] ∨ segment = ['%', '2', 'e'] ∨ segment = ['%', '2', 'E'] := by
  rw [isSingleDot, Bool.or_eq_true, decide_eq_true_eq, decide_eq_true_eq] at h
  rcases h with h | h
  · obtain ⟨a, rfl, ha⟩ := List.map_eq_singleton_iff.mp h
    rcases eq_of_asciiLower (by decide) ha with rfl | ⟨-, hne⟩
    · exact .inl rfl
    · cases hne
  · obtain ⟨a, _, rfl, ha, h⟩ := List.map_eq_cons_iff.mp h
    obtain ⟨b, _, rfl, hb, h⟩ := List.map_eq_cons_iff.mp h
    obtain ⟨c, rfl, hc⟩ := List.map_eq_singleton_iff.mp h
    obtain rfl : a = '%' := (eq_of_asciiLower (by decide) ha).resolve_right fun h => by cases h.2
    obtain rfl : b = '2' := (eq_of_asciiLower (by decide) hb).resolve_right fun h => by cases h.2
    rcases eq_of_asciiLower (by decide) hc with rfl | ⟨rfl, -⟩
    · exact .inr (.inl rfl)
    · exact .inr (.inr rfl)

theorem decode_append_of_isSingleDot {segment : List Char} (h : isSingleDot segment = true)
    (rest : List Char) :
    Percent.decode (segment ++ rest) = Utf8.encodeChar '.' ++ Percent.decode rest := by
  rcases isSingleDot_cases h with rfl | rfl | rfl
  · exact Percent.decode_cons (by decide) rest
  · rfl
  · rfl

theorem exists_of_isDoubleDot {segment : List Char} (h : isDoubleDot segment = true) :
    ∃ front back, segment = front ++ back ∧ isSingleDot front = true ∧ isSingleDot back = true := by
  have hforms : ∃ front back, segment.map Letter.asciiLower = front ++ back ∧
      front ∈ [['.'], ['%', '2', 'e']] ∧ back ∈ [['.'], ['%', '2', 'e']] := by
    simp only [isDoubleDot, List.any_cons, List.any_nil, Bool.or_false, Bool.or_eq_true,
      beq_iff_eq] at h
    rcases h with h | h | h | h
    · exact ⟨['.'], ['.'], h.symm, by decide, by decide⟩
    · exact ⟨['%', '2', 'e'], ['.'], h.symm, by decide, by decide⟩
    · exact ⟨['.'], ['%', '2', 'e'], h.symm, by decide, by decide⟩
    · exact ⟨['%', '2', 'e'], ['%', '2', 'e'], h.symm, by decide, by decide⟩
  obtain ⟨front, back, happ, hfront, hback⟩ := hforms
  obtain ⟨first, second, rfl, rfl, rfl⟩ := List.map_eq_append_iff.mp happ
  simp only [List.mem_cons, List.not_mem_nil, or_false] at hfront hback
  refine ⟨first, second, rfl, ?_, ?_⟩
  · rwa [isSingleDot, Bool.or_eq_true, decide_eq_true_eq, decide_eq_true_eq]
  · rwa [isSingleDot, Bool.or_eq_true, decide_eq_true_eq, decide_eq_true_eq]

theorem decode_of_isSingleDot {segment : List Char} (h : isSingleDot segment = true) :
    Percent.decode segment = ['.'].flatMap Utf8.encodeChar := by
  have hdecode := decode_append_of_isSingleDot h []
  rwa [List.append_nil] at hdecode

theorem decode_of_isDoubleDot {segment : List Char} (h : isDoubleDot segment = true) :
    Percent.decode segment = ['.', '.'].flatMap Utf8.encodeChar := by
  obtain ⟨front, back, rfl, hfront, hback⟩ := exists_of_isDoubleDot h
  rw [decode_append_of_isSingleDot hfront, decode_of_isSingleDot hback]
  rfl

/-! ## A path appended to a site -/

/-- A host, perhaps with a login and a port: nothing in it ends an authority, and it has no
blanks. -/
def IsSite (host : List Char) : Prop :=
  ∀ c ∈ host, endsAuthority true c = false ∧ isOuterBlank c = false

instance (host : List Char) : Decidable (IsSite host) :=
  decidable_of_iff (host.all fun c => !endsAuthority true c && !isOuterBlank c) (by simp [IsSite])

theorem splitTail_of_forall {text : List Char} (h : ∀ c ∈ text, c ≠ '#' ∧ c ≠ '?') :
    splitTail text = (text, none, none) := by
  have hnumber : ∀ c ∈ text, (c != '#') = true := fun c hc => by simpa using (h c hc).1
  have hquestion : ∀ c ∈ text, (c != '?') = true := fun c hc => by simpa using (h c hc).2
  simp [splitTail, List.takeWhile_eq_self_iff.mpr hnumber, List.dropWhile_eq_nil_iff.mpr hnumber,
    List.takeWhile_eq_self_iff.mpr hquestion, List.dropWhile_eq_nil_iff.mpr hquestion]

theorem not_blank_of_http : ∀ c ∈ "http://".toList, isOuterBlank c = false := by
  have hall : "http://".toList.all (fun c => !isOuterBlank c) = true := by decide
  exact fun c hc => (Bool.not_eq_true' _).mp (List.all_eq_true.mp hall c hc)

/-- The authority of a site is read from its host alone. -/
theorem located_of_site [DomainToAscii] {host : List Char} (hhost : IsSite host)
    {site : Url} (hsite : parse ("http://".toList ++ host) = .ok site) :
    ∃ authority, splitScheme? ("http://".toList ++ host) =
        some ("http".toList, ['/', '/'] ++ host) ∧
      Located "http".toList (['/', '/'] ++ host) host [] authority ∧
      site = finish "http".toList (some authority) ['/'] none none := by
  have harea : IsArea true host := fun c hc => (hhost c hc).1
  have hclean : cleaned ("http://".toList ++ host) = "http://".toList ++ host := by
    refine cleaned_of_forall fun c hc => ?_
    rcases List.mem_append.mp hc with hc | hc
    · exact not_blank_of_http c hc
    · exact (hhost c hc).2
  have hsplit : splitScheme? ("http://".toList ++ host) =
      some ("http".toList, ['/', '/'] ++ host) :=
    splitScheme?_eq_some_iff.mpr
      ⟨"http".toList, rfl, List.all_eq_true.mp (by decide), ⟨'h', rfl, rfl⟩, rfl⟩
  have hrest : (['/', '/'] ++ host).dropWhile (isSlash true) = host ++ [] := by
    rw [List.dropWhile_append_of_pos (List.all_eq_true.mp (by decide)), List.append_nil,
      List.dropWhile_eq_self_iff]
    intro hpos hslash
    have hend := harea _ (List.getElem_mem hpos)
    rw [endsAuthority, hslash] at hend
    cases hend
  have hweb : schemeKind "http".toList = .web := rfl
  rw [parse_eq, hclean, hsplit] at hsite
  have hparse := (parseAfterScheme_web hweb hrest harea isBeyond_nil).symm.trans hsite
  obtain ⟨⟨authority, left⟩, hread, heq⟩ := exists_of_map_eq_ok hparse
  obtain ⟨rfl, -⟩ := left_of_readAuthority hweb harea hread
  exact ⟨authority, hsplit, ⟨hweb, hrest, harea, isBeyond_nil, hread⟩, heq.symm⟩

theorem site_ne_nil [DomainToAscii] {host : List Char} (hhost : IsSite host)
    {site : Url} (hsite : parse ("http://".toList ++ host) = .ok site) : host ≠ [] := by
  obtain ⟨authority, -, hlocated, -⟩ := located_of_site hhost hsite
  exact (left_of_readAuthority hlocated.isWeb hlocated.isArea hlocated.isRead).2

/-- Neither blanks nor the marks of a query or a fragment stand for themselves in a path. -/
theorem not_blank_of_keptInPath {c : Char} (h : keptInPath c = true) :
    isOuterBlank c = false ∧ c ≠ '#' ∧ c ≠ '?' := by
  refine ⟨?_, ?_, ?_⟩
  · by_contra hblank
    rw [Bool.not_eq_false] at hblank
    have hnot := Letter.forall_of_toNat_lt (p := fun c => keptInPath c = false) (by decide)
      (lt_of_isOuterBlank hblank)
    rw [h] at hnot
    cases hnot
  · rintro rfl
    cases h
  · rintro rfl
    cases h

theorem not_blank_of_mem_closedPath {closed : List (List Char)} {last : List Char}
    (hclosed : ∀ segment ∈ closed, PlainSegment segment) (hlast : PlainSegment last) {c : Char}
    (hc : c ∈ '/' :: closedPath closed last) : isOuterBlank c = false ∧ c ≠ '#' ∧ c ≠ '?' := by
  apply not_blank_of_keptInPath
  rcases List.mem_cons.mp hc with rfl | hc
  · rfl
  rcases List.mem_append.mp hc with hc | hc
  · obtain ⟨segment, hsegment, hc⟩ := List.mem_flatMap.mp hc
    rcases List.mem_append.mp hc with hc | hc
    · exact ((hclosed segment hsegment).kept c hc).2
    · rw [List.mem_singleton.mp hc]
      rfl
  · exact (hlast.kept c hc).2

/-- A path of plain segments stands in the URL as it was appended. -/
theorem parse_append_path [DomainToAscii] {host : List Char} (hhost : IsSite host)
    {site : Url} (hsite : parse ("http://".toList ++ host) = .ok site) {closed : List (List Char)}
    {last : List Char} (hclosed : ∀ segment ∈ closed, PlainSegment segment)
    (hlast : PlainSegment last) :
    parse ("http://".toList ++ host ++ '/' :: closedPath closed last) =
      .ok { site with path := '/' :: closedPath closed last } := by
  obtain ⟨authority, hsplit, hlocated, rfl⟩ := located_of_site hhost hsite
  have hmem := fun c => not_blank_of_mem_closedPath (c := c) hclosed hlast
  -- Nothing is dropped around the longer text, and no query begins in it.
  have hclean : cleaned ("http://".toList ++ host ++ '/' :: closedPath closed last) =
      "http://".toList ++ host ++ '/' :: closedPath closed last := by
    refine cleaned_of_forall fun c hc => ?_
    rcases List.mem_append.mp hc with hc | hc
    · rcases List.mem_append.mp hc with hc | hc
      · exact not_blank_of_http c hc
      · exact (hhost c hc).2
    · exact (hmem c hc).1
  have hpath : pathAfterAuthority .web ('/' :: closedPath closed last) =
      '/' :: closedPath closed last := readPath_closedPath hclosed hlast
  have hparse :=
    (hlocated.append (isBeyond_slash (closedPath closed last))).parseAfterScheme
  rw [List.nil_append, splitTail_of_forall fun c hc => (hmem c hc).2, hpath] at hparse
  rw [parse_eq, hclean, splitScheme?_append hsplit]
  exact hparse

/-- The segments of a path that is appended to a site are those of the URL. -/
theorem segments_of_append [DomainToAscii] {host : List Char} (hhost : IsSite host)
    {site : Url} (hsite : parse ("http://".toList ++ host) = .ok site) {parts : List (List Char)}
    (hne : parts ≠ []) (hparts : ∀ part ∈ parts, PlainSegment part) :
    ∃ url, parse ("http://".toList ++ (host ++ parts.flatMap ('/' :: ·))) = .ok url ∧
      url.scheme = site.scheme ∧ url.authority = site.authority ∧ url.segments = parts := by
  obtain ⟨closed, last, rfl⟩ := (List.eq_nil_or_concat' parts).resolve_left hne
  have hclosed : ∀ segment ∈ closed, PlainSegment segment := fun segment h =>
    hparts segment (List.mem_append_left _ h)
  have hlast : PlainSegment last := hparts last (List.mem_append_right _ List.mem_cons_self)
  have hslash : ∀ segment, PlainSegment segment → ∀ c ∈ segment, (c == '/') = false := by
    intro segment hsegment c hc
    have hwhole := hsegment.whole c hc
    rw [isSlash, Bool.or_eq_false_iff] at hwhole
    exact hwhole.1
  have hsplit : Text.splitBy (· == '/') (closedPath closed last) = closed ++ [last] :=
    splitBy_closedPath rfl (fun segment h => hslash segment (hclosed segment h))
      (hslash last hlast)
  rw [flatMap_slash, ← List.append_assoc]
  exact ⟨_, parse_append_path hhost hsite hclosed hlast, rfl, rfl, hsplit⟩

end ApiToolkit.Url
