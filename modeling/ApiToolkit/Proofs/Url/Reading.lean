import ApiToolkit.Proofs.Url.Authority
/-!
# A URL and what is appended to its text

Blanks around a URL are dropped before it is read, and those that stand before an appended text are
no longer around it.

## What is inside

- `Url.cleaned`, `Url.cleaned_append_slash`: the text that a URL is read from.
- `Url.splitScheme?_eq_some_iff`: how a URL begins.
- `Url.Located`: where the authority of a URL of the web stands.
- `Url.origin_of_append_slash`, `Url.origin_of_append`: a text appended behind a slash leaves scheme
  and authority alone.
-/

namespace ApiToolkit.Url

/-! ## Blanks -/

/-- A text without the blanks before it and without tabs and line ends. -/
def opened (text : List Char) : List Char :=
  (Text.trimStartBy isOuterBlank text).filter fun c => !isIgnored c

/-- The text that a URL is read from. -/
def cleaned (text : List Char) : List Char :=
  (Text.trimBy isOuterBlank text).filter fun c => !isIgnored c

theorem parse_eq [DomainToAscii] (text : List Char) :
    parse text =
      match splitScheme? (cleaned text) with
      | none => .error .noScheme
      | some (scheme, rest) => parseAfterScheme scheme rest := rfl

theorem cleaned_of_forall {text : List Char} (h : ∀ c ∈ text, isOuterBlank c = false) :
    cleaned text = text := by
  have hstart : text.dropWhile isOuterBlank = text := by
    cases text with
    | nil => rfl
    | cons c rest => rw [List.dropWhile_cons_of_neg (by simp [h c List.mem_cons_self])]
  have hend : text.reverse.dropWhile isOuterBlank = text.reverse := by
    cases hreverse : text.reverse with
    | nil => rfl
    | cons c rest =>
      have hc : c ∈ text := List.mem_reverse.mp (hreverse ▸ List.mem_cons_self)
      rw [List.dropWhile_cons_of_neg (by simp [h c hc])]
  have hkeep : ∀ c ∈ text, (!isIgnored c) = true := by
    intro c hc
    rw [Bool.not_eq_true']
    by_contra hignored
    have hblank : isOuterBlank c = true := by
      simp only [isIgnored, Bool.not_eq_false, Bool.or_eq_true, beq_iff_eq] at hignored
      rcases hignored with (rfl | rfl) | rfl <;> rfl
    rw [h c hc] at hblank
    cases hblank
  rw [cleaned, Text.trimBy, Text.trimStartBy, hstart, Text.trimEndBy, hend, List.reverse_reverse]
  exact List.filter_eq_self.mpr hkeep

/-- Only blanks at the end are lost besides those before the text. -/
theorem opened_eq (text : List Char) :
    ∃ blanks, (∀ c ∈ blanks, isOuterBlank c = true) ∧ opened text = cleaned text ++ blanks := by
  obtain ⟨blanks, hblanks, htext⟩ :=
    Text.exists_trimEndBy_append isOuterBlank (Text.trimStartBy isOuterBlank text)
  refine ⟨blanks.filter fun c => !isIgnored c, ?_, ?_⟩
  · exact fun c hc => hblanks c (List.mem_of_mem_filter hc)
  · rw [cleaned, Text.trimBy, ← List.filter_append, htext, opened]

/-- A slash is no blank, so the blanks before it stay. -/
theorem cleaned_append_slash (front back : List Char) :
    cleaned (front ++ '/' :: back) =
      opened front ++ '/' :: (Text.trimEndBy isOuterBlank back).filter fun c => !isIgnored c := by
  have hstart : Text.trimStartBy isOuterBlank (front ++ '/' :: back) =
      Text.trimStartBy isOuterBlank front ++ '/' :: back := by
    rw [Text.trimStartBy, Text.trimStartBy, List.dropWhile_append,
      List.dropWhile_cons_of_neg (by decide)]
    split
    next hnone => rw [List.isEmpty_iff.mp hnone, List.nil_append]
    next => rfl
  rw [cleaned, Text.trimBy, hstart, Text.trimEndBy_append, Text.trimEndBy_cons (by decide),
    if_neg (List.cons_ne_nil _ _), List.filter_append, opened,
    List.filter_cons_of_pos (by decide)]

/-! ## Schemes -/

/-- A scheme is a letter and characters of schemes; a colon ends it. -/
theorem splitScheme?_eq_some_iff {text scheme rest : List Char} :
    splitScheme? text = some (scheme, rest) ↔
      ∃ name, text = name ++ ':' :: rest ∧ (∀ c ∈ name, isSchemeChar c = true) ∧
        (∃ first ∈ name.head?, Letter.isAsciiLetter first = true) ∧
        scheme = name.map Letter.asciiLower := by
  constructor
  · intro h
    obtain _ | ⟨first, text⟩ := text
    · cases h
    unfold splitScheme? at h
    split at h
    next heq => cases heq
    next _ _ heq =>
      cases heq
      split at h
      next hletter =>
        split at h
        next after hdrop =>
          cases h
          have hfirst : isSchemeChar first = true := by
            simp [isSchemeChar, Letter.isAsciiAlphanumeric, hletter]
          refine ⟨(first :: text).takeWhile isSchemeChar, ?_, fun c => List.mem_takeWhile_imp,
            ⟨first, ?_, hletter⟩, rfl⟩
          · rw [← hdrop, List.takeWhile_append_dropWhile]
          · rw [List.takeWhile_cons_of_pos hfirst]
            rfl
        next => cases h
      next => cases h
  · rintro ⟨name, rfl, hname, ⟨first, hfirst, hletter⟩, rfl⟩
    obtain ⟨more, rfl⟩ : ∃ more, name = first :: more :=
      List.head?_eq_some_iff.mp hfirst
    have hdrop : (first :: more ++ ':' :: rest).dropWhile isSchemeChar = ':' :: rest := by
      rw [List.dropWhile_append_of_pos hname, List.dropWhile_cons_of_neg (by decide)]
    have htake : (first :: more ++ ':' :: rest).takeWhile isSchemeChar = first :: more := by
      rw [List.takeWhile_append_of_pos hname, List.takeWhile_cons_of_neg (by decide),
        List.append_nil]
    rw [splitScheme?.eq_def]
    simp only [List.cons_append] at hdrop htake ⊢
    rw [hdrop, htake, if_pos hletter]
    rfl

/-- The colon ends the scheme, whatever is appended to the text. -/
theorem splitScheme?_append {text scheme rest : List Char}
    (h : splitScheme? text = some (scheme, rest)) (tail : List Char) :
    splitScheme? (text ++ tail) = some (scheme, rest ++ tail) := by
  obtain ⟨name, rfl, hname⟩ := splitScheme?_eq_some_iff.mp h
  exact splitScheme?_eq_some_iff.mpr ⟨name, by simp, hname⟩

theorem scheme_of_parseFile [DomainToAscii] {text : List Char} {url : Url}
    (h : parseFile text = .ok url) : url.scheme = "file".toList := by
  unfold parseFile at h
  simp only [pure, Except.pure, bind, Except.bind] at h
  repeat' split at h
  all_goals cases h
  all_goals rfl

theorem scheme_of_parseAfterScheme [DomainToAscii] {scheme rest : List Char} {url : Url}
    (h : parseAfterScheme scheme rest = .ok url) : url.scheme = scheme := by
  unfold parseAfterScheme at h
  simp only [pure, Except.pure, bind, Except.bind] at h
  split at h
  next hfile =>
    have hscheme : scheme = "file".toList := by
      unfold schemeKind at hfile
      split at hfile
      next heq => exact heq
      next => split at hfile <;> cases hfile
    rw [scheme_of_parseFile h, hscheme]
  all_goals
    repeat' split at h
    all_goals cases h
    all_goals rfl

/-! ## URLs of the web -/

theorem exists_area (text : List Char) :
    ∃ area beyond, text = area ++ beyond ∧ IsArea true area ∧ IsBeyond true beyond := by
  refine ⟨text.takeWhile fun c => !endsAuthority true c,
    text.dropWhile fun c => !endsAuthority true c, List.takeWhile_append_dropWhile.symm, ?_, ?_⟩
  · intro c hc
    have hkept := List.mem_takeWhile_imp hc
    simpa using hkept
  · intro c hc
    have hstop := List.head?_dropWhile_not (fun c => !endsAuthority true c) text
    rw [Option.mem_def.mp hc] at hstop
    simpa using hstop

section Web

variable [DomainToAscii] {scheme rest area beyond : List Char}

/-- The authority is read from the text up to its end, and all that follows from the text behind
it. -/
theorem parseAfterScheme_web (hkind : schemeKind scheme = .web)
    (hrest : rest.dropWhile (isSlash true) = area ++ beyond) (harea : IsArea true area)
    (hbeyond : IsBeyond true beyond) :
    parseAfterScheme scheme rest =
      (readAuthority scheme area).map fun read =>
        finish scheme (some read.1) (pathAfterAuthority .web (splitTail beyond).1)
          (splitTail beyond).2.1 (splitTail beyond).2.2 := by
  simp only [parseAfterScheme, hkind, hrest, readAuthority_append hkind harea hbeyond]
  cases hread : readAuthority scheme area with
  | error fault => rfl
  | ok read =>
    obtain ⟨authority, left⟩ := read
    obtain ⟨rfl, -⟩ := left_of_readAuthority hkind harea hread
    rfl

theorem parse_eq_ok {text : List Char} {url : Url} (h : parse text = .ok url) :
    ∃ rest, splitScheme? (cleaned text) = some (url.scheme, rest) ∧
      parseAfterScheme url.scheme rest = .ok url := by
  rw [parse_eq] at h
  split at h
  next => cases h
  next scheme rest hsplit =>
    obtain rfl := scheme_of_parseAfterScheme h
    exact ⟨rest, hsplit, h⟩

/-- What stands behind the colon of a URL of the web: slashes, the area of an authority, and a text
beyond it. -/
structure Located (scheme rest area beyond : List Char) (authority : Authority) : Prop where
  /-- The scheme is one of the web. -/
  isWeb : schemeKind scheme = .web
  /-- The slashes do not count. -/
  parts : rest.dropWhile (isSlash true) = area ++ beyond
  /-- The authority ends where the text beyond begins. -/
  isArea : IsArea true area
  /-- The text beyond begins where the authority ends. -/
  isBeyond : IsBeyond true beyond
  /-- The area is read as the authority. -/
  isRead : readAuthority scheme area = .ok (authority, [])

variable {authority : Authority}

theorem exists_located {text : List Char} {url : Url} (hkind : schemeKind url.scheme = .web)
    (h : parse text = .ok url) :
    ∃ rest area beyond authority, splitScheme? (cleaned text) = some (url.scheme, rest) ∧
      Located url.scheme rest area beyond authority ∧ url.authority = some authority := by
  obtain ⟨rest, hsplit, hparse⟩ := parse_eq_ok h
  obtain ⟨area, beyond, hrest, harea, hbeyond⟩ := exists_area (rest.dropWhile (isSlash true))
  rw [parseAfterScheme_web hkind hrest harea hbeyond] at hparse
  obtain ⟨⟨authority, left⟩, hread, heq⟩ := exists_of_map_eq_ok hparse
  obtain ⟨rfl, -⟩ := left_of_readAuthority hkind harea hread
  exact ⟨rest, area, beyond, authority, hsplit, ⟨hkind, hrest, harea, hbeyond, hread⟩,
    congrArg Url.authority heq.symm⟩

theorem Located.parseAfterScheme (h : Located scheme rest area beyond authority) :
    parseAfterScheme scheme rest =
      .ok (finish scheme (some authority) (pathAfterAuthority .web (splitTail beyond).1)
        (splitTail beyond).2.1 (splitTail beyond).2.2) := by
  rw [parseAfterScheme_web h.isWeb h.parts h.isArea h.isBeyond, h.isRead]
  rfl

theorem Located.authority_eq (h : Located scheme rest area beyond authority) {url : Url}
    (hparse : Url.parseAfterScheme scheme rest = .ok url) : url.authority = some authority := by
  rw [h.parseAfterScheme] at hparse
  exact congrArg Url.authority (Except.ok.inj hparse).symm

/-- There is no authority without a character, so what is appended does not come to be one of the
slashes before it. -/
theorem Located.dropWhile_append (h : Located scheme rest area beyond authority)
    (tail : List Char) :
    (rest ++ tail).dropWhile (isSlash true) = area ++ (beyond ++ tail) := by
  obtain ⟨-, harea⟩ := left_of_readAuthority h.isWeb h.isArea h.isRead
  have hne : (area ++ beyond).isEmpty = false := by simp [harea]
  rw [List.dropWhile_append, h.parts, hne, List.append_assoc]
  rfl

/-- What is appended behind the end of an authority leaves it alone. -/
theorem Located.append (h : Located scheme rest area beyond authority) {tail : List Char}
    (htail : IsBeyond true (beyond ++ tail)) :
    Located scheme (rest ++ tail) area (beyond ++ tail) authority :=
  ⟨h.isWeb, h.dropWhile_append tail, h.isArea, htail, h.isRead⟩

/-- Blanks between an authority and a slash are no longer around the URL: none can be read. -/
theorem Located.blanks_eq_nil (hnames : DomainToAscii.RefusesBlanks)
    (h : Located scheme rest area [] authority) {blanks back : List Char}
    (hblanks : ∀ c ∈ blanks, isOuterBlank c = true) {url : Url}
    (hparse : Url.parseAfterScheme scheme (rest ++ (blanks ++ '/' :: back)) = .ok url) :
    blanks = [] := by
  have hwide : IsArea true (area ++ blanks) := by
    intro c hc
    rcases List.mem_append.mp hc with hc | hc
    · exact h.isArea c hc
    · exact endsAuthority_blank (hblanks c hc)
  have hdrop : (rest ++ (blanks ++ '/' :: back)).dropWhile (isSlash true) =
      (area ++ blanks) ++ '/' :: back := by
    rw [h.dropWhile_append, List.nil_append, List.append_assoc]
  rw [parseAfterScheme_web h.isWeb hdrop hwide (isBeyond_slash back)] at hparse
  obtain ⟨read, hread, -⟩ := exists_of_map_eq_ok hparse
  -- The wider area would end in a blank.
  by_contra hne
  have hlast : (area ++ blanks).getLast? = some (blanks.getLast hne) := by
    rw [List.getLast?_append_of_ne_nil _ hne, List.getLast?_eq_some_getLast hne]
  have hc := last_of_readAuthority hnames h.isWeb hwide hread hlast
  rw [hblanks _ (List.getLast_mem hne)] at hc
  cases hc

/-! ## Origins -/

/-- A slash and more, appended to a URL of the web, lead to no other origin. -/
theorem origin_of_append_slash (hnames : DomainToAscii.RefusesBlanks) {base back : List Char}
    {site url : Url} (hkind : schemeKind site.scheme = .web) (hbase : parse base = .ok site)
    (h : parse (base ++ '/' :: back) = .ok url) :
    url.scheme = site.scheme ∧ url.authority = site.authority ∧ site.authority.isSome := by
  obtain ⟨rest, area, beyond, authority, hsplit, hlocated, hsite⟩ := exists_located hkind hbase
  obtain ⟨blanks, hblanks, hopened⟩ := opened_eq base
  rw [parse_eq, cleaned_append_slash, hopened, List.append_assoc, splitScheme?_append hsplit] at h
  rw [hsite]
  refine ⟨scheme_of_parseAfterScheme h, ?_, rfl⟩
  by_cases hnil : beyond = []
  · subst hnil
    obtain rfl := hlocated.blanks_eq_nil hnames hblanks h
    exact (hlocated.append (isBeyond_slash _)).authority_eq h
  · exact (hlocated.append (hlocated.isBeyond.append hnil _)).authority_eq h

/-- The slash at the end of a URL of the web ends its authority. -/
theorem Located.beyond_ne_nil {text : List Char}
    (h : Located scheme rest area beyond authority)
    (hsplit : splitScheme? text = some (scheme, rest)) (hlast : text.getLast? = some '/') :
    beyond ≠ [] := by
  rintro rfl
  -- The slash would be the last character of the area.
  obtain ⟨-, harea⟩ := left_of_readAuthority h.isWeb h.isArea h.isRead
  obtain ⟨name, rfl, -⟩ := splitScheme?_eq_some_iff.mp hsplit
  obtain ⟨slashes, hslashes⟩ : rest.dropWhile (isSlash true) <:+ rest := List.dropWhile_suffix _
  rw [← hslashes, h.parts, List.append_nil, ← List.cons_append, ← List.append_assoc,
    List.getLast?_append_of_ne_nil _ harea] at hlast
  have hslash := h.isArea '/' (List.mem_of_getLast? hlast)
  cases hslash

/-- What is appended behind the slash at the end of a URL of the web leads to no other origin. -/
theorem origin_of_append {front back : List Char} {site url : Url}
    (hkind : schemeKind site.scheme = .web) (hbase : parse (front ++ ['/']) = .ok site)
    (h : parse (front ++ '/' :: back) = .ok url) :
    url.scheme = site.scheme ∧ url.authority = site.authority ∧ site.authority.isSome := by
  obtain ⟨rest, area, beyond, authority, hsplit, hlocated, hsite⟩ := exists_located hkind hbase
  have hclean : cleaned (front ++ ['/']) = opened front ++ ['/'] := cleaned_append_slash front []
  have hnil : beyond ≠ [] :=
    hlocated.beyond_ne_nil hsplit (by rw [hclean, List.getLast?_concat])
  rw [parse_eq, cleaned_append_slash, List.append_cons, ← hclean, splitScheme?_append hsplit] at h
  rw [hsite]
  exact ⟨scheme_of_parseAfterScheme h,
    (hlocated.append (hlocated.isBeyond.append hnil _)).authority_eq h, rfl⟩

end Web

end ApiToolkit.Url
