import ApiToolkit.Proofs.Results
import ApiToolkit.Proofs.Text.Lines
import ApiToolkit.Proofs.Text.Octets
import ApiToolkit.Url.Basic
import Mathlib.Data.List.TakeWhile
/-!
# The end of an authority

An authority is read up to the first character that ends it.  What stands behind that character has
no part in it.  Whatever names come to in ASCII, a blank never stands at its end if names with blanks
are refused.

## What is inside

- `Url.IsArea`, `Url.IsBeyond`: the text that an authority takes, and what no authority reaches.
- `Url.readHost_append`, `Url.readPortPart_append`: the same for its parts.
- `Url.readAuthority_append`: a text behind the authority is left as it is.
- `Url.left_of_readAuthority`: a readable authority leaves nothing.
- `Url.DomainToAscii.RefusesBlanks`: blanks and control characters are forbidden in names.
- `Url.last_of_readAuthority`: a readable authority ends in no blank.
-/

namespace ApiToolkit.Url

/-! ## Where an authority ends -/

section Extent

variable {isSpecial : Bool} {area beyond : List Char}

/-- Whether no authority reaches into a text. -/
def IsBeyond (isSpecial : Bool) (beyond : List Char) : Prop :=
  ∀ c ∈ beyond.head?, endsAuthority isSpecial c = true

/-- Whether an authority that reaches into a text takes all of it. -/
def IsArea (isSpecial : Bool) (area : List Char) : Prop :=
  ∀ c ∈ area, endsAuthority isSpecial c = false

theorem endsAuthority_iff {c : Char} :
    endsAuthority true c = true ↔ ['/', '\\', '?', '#'].contains c = true := by
  simp [endsAuthority, isSlash, or_assoc]

theorem isBeyond_nil : IsBeyond isSpecial [] := fun c hc => by cases hc

theorem isBeyond_slash (back : List Char) : IsBeyond isSpecial ('/' :: back) := by
  intro c hc
  cases hc
  rfl

theorem IsBeyond.append (h : IsBeyond isSpecial beyond) (hne : beyond ≠ []) (tail : List Char) :
    IsBeyond isSpecial (beyond ++ tail) := by
  obtain ⟨c, more, rfl⟩ := List.exists_cons_of_ne_nil hne
  exact h

theorem IsArea.of_suffix {text : List Char} (h : IsArea isSpecial area) (hsuffix : text <:+ area) :
    IsArea isSpecial text := fun c hc => h c (hsuffix.subset hc)

theorem takeWhile_area (harea : IsArea isSpecial area) (hbeyond : IsBeyond isSpecial beyond) :
    (area ++ beyond).takeWhile (fun c => !endsAuthority isSpecial c) = area := by
  rw [List.takeWhile_append_of_pos (fun c hc => by rw [harea c hc]; rfl)]
  cases beyond with
  | nil => exact List.append_nil _
  | cons c rest =>
    rw [List.takeWhile_cons_of_neg (by rw [hbeyond c rfl]; simp), List.append_nil]

theorem head?_ne_colon (hbeyond : IsBeyond isSpecial beyond) : beyond.head? ≠ some ':' := by
  intro h
  have hend := hbeyond ':' h
  revert isSpecial
  simp [endsAuthority, isSlash]

theorem splitHost_append (harea : IsArea isSpecial area) (hbeyond : IsBeyond isSpecial beyond)
    (inBrackets : Bool) :
    splitHost isSpecial inBrackets (area ++ beyond) =
      ((splitHost isSpecial inBrackets area).1,
        (splitHost isSpecial inBrackets area).2 ++ beyond) := by
  -- A colon may stand between brackets, so whether some are open is followed.
  induction area generalizing inBrackets with
  | nil =>
    cases beyond with
    | nil => rfl
    | cons c rest => simp [splitHost, hbeyond c rfl]
  | cons c area ih =>
    obtain ⟨hc, htail⟩ := List.forall_mem_cons.mp harea
    simp only [List.cons_append, splitHost, hc, Bool.false_or]
    split
    next => rfl
    next => rw [ih htail]

/-- A host and what follows it make up the text again. -/
theorem splitHost_eq (isSpecial inBrackets : Bool) (text : List Char) :
    (splitHost isSpecial inBrackets text).1 ++ (splitHost isSpecial inBrackets text).2 = text := by
  induction text generalizing inBrackets with
  | nil => rfl
  | cons c text ih =>
    simp only [splitHost]
    split
    next => rfl
    next => rw [List.cons_append, ih]

/-- Within the authority, only a colon comes after the host. -/
theorem colon_of_splitHost (harea : IsArea isSpecial area) (inBrackets : Bool) :
    ∀ c ∈ (splitHost isSpecial inBrackets area).2.head?, c = ':' := by
  induction area generalizing inBrackets with
  | nil => simp [splitHost]
  | cons c area ih =>
    obtain ⟨hc, htail⟩ := List.forall_mem_cons.mp harea
    simp only [splitHost, hc, Bool.false_or]
    split
    next hcolon =>
      simp only [Bool.and_eq_true, beq_iff_eq] at hcolon
      simp [hcolon.1]
    next => exact ih htail _

theorem IsArea.splitHost (harea : IsArea isSpecial area) (inBrackets : Bool) :
    IsArea isSpecial (splitHost isSpecial inBrackets area).2 :=
  harea.of_suffix ⟨_, splitHost_eq isSpecial inBrackets area⟩

end Extent

/-! ## A text behind the authority

Only the schemes `http`, `https`, `ws`, `wss` and `ftp` are followed from here on: their hosts
are never empty, so no check depends on whether something follows. -/

section Web

variable {area beyond : List Char}

theorem ofSpecial_ne_empty [DomainToAscii] {text : List Char} {host : Host}
    (h : Host.ofSpecial text = .ok host) : host ≠ .empty := by
  rintro rfl
  simp only [Host.ofSpecial, Host.ofBracketed] at h
  repeat' split at h
  all_goals cases h

/-- The host is never empty, so only its own text decides. -/
theorem readHost_web [DomainToAscii] (text : List Char) :
    readHost .web text =
      if (splitHost true false text).1.isEmpty then .error .emptyHost
      else (Host.ofSpecial (splitHost true false text).1).map
        fun host => (host, (splitHost true false text).2) := by
  unfold readHost
  simp only [SchemeKind.isSpecial, decide_true, Bool.true_and, reduceCtorEq, if_false]
  congr 1
  cases hhost : Host.ofSpecial (splitHost true false text).1 with
  | error fault => rfl
  | ok host =>
    have hempty : decide (host = Host.empty) = false := by simp [ofSpecial_ne_empty hhost]
    simp only [bind, Except.bind, hempty, Bool.false_and]
    rfl

theorem readHost_append [DomainToAscii] (harea : IsArea true area)
    (hbeyond : IsBeyond true beyond) :
    readHost .web (area ++ beyond) =
      (readHost .web area).map fun read => (read.1, read.2 ++ beyond) := by
  rw [readHost_web, readHost_web, splitHost_append harea hbeyond]
  split
  next => rfl
  next => cases Host.ofSpecial (splitHost true false area).1 <;> rfl

theorem readPortPart_colon (scheme more : List Char) :
    readPortPart scheme (':' :: more) =
      (readPort (more.takeWhile Letter.isAsciiDigit) (more.dropWhile Letter.isAsciiDigit)).map
        fun port => (if port = defaultPort? scheme then none else port,
          more.dropWhile Letter.isAsciiDigit) := by
  have hafter : more.drop (more.takeWhile Letter.isAsciiDigit).length =
      more.dropWhile Letter.isAsciiDigit := by
    have hdrop := List.prefix_iff_eq_append.mp (List.takeWhile_prefix (l := more)
      Letter.isAsciiDigit)
    exact List.append_cancel_left (hdrop.trans List.takeWhile_append_dropWhile.symm)
  simp only [readPortPart, hafter]
  cases readPort (more.takeWhile Letter.isAsciiDigit) (more.dropWhile Letter.isAsciiDigit) <;> rfl

theorem readPort_beyond (hbeyond : IsBeyond true beyond) (digits : List Char) :
    readPort digits beyond = readPort digits [] := by
  cases beyond with
  | nil => rfl
  | cons c rest =>
    have hover := endsAuthority_iff.mp (hbeyond c rfl)
    simp only [readPort, List.head?_cons, List.head?_nil, Option.map_some, Option.map_none, hover]
    rfl

theorem readPort_area {c : Char} (hc : endsAuthority true c = false) (digits rest : List Char) :
    readPort digits (c :: rest) = .error .port := by
  have hover : ['/', '\\', '?', '#'].contains c = false := by
    rw [← Bool.not_eq_true, ← endsAuthority_iff, hc]
    decide
  simp only [readPort, List.head?_cons, Option.map_some, hover]
  rfl

theorem takeWhile_digits_beyond (hbeyond : IsBeyond true beyond) :
    beyond.takeWhile Letter.isAsciiDigit = [] ∧ beyond.dropWhile Letter.isAsciiDigit = beyond := by
  cases beyond with
  | nil => exact ⟨rfl, rfl⟩
  | cons c rest =>
    have hend := endsAuthority_iff.mp (hbeyond c rfl)
    have hdigit : Letter.isAsciiDigit c = false := by
      simp only [List.contains_iff_mem, List.mem_cons, List.not_mem_nil, or_false] at hend
      rcases hend with rfl | rfl | rfl | rfl <;> rfl
    simp [hdigit]

/-- The digits of a port end where the authority does. -/
theorem readPortPart_append {rest : List Char} (hcolon : ∀ c ∈ rest.head?, c = ':')
    (hrest : IsArea true rest) (hbeyond : IsBeyond true beyond) (scheme : List Char) :
    readPortPart scheme (rest ++ beyond) =
      (readPortPart scheme rest).map fun read => (read.1, read.2 ++ beyond) := by
  obtain _ | ⟨c, more⟩ := rest
  · rw [List.nil_append]
    unfold readPortPart
    split
    next more heq => exact absurd rfl (head?_ne_colon hbeyond)
    next => rfl
  obtain rfl := hcolon c rfl
  have hmore : IsArea true more := (List.forall_mem_cons.mp hrest).2
  obtain ⟨htake, hdrop⟩ := takeWhile_digits_beyond hbeyond
  rw [List.cons_append, readPortPart_colon, readPortPart_colon]
  by_cases hall : ∀ c ∈ more, Letter.isAsciiDigit c = true
  · -- The port fills the rest of the authority.
    have hnone : more.dropWhile Letter.isAsciiDigit = [] := List.dropWhile_eq_nil_iff.mpr hall
    rw [List.takeWhile_append_of_pos hall, List.dropWhile_append_of_pos hall, htake, hdrop, hnone,
      List.append_nil, List.takeWhile_eq_self_iff.mpr hall, readPort_beyond hbeyond]
    cases readPort more [] <;> rfl
  · -- Something else stands in the authority behind the digits.
    obtain ⟨d, after, hafter⟩ : ∃ d after, more.dropWhile Letter.isAsciiDigit = d :: after :=
      List.exists_cons_of_ne_nil fun hnil => hall (List.dropWhile_eq_nil_iff.mp hnil)
    have hd : endsAuthority true d = false :=
      hmore d ((List.dropWhile_sublist _).subset (hafter ▸ List.mem_cons_self))
    rw [List.dropWhile_append, hafter]
    simp only [List.isEmpty_cons, Bool.false_eq_true, if_false, List.cons_append,
      readPort_area hd]
    rfl

theorem eq_of_cutAtLast? {c : Char} {text before after : List Char}
    (h : Text.cutAtLast? c text = some (before, after)) : text = before ++ c :: after := by
  induction text generalizing before with
  | nil => cases h
  | cons d text ih =>
    rw [Text.cutAtLast?] at h
    split at h
    next first rest hcut =>
      cases h
      rw [ih hcut, List.cons_append]
    next =>
      split at h
      next heq =>
        cases h
        rw [heq, List.nil_append]
      next => cases h

theorem suffix_splitLogin (area : List Char) : (splitLogin area).2 <:+ area := by
  unfold splitLogin
  split
  next login rest hcut =>
    rw [eq_of_cutAtLast? hcut]
    exact ⟨login ++ ['@'], by simp⟩
  next => exact List.suffix_refl _

/-- What a host is read from, and what it leaves. -/
theorem readHost_eq_ok [DomainToAscii] {text rest : List Char} {host : Host}
    (h : readHost .web text = .ok (host, rest)) :
    (splitHost true false text).1 ≠ [] ∧
      Host.ofSpecial (splitHost true false text).1 = .ok host ∧
      rest = (splitHost true false text).2 := by
  rw [readHost_web] at h
  split at h
  next => cases h
  next hne =>
    obtain ⟨read, hhost, heq⟩ := exists_of_map_eq_ok h
    cases heq
    exact ⟨by simpa using hne, hhost, rfl⟩

variable {scheme : List Char}

/-- The parts of an authority are read from the text before its end alone. -/
theorem readAuthority_web [DomainToAscii] (hkind : schemeKind scheme = .web)
    (harea : IsArea true area) (hbeyond : IsBeyond true beyond) :
    readAuthority scheme (area ++ beyond) =
      (readHost .web (splitLogin area).2).bind fun read =>
        (readPortPart scheme read.2).map fun port =>
          (⟨(((splitLogin area).1.map readLogin).getD ([], none)).1,
            (((splitLogin area).1.map readLogin).getD ([], none)).2, read.1, port.1⟩,
            port.2 ++ beyond) := by
  have hhost : IsArea true (splitLogin area).2 := harea.of_suffix (suffix_splitLogin area)
  simp only [readAuthority, hkind, SchemeKind.isSpecial, takeWhile_area harea hbeyond,
    List.drop_left]
  rw [readHost_append hhost hbeyond]
  by_cases hempty : (splitLogin area).2 = []
  · -- Without a text for the host it is refused, with or without a text behind.
    have herror : readHost .web (splitLogin area).2 = .error .emptyHost := by
      rw [hempty, readHost_web]
      rfl
    rw [herror]
    split <;> rfl
  have hgate : ((splitLogin area).2).isEmpty = false := by simpa using hempty
  simp only [hgate, Bool.and_false, Bool.false_and, Bool.false_eq_true, if_false]
  cases hread : readHost .web (splitLogin area).2 with
  | error fault => rfl
  | ok read =>
    obtain ⟨host, rest⟩ := read
    obtain ⟨-, hspecial, rfl⟩ := readHost_eq_ok hread
    have hport := readPortPart_append (colon_of_splitHost hhost false) (hhost.splitHost false)
      hbeyond scheme
    have hnone : decide (host = Host.empty) = false := by simp [ofSpecial_ne_empty hspecial]
    simp only [bind, Except.bind, Except.map, hport, hnone, Bool.false_and]
    cases readPortPart scheme (splitHost true false (splitLogin area).2).2 <;> rfl

/-- A text behind the end of an authority has no part in it. -/
theorem readAuthority_append [DomainToAscii] (hkind : schemeKind scheme = .web)
    (harea : IsArea true area) (hbeyond : IsBeyond true beyond) :
    readAuthority scheme (area ++ beyond) =
      (readAuthority scheme area).map fun read => (read.1, read.2 ++ beyond) := by
  have hself := readAuthority_web hkind harea isBeyond_nil
  rw [List.append_nil] at hself
  rw [readAuthority_web hkind harea hbeyond, hself]
  cases readHost .web (splitLogin area).2 with
  | error fault => rfl
  | ok read =>
    simp only [Except.bind]
    cases readPortPart scheme read.2 with
    | error fault => rfl
    | ok port => simp only [Except.map, List.append_nil]

end Web

/-! ## The end of a readable authority -/

section Last

variable {area : List Char} {c : Char}

theorem lt_of_isOuterBlank (h : isOuterBlank c = true) : c.toNat < 33 :=
  Nat.lt_succ_of_le (of_decide_eq_true h)

theorem endsAuthority_blank (h : isOuterBlank c = true) : endsAuthority true c = false :=
  Letter.forall_of_toNat_lt (p := fun c => endsAuthority true c = false) (by decide)
    (lt_of_isOuterBlank h)

/-- Blanks are refused as they stand: no escape and no digit has them as a part. -/
theorem blank_refused (h : isOuterBlank c = true) :
    Host.isForbiddenInName c = true ∧ Letter.asciiLower c = c ∧ c ≠ '%' ∧
      Digit.hexadecimal? c = none ∧ Letter.isAsciiDigit c = false ∧ c ≠ ':' := by
  refine Letter.forall_of_toNat_lt (p := fun c => Host.isForbiddenInName c = true ∧
    Letter.asciiLower c = c ∧ c ≠ '%' ∧ Digit.hexadecimal? c = none ∧
    Letter.isAsciiDigit c = false ∧ c ≠ ':') ?_ (lt_of_isOuterBlank h)
  decide

/-- Blanks and control characters are forbidden domain code points of the URL Standard, which makes
domain to ASCII fail. -/
def DomainToAscii.RefusesBlanks [DomainToAscii] : Prop :=
  ∀ text name, DomainToAscii.name? text = some name → ∀ c ∈ text, isOuterBlank c = false

/-- The names that are known without tables have no blanks. -/
theorem DomainToAscii.refusesBlanks_plain : DomainToAscii.plain.RefusesBlanks := by
  intro text name h c hc
  by_contra hblank
  rw [Bool.not_eq_false] at hblank
  obtain ⟨hforbidden, hlower, -⟩ := blank_refused hblank
  have hany : (text.map Letter.asciiLower).any
      (fun d => Host.isForbiddenInName d || d.toNat ≥ 0x80) = true :=
    List.any_eq_true.mpr ⟨c, hlower ▸ List.mem_map_of_mem hc, by rw [hforbidden, Bool.true_or]⟩
  change plainName? text = some name at h
  simp only [plainName?, hany, if_true, reduceCtorEq] at h

/-- A blank in the text of a host is a character of its name. -/
theorem blank_mem_name {text : List Char} {decoded : String} (hblank : isOuterBlank c = true)
    (hmem : c ∈ text) (hdecoded : Utf8.decode? (Percent.decode text) = some decoded) :
    c ∈ decoded.toList := by
  obtain ⟨-, -, hpercent, hdigit, -, -⟩ := blank_refused hblank
  have hascii : c.toNat < 0x80 := Nat.lt_trans (lt_of_isOuterBlank hblank) (by decide)
  have hoctets : Utf8.encodeChar c = [c.toNat.toUInt8] := by simp [Utf8.encodeChar, hascii]
  have hoctet : c.toNat.toUInt8 ∈ Percent.decode text :=
    Percent.mem_decode hpercent hdigit hmem (hoctets ▸ List.mem_cons_self)
  exact Utf8.mem_of_decode? hascii hdecoded hoctet

theorem last_of_ofSpecial [DomainToAscii] (hnames : DomainToAscii.RefusesBlanks)
    {text : List Char} {host : Host} (h : Host.ofSpecial text = .ok host)
    (hlast : text.getLast? = some c) : isOuterBlank c = false := by
  by_contra hblank
  rw [Bool.not_eq_false] at hblank
  rw [Host.ofSpecial.eq_def] at h
  -- An address in brackets, or else a name or an address in digits.
  split at h
  next rest =>
    -- The address in brackets would end in a bracket.
    rw [Host.ofBracketed] at h
    split at h
    next => cases h
    next inner hinner =>
      rw [Text.stripEnd?_eq_some_iff.mp hinner, ← List.cons_append, List.getLast?_concat] at hlast
      cases hlast
      cases hblank
  next =>
    split at h
    next => cases h
    next ascii hascii =>
      obtain ⟨decoded, hdecoded, hname⟩ := Option.bind_eq_some_iff.mp hascii
      have hmem := blank_mem_name hblank (List.mem_of_getLast? hlast) hdecoded
      rw [hnames _ _ hname c hmem] at hblank
      cases hblank

/-- What is left for the port is a colon and digits, if there is anything. -/
theorem last_of_readPortPart {scheme text left : List Char} {port : Option Nat}
    (hcolon : ∀ c ∈ text.head?, c = ':') (htext : IsArea true text)
    (h : readPortPart scheme text = .ok (port, left)) :
    left = [] ∧ ∀ c, text.getLast? = some c → isOuterBlank c = false := by
  obtain _ | ⟨d, more⟩ := text
  · cases h
    exact ⟨rfl, fun c hc => by cases hc⟩
  obtain rfl := hcolon d rfl
  rw [readPortPart_colon] at h
  cases hdrop : more.dropWhile Letter.isAsciiDigit with
  | cons d after =>
    have hd : endsAuthority true d = false :=
      htext d (List.mem_cons_of_mem _ ((List.dropWhile_sublist _).subset
        (hdrop ▸ List.mem_cons_self)))
    rw [hdrop, readPort_area hd] at h
    cases h
  | nil =>
    rw [hdrop] at h
    constructor
    · obtain ⟨read, -, heq⟩ := exists_of_map_eq_ok h
      cases heq
      rfl
    · intro c hc
      by_contra hblank
      rw [Bool.not_eq_false] at hblank
      obtain ⟨-, -, -, -, hdigit, hcolon⟩ := blank_refused hblank
      rcases List.mem_cons.mp (List.mem_of_getLast? hc) with heq | hmem
      · exact hcolon heq
      · rw [List.dropWhile_eq_nil_iff.mp hdrop c hmem] at hdigit
        cases hdigit

section Authority

variable [DomainToAscii] {scheme : List Char} {authority : Authority} {left : List Char}

/-- A readable authority is the text of a login, the text of a host, and what is read as a port. -/
theorem exists_of_readAuthority (hkind : schemeKind scheme = .web) (harea : IsArea true area)
    (h : readAuthority scheme area = .ok (authority, left)) :
    ∃ login hostText portText host port, area = login ++ (hostText ++ portText) ∧
      hostText ≠ [] ∧ Host.ofSpecial hostText = .ok host ∧
      (∀ c ∈ portText.head?, c = ':') ∧ IsArea true portText ∧
      readPortPart scheme portText = .ok (port, left) := by
  have hself := readAuthority_web hkind harea isBeyond_nil
  rw [List.append_nil, h] at hself
  obtain ⟨⟨host, rest⟩, hread, hself⟩ := exists_of_bind_eq_ok hself.symm
  obtain ⟨⟨port, after⟩, hport, hself⟩ := exists_of_map_eq_ok hself
  obtain ⟨hne, hspecial, rfl⟩ := readHost_eq_ok hread
  have hhost : IsArea true (splitLogin area).2 := harea.of_suffix (suffix_splitLogin area)
  obtain ⟨login, hlogin⟩ := suffix_splitLogin area
  rw [List.append_nil] at hself
  cases hself
  refine ⟨login, _, _, host, port, ?_, hne, hspecial, colon_of_splitHost hhost false,
    hhost.splitHost false, hport⟩
  rw [splitHost_eq, hlogin]

/-- A readable authority leaves nothing, and it has a text. -/
theorem left_of_readAuthority (hkind : schemeKind scheme = .web) (harea : IsArea true area)
    (h : readAuthority scheme area = .ok (authority, left)) : left = [] ∧ area ≠ [] := by
  obtain ⟨login, hostText, portText, host, port, rfl, hne, -, hcolon, hport, hread⟩ :=
    exists_of_readAuthority hkind harea h
  refine ⟨(last_of_readPortPart hcolon hport hread).1, ?_⟩
  simp [hne]

/-- The last character of a readable authority is no blank. -/
theorem last_of_readAuthority (hnames : DomainToAscii.RefusesBlanks)
    (hkind : schemeKind scheme = .web) (harea : IsArea true area)
    (h : readAuthority scheme area = .ok (authority, left)) {c : Char}
    (hlast : area.getLast? = some c) : isOuterBlank c = false := by
  obtain ⟨login, hostText, portText, host, port, rfl, hne, hspecial, hcolon, hport, hread⟩ :=
    exists_of_readAuthority hkind harea h
  -- The area ends in its port, or else in its host.
  rw [List.getLast?_append, List.getLast?_append] at hlast
  cases hend : portText.getLast? with
  | some d =>
    rw [hend] at hlast
    exact (last_of_readPortPart hcolon hport hread).2 c (hend.trans hlast)
  | none =>
    rw [hend, List.getLast?_eq_some_getLast hne] at hlast
    cases hlast
    exact last_of_ofSpecial hnames hspecial (List.getLast?_eq_some_getLast hne)

end Authority

end Last

end ApiToolkit.Url
