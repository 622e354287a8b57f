import ApiToolkit.Text.Letter
import ApiToolkit.Text.Percent
/-!
# Texts written as octets are read back

## What is inside

- `Letter.bounds_of_isAsciiAlphanumeric`: where the letters and digits of ASCII lie.
- `Utf8.scan_encodeChar`, `Utf8.decode?_encodeChars`, `Utf8.decodeLossy_encodeChars`: the octets of
  a text are read as that text.
- `Percent.mem_encode`, `Percent.kept_of_mem_encode`: the characters of an escaped text.
- `Percent.decode_encode`: an escaped text stands for the octets of the text.
-/

namespace ApiToolkit

/-- What the characters below a bound have in common is found by going through them. -/
theorem Letter.forall_of_toNat_lt {bound : Nat} {p : Char → Prop}
    (h : ∀ n < bound, p (Char.ofNat n)) {c : Char} (hc : c.toNat < bound) : p c := by
  have hp := h c.toNat hc
  rwa [Char.ofNat_toNat] at hp

/-- Letters and digits of ASCII lie between the digit 0 and the small letter z. -/
theorem Letter.bounds_of_isAsciiAlphanumeric {c : Char} (h : isAsciiAlphanumeric c = true) :
    '0'.toNat ≤ c.toNat ∧ c.toNat ≤ 'z'.toNat := by
  have hrun : ('A' ≤ c ∧ c ≤ 'Z') ∨ ('a' ≤ c ∧ c ≤ 'z') ∨ ('0' ≤ c ∧ c ≤ '9') := by
    simpa [isAsciiAlphanumeric, isAsciiLetter, isAsciiUpper, isAsciiLower, isAsciiDigit,
      or_assoc] using h
  have hbounds : ∀ {first last : Char}, first ≤ c ∧ c ≤ last →
      first.toNat ≤ c.toNat ∧ c.toNat ≤ last.toNat := fun ⟨hfirst, hlast⟩ =>
    ⟨UInt32.le_iff_toNat_le.mp (Char.le_def.mp hfirst),
      UInt32.le_iff_toNat_le.mp (Char.le_def.mp hlast)⟩
  rcases hrun with hrun | hrun | hrun
  · exact ⟨Nat.le_trans (by decide) (hbounds hrun).1, Nat.le_trans (hbounds hrun).2 (by decide)⟩
  · exact ⟨Nat.le_trans (by decide) (hbounds hrun).1, (hbounds hrun).2⟩
  · exact ⟨(hbounds hrun).1, Nat.le_trans (hbounds hrun).2 (by decide)⟩

/-! ## Octets of characters -/

namespace Utf8

theorem scan_cons {b : UInt8} {lead : Lead} (h : Lead.ofOctet? b.toNat = some lead)
    (rest : List UInt8) :
    scan (b :: rest) =
      (readTail lead.more lead.low lead.high lead.bits rest).1.map Char.ofNat ::
        scan (readTail lead.more lead.low lead.high lead.bits rest).2 := by
  rw [scan]
  split
  next heq => rw [h] at heq; cases heq
  next read heq => rw [h] at heq; cases heq; rfl

theorem readTail_cons {low high b : Nat} (hb : b < 256) (hlow : low ≤ b) (hhigh : b ≤ high)
    (more bits : Nat) (rest : List UInt8) :
    readTail (more + 1) low high bits (b.toUInt8 :: rest) =
      readTail more 0x80 0xBF (bits * 64 + (b - 0x80)) rest := by
  have htoNat : b.toUInt8.toNat = b := Nat.mod_eq_of_lt hb
  rw [readTail, htoNat, if_pos ⟨hlow, hhigh⟩]

/-- The first octet of a character of three octets announces the others, and the second one is
within its bounds.  Overlong forms and surrogates are not. -/
theorem ofOctet?_of_three {n : Nat} (hlow : 0x800 ≤ n) (hhigh : n < 0x10000)
    (hvalid : n < 0xD800 ∨ 0xDFFF < n) :
    ∃ low high, Lead.ofOctet? (0xE0 + n / 4096) = some ⟨n / 4096, 2, low, high⟩ ∧
      low ≤ 0x80 + n / 64 % 64 ∧ 0x80 + n / 64 % 64 ≤ high := by
  unfold Lead.ofOctet?
  -- Behind 0xE0 stand no overlong forms and behind 0xED no surrogates.
  by_cases hfirst : n / 4096 = 0
  · refine ⟨0xA0, 0xBF, ?_, by omega, by omega⟩
    simp [hfirst]
  by_cases hsurrogate : n / 4096 = 0xD
  · refine ⟨0x80, 0x9F, ?_, by omega, by omega⟩
    simp [hsurrogate]
  · refine ⟨0x80, 0xBF, ?_, by omega, by omega⟩
    rw [if_neg (by omega), if_neg (by omega), if_neg (by omega), if_neg (by omega),
      if_neg (by omega), if_pos (by omega), Nat.add_sub_cancel_left]

theorem ofOctet?_of_four {n : Nat} (hlow : 0x10000 ≤ n) (hhigh : n < 0x110000) :
    ∃ low high, Lead.ofOctet? (0xF0 + n / 262144) = some ⟨n / 262144, 3, low, high⟩ ∧
      low ≤ 0x80 + n / 4096 % 64 ∧ 0x80 + n / 4096 % 64 ≤ high := by
  unfold Lead.ofOctet?
  -- Behind 0xF0 stand no overlong forms and behind 0xF4 nothing above the last character.
  by_cases hfirst : n / 262144 = 0
  · refine ⟨0x90, 0xBF, ?_, by omega, by omega⟩
    simp [hfirst]
  by_cases hlast : n / 262144 = 4
  · refine ⟨0x80, 0x8F, ?_, by omega, by omega⟩
    simp [hlast]
  · refine ⟨0x80, 0xBF, ?_, by omega, by omega⟩
    rw [if_neg (by omega), if_neg (by omega), if_neg (by omega), if_neg (by omega),
      if_neg (by omega), if_neg (by omega), if_neg (by omega), if_pos (by omega),
      Nat.add_sub_cancel_left]

theorem toNat_toUInt8 {n : Nat} (h : n < 256) : n.toUInt8.toNat = n := Nat.mod_eq_of_lt h

/-- The octets of a character are read as that character, whatever follows them. -/
theorem scan_encodeChar (c : Char) (rest : List UInt8) :
    scan (encodeChar c ++ rest) = some c :: scan rest := by
  have hvalid : c.toNat < 0xD800 ∨ (0xDFFF < c.toNat ∧ c.toNat < 0x110000) := c.valid
  have hchar : Char.ofNat c.toNat = c := Char.ofNat_toNat c
  unfold encodeChar
  generalize c.toNat = n at hvalid hchar
  simp only
  -- One case for each number of octets; the bits of the octets make up the number again.
  split
  next hone =>
    have hlead : Lead.ofOctet? n.toUInt8.toNat = some ⟨n, 0, 0x80, 0xBF⟩ := by
      rw [toNat_toUInt8 (by omega), Lead.ofOctet?, if_pos hone]
    rw [List.singleton_append, scan_cons hlead, readTail, Option.map_some, hchar]
  next hone =>
    split
    next htwo =>
      have hlead : Lead.ofOctet? (0xC0 + n / 64).toUInt8.toNat = some ⟨n / 64, 1, 0x80, 0xBF⟩ := by
        rw [toNat_toUInt8 (by omega), Lead.ofOctet?, if_neg (by omega), if_neg (by omega),
          if_pos (by omega), Nat.add_sub_cancel_left]
      have hlast : 0x80 ≤ 0x80 + n % 64 ∧ 0x80 + n % 64 ≤ 0xBF := by omega
      have hbits : n / 64 * 64 + (0x80 + n % 64 - 0x80) = n := by omega
      rw [List.cons_append, List.singleton_append, scan_cons hlead,
        readTail_cons (by omega) hlast.1 hlast.2, hbits, readTail, Option.map_some, hchar]
    next htwo =>
      split
      next hthree =>
        obtain ⟨low, high, hfirst, hlow, hhigh⟩ := ofOctet?_of_three (n := n) (by omega) hthree
          (by omega)
        have hlead : Lead.ofOctet? (0xE0 + n / 4096).toUInt8.toNat =
            some ⟨n / 4096, 2, low, high⟩ := by
          rw [toNat_toUInt8 (by omega), hfirst]
        have hbits : (n / 4096 * 64 + (0x80 + n / 64 % 64 - 0x80)) * 64 +
            (0x80 + n % 64 - 0x80) = n := by omega
        simp only [List.cons_append, List.nil_append]
        rw [scan_cons hlead, readTail_cons (by omega) hlow hhigh,
          readTail_cons (by omega) (by omega) (by omega), hbits, readTail, Option.map_some, hchar]
      next hthree =>
        obtain ⟨low, high, hfirst, hlow, hhigh⟩ := ofOctet?_of_four (n := n) (by omega) (by omega)
        have hlead : Lead.ofOctet? (0xF0 + n / 262144).toUInt8.toNat =
            some ⟨n / 262144, 3, low, high⟩ := by
          rw [toNat_toUInt8 (by omega), hfirst]
        have hbits : ((n / 262144 * 64 + (0x80 + n / 4096 % 64 - 0x80)) * 64 +
            (0x80 + n / 64 % 64 - 0x80)) * 64 + (0x80 + n % 64 - 0x80) = n := by omega
        simp only [List.cons_append, List.nil_append]
        rw [scan_cons hlead, readTail_cons (by omega) hlow hhigh,
          readTail_cons (by omega) (by omega) (by omega),
          readTail_cons (by omega) (by omega) (by omega), hbits, readTail, Option.map_some, hchar]

theorem scan_encodeChars (text : List Char) : scan (text.flatMap encodeChar) = text.map some := by
  induction text with
  | nil => rw [List.flatMap_nil, scan, List.map_nil]
  | cons c text ih => rw [List.flatMap_cons, scan_encodeChar, ih, List.map_cons]

/-- The octets of a text are well formed and read as that text. -/
theorem decode?_encodeChars (text : List Char) :
    decode? (text.flatMap encodeChar) = some (String.ofList text) := by
  have hall : (text.map some).mapM id = some text := by
    induction text with
    | nil => rfl
    | cons c text ih => simp [List.mapM_cons, ih]
  rw [decode?, scan_encodeChars, hall, Option.map_some]

/-- Nothing in the octets of a text is ill-formed. -/
theorem decodeLossy_encodeChars (text : List Char) :
    decodeLossy (text.flatMap encodeChar) = String.ofList text := by
  rw [decodeLossy, scan_encodeChars, List.map_map]
  exact congrArg String.ofList (List.map_id text)

/-- Texts with the same octets are the same. -/
theorem encodeChars_inj {text other : List Char}
    (h : text.flatMap encodeChar = other.flatMap encodeChar) : text = other := by
  have hread := congrArg decode? h
  rw [decode?_encodeChars, decode?_encodeChars, Option.some.injEq] at hread
  rw [← String.toList_ofList (l := text), hread, String.toList_ofList]

/-! ## Octets that are read -/

theorem low_of_ofOctet? {n : Nat} {lead : Lead} (h : Lead.ofOctet? n = some lead) :
    0x80 ≤ lead.low := by
  unfold Lead.ofOctet? at h
  repeat' split at h
  all_goals first
    | exact absurd h (Option.some_ne_none _).symm
    | (obtain rfl := Option.some.inj h; dsimp only; omega)

theorem mem_readTail {b : UInt8} (hb : b.toNat < 0x80) {octets : List UInt8} (hmem : b ∈ octets)
    {low : Nat} (hlow : 0x80 ≤ low) (more high bits : Nat) :
    b ∈ (readTail more low high bits octets).2 := by
  induction more generalizing low high bits octets with
  | zero => exact hmem
  | succ more ih =>
    obtain _ | ⟨first, rest⟩ := octets
    · cases hmem
    rw [readTail]
    split
    next hbounds =>
      -- What a character takes is not below `low`.
      have hne : b ≠ first := by
        rintro rfl
        omega
      exact ih ((List.mem_cons.mp hmem).resolve_left hne) (Nat.le_refl _) _ _
    next => exact hmem

theorem ofOctet?_of_lt {n : Nat} (h : n < 0x80) : Lead.ofOctet? n = some ⟨n, 0, 0x80, 0xBF⟩ :=
  if_pos h

/-- An octet below 0x80 is a character of its own, wherever it stands. -/
theorem mem_scan {b : UInt8} (hb : b.toNat < 0x80) {octets : List UInt8} (hmem : b ∈ octets) :
    some (Char.ofNat b.toNat) ∈ scan octets := by
  fun_induction scan octets with
  | case1 => cases hmem
  | case2 first rest hlead ih =>
    -- The octet that begins no character is another one.
    have hne : b ≠ first := by
      rintro rfl
      rw [ofOctet?_of_lt hb] at hlead
      cases hlead
    exact List.mem_cons_of_mem _ (ih ((List.mem_cons.mp hmem).resolve_left hne))
  | case3 first rest lead hlead hle read ih =>
    rcases List.mem_cons.mp hmem with rfl | hrest
    · rw [ofOctet?_of_lt hb] at hlead
      obtain rfl := Option.some.inj hlead
      exact List.mem_cons_self
    · exact List.mem_cons_of_mem _ (ih (mem_readTail hb hrest (low_of_ofOctet? hlead) _ _ _))

theorem eq_of_mapM_id {chars : List Char} {scanned : List (Option Char)}
    (h : scanned.mapM id = some chars) : scanned = chars.map some := by
  induction scanned generalizing chars with
  | nil =>
    obtain rfl : [] = chars := Option.some.inj h
    rfl
  | cons c scanned ih =>
    rw [List.mapM_cons] at h
    obtain ⟨first, hfirst, h⟩ := Option.bind_eq_some_iff.mp h
    obtain ⟨rest, hrest, h⟩ := Option.bind_eq_some_iff.mp h
    obtain rfl : first :: rest = chars := Option.some.inj h
    rw [ih hrest, List.map_cons, ← hfirst, id]

theorem scan_of_decode? {octets : List UInt8} {text : String} (h : decode? octets = some text) :
    scan octets = text.toList.map some := by
  obtain ⟨chars, hchars, rfl⟩ := Option.map_eq_some_iff.mp h
  rw [String.toList_ofList]
  exact eq_of_mapM_id hchars

theorem mem_of_decode? {c : Char} (hc : c.toNat < 0x80) {octets : List UInt8} {text : String}
    (h : decode? octets = some text) (hmem : c.toNat.toUInt8 ∈ octets) : c ∈ text.toList := by
  have hoctet : c.toNat.toUInt8.toNat = c.toNat := toNat_toUInt8 (by omega)
  have hscan := mem_scan (by omega) hmem
  rw [hoctet, Char.ofNat_toNat, scan_of_decode? h] at hscan
  simpa using hscan

end Utf8

/-! ## Escapes -/

namespace Percent

theorem hexadecimal?_hexDigit {n : Nat} (h : n < 16) :
    Digit.hexadecimal? (hexDigit n) = some n := by
  revert n
  decide

theorem decode_escape (octet : UInt8) (rest : List Char) :
    decode (escape octet ++ rest) = octet :: decode rest := by
  have hoctet : octet.toNat < 256 := octet.toNat_lt
  have hhigh := hexadecimal?_hexDigit (n := octet.toNat / 16) (by omega)
  have hlow := hexadecimal?_hexDigit (n := octet.toNat % 16) (by omega)
  have hsum : octet.toNat / 16 * 16 + octet.toNat % 16 = octet.toNat := by omega
  simp only [escape, List.cons_append, List.nil_append, decode, if_true, hhigh, hlow, hsum]
  simp

theorem decode_escapes (octets : List UInt8) (rest : List Char) :
    decode (octets.flatMap escape ++ rest) = octets ++ decode rest := by
  induction octets with
  | nil => rfl
  | cons octet octets ih =>
    rw [List.flatMap_cons, List.append_assoc, decode_escape, ih, List.cons_append]

/-- Only a percent sign begins an escape. -/
theorem decode_cons {c : Char} (h : c ≠ '%') (rest : List Char) :
    decode (c :: rest) = Utf8.encodeChar c ++ decode rest := by
  match rest with
  | [] => rfl
  | [_] => rfl
  | _ :: _ :: _ => rw [decode, if_neg h]

variable {keeps : Char → Bool}

theorem decode_encodeChar (hpercent : keeps '%' = false) (c : Char) (rest : List Char) :
    decode (encodeChar keeps c ++ rest) = Utf8.encodeChar c ++ decode rest := by
  unfold encodeChar
  split
  next hkept =>
    have hne : c ≠ '%' := by
      rintro rfl
      simp [hpercent] at hkept
    exact decode_cons hne rest
  next => exact decode_escapes _ rest

/-- An escaped text stands for the octets of the text, if percent signs are escaped. -/
theorem decode_encode (hpercent : keeps '%' = false) (text : List Char) :
    decode (encode keeps text) = text.flatMap Utf8.encodeChar := by
  induction text with
  | nil => rfl
  | cons c text ih =>
    have hcons : encode keeps (c :: text) = encodeChar keeps c ++ encode keeps text :=
      List.flatMap_cons
    rw [hcons, decode_encodeChar hpercent, ih, List.flatMap_cons]

/-- An escaped text has characters of the class, percent signs and digits. -/
theorem mem_encode {text : List Char} {d : Char} (h : d ∈ encode keeps text) :
    (d.toNat < 0x80 ∧ keeps d = true) ∨ d = '%' ∨ ∃ n < 16, d = hexDigit n := by
  obtain ⟨c, -, hd⟩ := List.mem_flatMap.mp h
  unfold encodeChar at hd
  split at hd
  next hkept =>
    rw [List.mem_singleton] at hd
    rw [Bool.and_eq_true, decide_eq_true_eq] at hkept
    exact .inl (hd ▸ hkept)
  next =>
    obtain ⟨octet, -, hd⟩ := List.mem_flatMap.mp hd
    have hoctet : octet.toNat < 256 := octet.toNat_lt
    simp only [escape, List.mem_cons, List.not_mem_nil, or_false] at hd
    rcases hd with rfl | rfl | rfl
    · exact .inr (.inl rfl)
    · exact .inr (.inr ⟨octet.toNat / 16, by omega, rfl⟩)
    · exact .inr (.inr ⟨octet.toNat % 16, by omega, rfl⟩)

theorem isAsciiAlphanumeric_hexDigit {n : Nat} (h : n < 16) :
    (hexDigit n).toNat < 0x80 ∧ Letter.isAsciiAlphanumeric (hexDigit n) = true := by
  revert n
  decide

/-- If a class has the letters and digits, an escaped text has its characters and percent signs
only. -/
theorem kept_of_mem_encode (hkeeps : ∀ c, Letter.isAsciiAlphanumeric c = true → keeps c = true)
    {text : List Char} {d : Char} (h : d ∈ encode keeps text) :
    d.toNat < 0x80 ∧ (keeps d = true ∨ d = '%') := by
  rcases mem_encode h with ⟨hascii, hkept⟩ | rfl | ⟨n, hn, rfl⟩
  · exact ⟨hascii, .inl hkept⟩
  · exact ⟨by decide, .inr rfl⟩
  · obtain ⟨hascii, halphanumeric⟩ := isAsciiAlphanumeric_hexDigit hn
    exact ⟨hascii, .inl (hkeeps _ halphanumeric)⟩

/-- A text of characters of the class is kept. -/
theorem encode_of_forall {text : List Char}
    (h : ∀ c ∈ text, c.toNat < 0x80 ∧ keeps c = true) : encode keeps text = text := by
  induction text with
  | nil => rfl
  | cons c text ih =>
    obtain ⟨hc, htext⟩ := List.forall_mem_cons.mp h
    have hcons : encode keeps (c :: text) = encodeChar keeps c ++ encode keeps text :=
      List.flatMap_cons
    rw [hcons, ih htext, encodeChar, if_pos (by simp [hc]), List.singleton_append]

/-- A character that no escape has as a part stands for its own octets. -/
theorem mem_decode {c : Char} (hpercent : c ≠ '%') (hdigit : Digit.hexadecimal? c = none)
    {text : List Char} (hmem : c ∈ text) : Utf8.encodeChar c ⊆ decode text := by
  fun_induction decode text with
  | case1 => cases hmem
  | case2 a b rest high low hlow hhigh ih =>
    -- The character is no part of this escape.
    have ha : c ≠ a := fun h => by rw [← h, hdigit] at hhigh; cases hhigh
    have hb : c ≠ b := fun h => by rw [← h, hdigit] at hlow; cases hlow
    have hrest : c ∈ rest := by simpa [hpercent, ha, hb] using hmem
    exact List.subset_cons_of_subset _ (ih hrest)
  | case3 a b rest hno ih =>
    have hrest : c ∈ a :: b :: rest := by simpa [hpercent] using hmem
    exact List.subset_append_of_subset_right _ (ih hrest)
  | case4 d a b rest hd ih =>
    rcases List.mem_cons.mp hmem with rfl | hrest
    · exact List.subset_append_left _ _
    · exact List.subset_append_of_subset_right _ (ih hrest)
  | case5 d rest hshort ih =>
    rcases List.mem_cons.mp hmem with rfl | hrest
    · exact List.subset_append_left _ _
    · exact List.subset_append_of_subset_right _ (ih hrest)

end Percent

end ApiToolkit
