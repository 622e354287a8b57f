/-!
# UTF-8

Texts are exchanged with files, pipes and the network as octets.

## What is inside

- `Utf8.encodeChar`, `Utf8.encode`: the octets of a text.
- `Utf8.scan`: reads octets as characters and ill-formed parts.  A part is as long as it can be
  while it still begins some well-formed sequence.
- `Utf8.decode?` refuses ill-formed parts, `Utf8.decodeLossy` writes U+FFFD for each of them.
-/

namespace ApiToolkit.Utf8

/-! ## Writing -/

/-- The octets of one character. -/
def encodeChar (c : Char) : List UInt8 :=
  let n := c.toNat
  if n < 0x80 then [n.toUInt8]
  else if n < 0x800 then [(0xC0 + n / 64).toUInt8, (0x80 + n % 64).toUInt8]
  else if n < 0x10000 then
    [(0xE0 + n / 4096).toUInt8, (0x80 + n / 64 % 64).toUInt8, (0x80 + n % 64).toUInt8]
  else
    [(0xF0 + n / 262144).toUInt8, (0x80 + n / 4096 % 64).toUInt8,
      (0x80 + n / 64 % 64).toUInt8, (0x80 + n % 64).toUInt8]

/-- The octets of a text. -/
def encode (text : String) : List UInt8 := text.toList.flatMap encodeChar

/-! ## Reading -/

/-- What a first octet announces: the bits it carries, how many octets follow, and the bounds of
the octet that follows at once.  Later octets are always between 0x80 and 0xBF. -/
structure Lead where
  /-- The bits that the first octet carries. -/
  bits : Nat
  /-- How many octets follow. -/
  more : Nat
  /-- The least second octet. -/
  low : Nat
  /-- The greatest second octet. -/
  high : Nat

/-- Reads a first octet.  The bounds exclude overlong forms, surrogates and numbers past
U+10FFFF. -/
def Lead.ofOctet? (b : Nat) : Option Lead :=
  if b < 0x80 then some ⟨b, 0, 0x80, 0xBF⟩
  else if b < 0xC2 then none
  else if b < 0xE0 then some ⟨b - 0xC0, 1, 0x80, 0xBF⟩
  else if b = 0xE0 then some ⟨0, 2, 0xA0, 0xBF⟩
  else if b = 0xED then some ⟨0xD, 2, 0x80, 0x9F⟩
  else if b < 0xF0 then some ⟨b - 0xE0, 2, 0x80, 0xBF⟩
  else if b = 0xF0 then some ⟨0, 3, 0x90, 0xBF⟩
  else if b < 0xF4 then some ⟨b - 0xF0, 3, 0x80, 0xBF⟩
  else if b = 0xF4 then some ⟨4, 3, 0x80, 0x8F⟩
  else none

/-- Reads the octets after the first one.  The result is the character's number, or `none` where
an octet does not fit; that octet is left in the rest. -/
def readTail (more low high bits : Nat) (octets : List UInt8) : Option Nat × List UInt8 :=
  match more, octets with
  | 0, rest => (some bits, rest)
  | _ + 1, [] => (none, [])
  | n + 1, b :: rest =>
    if low ≤ b.toNat ∧ b.toNat ≤ high then readTail n 0x80 0xBF (bits * 64 + (b.toNat - 0x80)) rest
    else (none, b :: rest)

/-- Reading the octets after a first one leaves no more than there were. -/
theorem length_readTail_le (more low high bits : Nat) (octets : List UInt8) :
    (readTail more low high bits octets).2.length ≤ octets.length := by
  induction more generalizing low high bits octets with
  | zero => simp [readTail]
  | succ n ih =>
    cases octets with
    | nil => simp [readTail]
    | cons b rest =>
      simp only [readTail]
      split
      · exact Nat.le_succ_of_le (ih ..)
      · exact Nat.le_refl _

/-- The characters and the ill-formed parts (`none`) of an octet sequence. -/
def scan (octets : List UInt8) : List (Option Char) :=
  match octets with
  | [] => []
  | b :: rest =>
    match Lead.ofOctet? b.toNat with
    | none => none :: scan rest
    | some lead =>
      have := length_readTail_le lead.more lead.low lead.high lead.bits rest
      let read := readTail lead.more lead.low lead.high lead.bits rest
      read.1.map Char.ofNat :: scan read.2
termination_by octets.length
decreasing_by
  · simp
  · exact Nat.lt_succ_of_le this

/-- The text that is written with these octets, if they are well formed. -/
def decode? (octets : List UInt8) : Option String := ((scan octets).mapM id).map String.ofList

/-- The text with U+FFFD in place of each ill-formed part. -/
def decodeLossy (octets : List UInt8) : String :=
  String.ofList ((scan octets).map (·.getD (Char.ofNat 0xFFFD)))

end ApiToolkit.Utf8
