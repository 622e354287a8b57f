import ApiToolkit.Text.Letter
import ApiToolkit.Text.Percent
import ApiToolkit.Text.Search
/-!
# Hosts

The host of a URL is a name, an address of four numbers or an address of eight numbers.

## What is inside

- `Url.Fault`: why a text is no URL.
- `Url.Host`, `Url.Host.text`: hosts and how they are written.
- `Url.DomainToAscii`: what names come to in ASCII.
- `Url.Host.ofSpecial`, `Url.Host.ofOther`: hosts of the schemes that the web treats alike, and of
  all other schemes.
-/

namespace ApiToolkit.Url

/-- Why a text is no URL. -/
inductive Fault where
  | noScheme
  | emptyHost
  | port
  | ipv6
  | ipv4
  | internationalName
  | nameCharacter
deriving DecidableEq, Repr

/-- The explanation of a fault. -/
def Fault.message : Fault → String
  | .noScheme => "relative URL without a base"
  | .emptyHost => "empty host"
  | .port => "invalid port number"
  | .ipv6 => "invalid IPv6 address"
  | .ipv4 => "invalid IPv4 address"
  | .internationalName => "invalid international domain name"
  | .nameCharacter => "invalid domain character"

/-- The host of a URL. -/
inductive Host where
  /-- No name at all. -/
  | empty
  /-- A name. -/
  | name (text : List Char)
  /-- An address of 32 bits. -/
  | ipv4 (address : Nat)
  /-- An address of eight numbers of 16 bits each. -/
  | ipv6 (pieces : List Nat)
deriving DecidableEq, Repr

namespace Host

/-! ## Addresses of four numbers -/

/-- A part of an address: hexadecimal after `0x`, octal after a zero, decimal otherwise. -/
def ipv4Part? (part : List Char) : Option Nat :=
  match part with
  | [] => none
  | '0' :: 'x' :: digits | '0' :: 'X' :: digits => Digit.number? 16 digits
  | '0' :: c :: digits => Digit.number? 8 (c :: digits)
  | digits => Digit.number? 10 digits

/-- Whether the last part of a name makes it an address. -/
def endsInNumber (name : List Char) : Bool :=
  let parts := (Text.splitBy (· == '.') name).reverse
  match parts with
  | [] :: [] => false
  | [] :: last :: _ | last :: _ =>
    (!last.isEmpty && last.all Letter.isAsciiDigit) || (ipv4Part? last).isSome
  | [] => false

/-- The address with these parts.  The last part fills all bits that the others leave. -/
def ipv4OfParts? (parts : List Nat) : Option Nat :=
  match parts.reverse with
  | [] => none
  | last :: before =>
    let others := before.reverse
    if others.length > 3 || last ≥ Nat.pow 256 (4 - others.length) ||
        others.any (· ≥ 256) then none
    else
      some (others.zipIdx.foldl (fun sum (part, i) => sum + part * Nat.pow 256 (3 - i)) last)

/-- Reads an address of four numbers, of which the last may be left out by a final point. -/
def ipv4? (name : List Char) : Option Nat := do
  let parts := Text.splitBy (· == '.') name
  let parts := if parts.getLast? = some [] then parts.dropLast else parts
  if parts.length > 4 then none
  else
    let numbers ← parts.mapM ipv4Part?
    ipv4OfParts? numbers

/-- Writes an address as four decimal numbers. -/
def ipv4Text (address : Nat) : List Char :=
  Text.joinWith ['.']
    ([3, 2, 1, 0].map fun i => Nat.toDigits 10 (address / Nat.pow 256 i % 256))

/-! ## Addresses of eight numbers -/

/-- A decimal number below 256 without leading zeros. -/
def ipv6Decimal? (digits : List Char) : Option Nat :=
  match digits with
  | [] => none
  | ['0'] => some 0
  | '0' :: _ => none
  | digits => (if digits.length ≤ 3 then Digit.number? 10 digits else none).filter (· < 256)

/-- Two numbers for an address of four numbers at the end. -/
def ipv6Tail? (text : List Char) : Option (List Nat) := do
  match ← (Text.splitBy (· == '.') text).mapM ipv6Decimal? with
  | [a, b, c, d] => some [a * 256 + b, c * 256 + d]
  | _ => none

/-- Up to four hexadecimal digits. -/
def ipv6Piece? (digits : List Char) : Option Nat :=
  if digits.isEmpty || digits.length > 4 then none else Digit.number? 16 digits

/-- Numbers between colons, of which the last may be an address of four numbers. -/
def ipv6Pieces? (parts : List (List Char)) (mayEndInIpv4 : Bool) : Option (List Nat) :=
  match parts with
  | [] => some []
  | [last] =>
    if mayEndInIpv4 && last.contains '.' then ipv6Tail? last
    else (ipv6Piece? last).map fun n => [n]
  | part :: rest => do
    let piece ← ipv6Piece? part
    let pieces ← ipv6Pieces? rest mayEndInIpv4
    some (piece :: pieces)

/-- The parts between colons; an empty text has none. -/
def colonParts (text : List Char) : List (List Char) :=
  if text.isEmpty then [] else Text.splitBy (· == ':') text

/-- Cuts at the first two colons in a row. -/
def cutAtGap? (text : List Char) : Option (List Char × List Char) :=
  match text with
  | ':' :: ':' :: rest => some ([], rest)
  | c :: rest => (cutAtGap? rest).map fun (before, after) => (c :: before, after)
  | [] => none

/-- Reads an address of eight numbers.  Two colons stand for as many zeros as are missing. -/
def ipv6? (text : List Char) : Option (List Nat) :=
  match cutAtGap? text with
  | none => (ipv6Pieces? (colonParts text) true).filter (·.length == 8)
  | some (before, after) => do
    let left ← ipv6Pieces? (colonParts before) false
    let right ← ipv6Pieces? (colonParts after) true
    let known := left.length + right.length
    -- Two colons stand for at least one number.
    if known < 8 then some (left ++ List.replicate (8 - known) 0 ++ right) else none

/-- How many zeros a list begins with. -/
def leadingZeros (pieces : List Nat) : Nat := (pieces.takeWhile (· == 0)).length

/-- The start and the length of the first longest run of zeros. -/
def longestZeros (start : Nat) (pieces : List Nat) : Nat × Nat :=
  match pieces with
  | [] => (start, 0)
  | piece :: rest =>
    let here := leadingZeros (piece :: rest)
    let later := longestZeros (start + 1) rest
    if here ≥ later.2 then (start, here) else later

/-- Writes an address of eight numbers.  Of two or more zeros in a row the longest run is left
out. -/
def ipv6Text (pieces : List Nat) : List Char :=
  let hex (ns : List Nat) := Text.joinWith [':'] (ns.map (Nat.toDigits 16))
  let (start, length) := longestZeros 0 pieces
  if length < 2 then hex pieces
  else hex (pieces.take start) ++ [':', ':'] ++ hex (pieces.drop (start + length))

/-! ## Characters -/

/-- Characters that no host contains. -/
def isForbidden (c : Char) : Bool :=
  ['\x00', '\t', '\n', '\r', ' ', '#', '/', ':', '<', '>', '?', '@', '[', '\\', ']', '^',
    '|'].contains c

/-- Characters that no name contains. -/
def isForbiddenInName (c : Char) : Bool :=
  isForbidden c || c.toNat < 0x20 || c == '%' || c.toNat == 0x7F

end Host

/-! ## Names -/

/-- Domain to ASCII of the URL Standard: labels in other scripts are mapped, checked and written in
Punycode, and names with characters that no name contains are refused.  That takes tables of
Unicode, which are left open here: hosts are read over any of them. -/
class DomainToAscii where
  /-- What a name comes to in ASCII, unless it is refused. -/
  name? (text : List Char) : Option (List Char)

/-- A label in Punycode. -/
def isPunycode (label : List Char) : Bool := Text.startsWith ['x', 'n', '-', '-'] label

/-- ASCII names without labels in Punycode need no tables: they are lowered. -/
def plainName? (text : List Char) : Option (List Char) :=
  let name := text.map Letter.asciiLower
  if name.any fun c => Host.isForbiddenInName c || c.toNat ≥ 0x80 then none
  else if (Text.splitBy (· == '.') name).any isPunycode then none
  else some name

/-- The names that are known without tables. -/
instance DomainToAscii.plain : DomainToAscii where
  name? := plainName?

namespace Host

/-! ## Hosts -/

/-- The address between brackets. -/
def ofBracketed (text : List Char) : Except Fault Host :=
  match Text.stripEnd? [']'] text with
  | none => .error .ipv6
  | some inner =>
    match ipv6? inner with
    | none => .error .ipv6
    | some pieces => .ok (.ipv6 pieces)

/-- Reads the host of a scheme that the web treats alike.  Names are brought into ASCII, and names
that end in a number are addresses. -/
def ofSpecial [DomainToAscii] (text : List Char) : Except Fault Host :=
  match text with
  | '[' :: rest => ofBracketed rest
  | _ =>
    match (Utf8.decode? (Percent.decode text)).bind fun s => DomainToAscii.name? s.toList with
    | none => .error .internationalName
    | some ascii =>
      if ascii.isEmpty then .error .emptyHost
      -- From here on the name has to be an address, or it is refused.
      else if endsInNumber ascii then
        match ipv4? ascii with
        | some address => .ok (.ipv4 address)
        | none => .error .ipv4
      else .ok (.name ascii)

/-- Characters below U+007F that are no control characters. -/
def isPrintable (c : Char) : Bool := 0x20 ≤ c.toNat && c.toNat < 0x7F

/-- Reads the host of any other scheme. -/
def ofOther (text : List Char) : Except Fault Host :=
  match text with
  | [] => .ok .empty
  | '[' :: rest => ofBracketed rest
  | _ =>
    if text.any isForbidden then .error .nameCharacter
    else .ok (.name (Percent.encode isPrintable text))

/-- Writes a host. -/
def text : Host → List Char
  | .empty => []
  | .name label => label
  | .ipv4 address => ipv4Text address
  | .ipv6 pieces => '[' :: ipv6Text pieces ++ [']']

end Host

end ApiToolkit.Url
