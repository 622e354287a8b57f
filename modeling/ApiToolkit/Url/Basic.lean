import ApiToolkit.Url.Host
/-!
# URLs

A URL is read from a text by the rules of the web: blanks around it are dropped, the scheme and
the host are lowered, dot segments are resolved, and characters that may not stand for themselves
are escaped.

## What is inside

- `Url`, `Url.text`: the parts of a URL and how they are written.
- `Url.Segments`: paths as segments, with `.` and `..` resolved.
- `Url.parse`: reads a URL.
-/

namespace ApiToolkit

/-- User, password, host and port. -/
structure Url.Authority where
  /-- The user's name, escaped; it may be empty. -/
  user : List Char
  /-- The password, escaped. -/
  password : Option (List Char)
  /-- The host. -/
  host : Url.Host
  /-- The port, if it is not the scheme's own. -/
  port : Option Nat
deriving DecidableEq, Repr

/-- A URL. -/
structure Url where
  /-- The scheme in small letters. -/
  scheme : List Char
  /-- What stands after the two slashes, if there are any. -/
  authority : Option Url.Authority
  /-- The path.  It begins with a slash, is empty, or is a text without segments. -/
  path : List Char
  /-- What stands after the question mark. -/
  query : Option (List Char)
  /-- What stands after the number sign. -/
  fragment : Option (List Char)
deriving DecidableEq, Repr

namespace Url

/-! ## Writing -/

/-- Writes an authority. -/
def Authority.text (a : Authority) : List Char :=
  let login := a.user ++ (a.password.map fun p => ':' :: p).getD []
  (if login.isEmpty then [] else login ++ ['@']) ++ a.host.text ++
    (a.port.map fun n => ':' :: Nat.toDigits 10 n).getD []

/-- Writes the part before the path.  A path that begins with two slashes needs a mark if there is
no authority. -/
def front (url : Url) : List Char :=
  url.scheme ++ ':' ::
    match url.authority with
    | some a => ['/', '/'] ++ a.text
    | none => if Text.startsWith ['/', '/'] url.path then ['/', '.'] else []

/-- Writes a URL. -/
def chars (url : Url) : List Char :=
  url.front ++ url.path ++ (url.query.map fun q => '?' :: q).getD [] ++
    (url.fragment.map fun f => '#' :: f).getD []

/-- The text of a URL. -/
def text (url : Url) : String := String.ofList url.chars

/-! ## Characters that stand for themselves -/

/-- In fragments. -/
def keptInFragment (c : Char) : Bool :=
  Host.isPrintable c && !([' ', '"', '<', '>', '\x60'].contains c)

/-- In paths. -/
def keptInPath (c : Char) : Bool := keptInFragment c && !(['#', '?', '{', '}'].contains c)

/-- In names and passwords of users. -/
def keptInLogin (c : Char) : Bool :=
  keptInPath c && !(['/', ':', ';', '=', '@', '[', '\\', ']', '^', '|'].contains c)

/-- In queries.  The schemes that the web treats alike escape single quotes too. -/
def keptInQuery (isSpecial : Bool) (c : Char) : Bool :=
  Host.isPrintable c && !([' ', '"', '#', '<', '>'].contains c) && !(isSpecial && c == '\'')

/-! ## Schemes -/

/-- The schemes that are read in different ways. -/
inductive SchemeKind where
  /-- Files. -/
  | file
  /-- The other schemes that the web treats alike. -/
  | web
  /-- All other schemes. -/
  | other
deriving DecidableEq, Repr

/-- Whether the web has special rules for a kind. -/
def SchemeKind.isSpecial : SchemeKind → Bool
  | .other => false
  | _ => true

/-- The kind of a scheme. -/
def schemeKind (scheme : List Char) : SchemeKind :=
  if scheme = "file".toList then .file
  else if ["http", "https", "ws", "wss", "ftp"].any (·.toList == scheme) then .web
  else .other

/-- The port that a scheme uses by itself. -/
def defaultPort? (scheme : List Char) : Option Nat :=
  match String.ofList scheme with
  | "http" | "ws" => some 80
  | "https" | "wss" => some 443
  | "ftp" => some 21
  | _ => none

/-- Characters of a scheme after its first one. -/
def isSchemeChar (c : Char) : Bool :=
  Letter.isAsciiAlphanumeric c || c == '+' || c == '-' || c == '.'

/-- The scheme in small letters, and the text after its colon. -/
def splitScheme? (text : List Char) : Option (List Char × List Char) :=
  match text with
  | [] => none
  | first :: _ =>
    if Letter.isAsciiLetter first then
      match text.dropWhile isSchemeChar with
      | ':' :: rest => some ((text.takeWhile isSchemeChar).map Letter.asciiLower, rest)
      | _ => none
    else none

/-! ## Paths -/

/-- Whether a character ends a segment. -/
def isSlash (isSpecial : Bool) (c : Char) : Bool := c == '/' || (isSpecial && c == '\\')

/-- Whether a segment stands for the directory itself. -/
def isSingleDot (segment : List Char) : Bool :=
  segment.map Letter.asciiLower = ['.'] || segment.map Letter.asciiLower = ['%', '2', 'e']

/-- Whether a segment stands for the directory above. -/
def isDoubleDot (segment : List Char) : Bool :=
  ["..", "%2e.", ".%2e", "%2e%2e"].any (·.toList == segment.map Letter.asciiLower)

/-- Whether a text begins with a drive letter: a letter and a colon or bar, and then nothing or
the end of a segment. -/
def beginsWithDrive (text : List Char) : Bool :=
  match text with
  | [letter, mark] => Letter.isAsciiLetter letter && (mark == ':' || mark == '|')
  | letter :: mark :: next :: _ =>
    Letter.isAsciiLetter letter && (mark == ':' || mark == '|') &&
      ['/', '\\', '?', '#'].contains next
  | _ => false

/-- Whether a segment is a drive letter. -/
def isDrive (segment : List Char) : Bool := segment.length == 2 && beginsWithDrive segment

/-- A path under construction: the segments that a slash follows, and the last segment. -/
structure Segments where
  /-- The segments that a slash follows, the last one first. -/
  closed : List (List Char)
  /-- The last segment. -/
  last : List Char

/-- Writes a path. -/
def Segments.text (s : Segments) : List Char :=
  '/' :: s.closed.reverse.flatMap (· ++ ['/']) ++ s.last

/-- Takes the last segment before the current one away, unless it is a drive letter. -/
def dropParent (closed : List (List Char)) : List (List Char) :=
  match closed with
  | [] => []
  | parent :: rest => if beginsWithDrive (parent ++ ['/']) then parent :: rest else rest

/-- What a first segment of a file path is written as: a drive letter gets a colon, and what
follows a drive letter at once is cut off from it. -/
def driveForm (segment : List Char) : List (List Char) :=
  match segment with
  | [letter, mark] => [if isDrive [letter, mark] then [letter, ':'] else [letter, mark]]
  | letter :: ':' :: rest =>
    if Letter.isAsciiLetter letter then [[letter, ':'], rest] else [segment]
  | _ => [segment]

/-- Takes one more segment, which a slash follows if `ended` is set. -/
def Segments.push (kind : SchemeKind) (closed : List (List Char)) (segment : List Char)
    (ended : Bool) : Segments :=
  if isDoubleDot segment then ⟨dropParent closed, []⟩
  else if isSingleDot segment then ⟨closed, []⟩
  else
    -- Only the first segment of a file path can be a drive.
    let forms := if kind = .file && closed.isEmpty then driveForm segment else [segment]
    if ended then ⟨forms.reverse ++ closed, []⟩
    else ⟨forms.dropLast.reverse ++ closed, forms.getLast?.getD []⟩

/-- Takes segments, all but the last of which a slash follows. -/
def Segments.ofParts (kind : SchemeKind) (closed : List (List Char)) (parts : List (List Char)) :
    Segments :=
  match parts with
  | [] => ⟨closed, []⟩
  | [last] => Segments.push kind closed last false
  | part :: rest => Segments.ofParts kind (Segments.push kind closed part true).closed rest

/-- Reads the path after its first slash.  The path of a file begins with just one slash. -/
def readPath (kind : SchemeKind) (text : List Char) : List Char :=
  let parts := Text.splitBy (isSlash kind.isSpecial) text
  let path := (Segments.ofParts kind [] (parts.map (Percent.encode keptInPath))).text
  if kind = .file then '/' :: path.dropWhile (· == '/') else path

/-- Whether the path of a file comes to a drive letter as its first segment; then the file has no
host. -/
def meetsDrive (closed parts : List (List Char)) : Bool :=
  match parts with
  | [] => false
  | part :: rest =>
    (closed.isEmpty && isDrive part) ||
      meetsDrive (Segments.push .file closed part true).closed rest

/-- Whether the path of a file, read after its first slash, takes its host away. -/
def dropsHost (text : List Char) : Bool :=
  meetsDrive [] ((Text.splitBy (isSlash true) text).map (Percent.encode keptInPath))

/-! ## Authorities -/

/-- Whether a character ends the authority. -/
def endsAuthority (isSpecial : Bool) (c : Char) : Bool :=
  isSlash isSpecial c || c == '?' || c == '#'

/-- The name and the password before an at sign.  An empty password is dropped. -/
def readLogin (login : List Char) : List Char × Option (List Char) :=
  let encode := Percent.encode keptInLogin
  match login.dropWhile (· != ':') with
  | [] => (encode login, none)
  | _ :: password =>
    (encode (login.takeWhile (· != ':')),
      if password.isEmpty then none else some (encode password))

/-- The text of a host, and the text after it.  A colon in brackets belongs to the host. -/
def splitHost (isSpecial inBrackets : Bool) (text : List Char) : List Char × List Char :=
  match text with
  | [] => ([], [])
  | c :: rest =>
    -- The colons of an address in brackets separate its numbers.
    if endsAuthority isSpecial c || (c == ':' && !inBrackets) then ([], c :: rest)
    else
      let inside := if c == '[' then true else if c == ']' then false else inBrackets
      let (host, after) := splitHost isSpecial inside rest
      (c :: host, after)

/-- The number after a colon.  Only the end of the authority may follow it. -/
def readPort (digits : List Char) (after : List Char) : Except Fault (Option Nat) :=
  let isOver := (after.head?.map fun c => ['/', '\\', '?', '#'].contains c).getD true
  let port := (Digit.number? 10 digits).getD 0
  if isOver && port < 65536 then .ok (if digits.isEmpty then none else some port)
  else .error .port

/-- The login before the last at sign, and what follows it.  The at signs before it belong to the
login. -/
def splitLogin (area : List Char) : Option (List Char) × List Char :=
  match Text.cutAtLast? '@' area with
  | some (login, rest) => (some login, rest)
  | none => (none, area)

/-- Reads a host, and gives the text after it. -/
def readHost [DomainToAscii] (kind : SchemeKind) (text : List Char) :
    Except Fault (Host × List Char) :=
  let (hostText, rest) := splitHost kind.isSpecial false text
  if kind = .web && hostText.isEmpty then .error .emptyHost
  else do
    let host ← if kind = .other then Host.ofOther hostText else Host.ofSpecial hostText
    if host = .empty && rest.head? = some ':' then .error .emptyHost else .ok (host, rest)

/-- Reads the port after a host, if there is one, and gives the text after it. -/
def readPortPart (scheme : List Char) (text : List Char) :
    Except Fault (Option Nat × List Char) :=
  match text with
  | ':' :: more => do
    let digits := more.takeWhile Letter.isAsciiDigit
    let after := more.drop digits.length
    let port ← readPort digits after
    -- The port that the scheme implies is not written.
    .ok (if port = defaultPort? scheme then none else port, after)
  | _ => .ok (none, text)

/-- Reads an authority, and gives the text after it. -/
def readAuthority [DomainToAscii] (scheme : List Char) (text : List Char) :
    Except Fault (Authority × List Char) :=
  let kind := schemeKind scheme
  let area := text.takeWhile fun c => !endsAuthority kind.isSpecial c
  let beyond := text.drop area.length
  let (login, hostArea) := splitLogin area
  if login = some [] && hostArea.isEmpty && !beyond.isEmpty then .error .emptyHost
  else do
    let (user, password) := (login.map readLogin).getD ([], none)
    let (host, rest) ← readHost kind (hostArea ++ beyond)
    let (port, rest) ← readPortPart scheme rest
    if host = .empty && !(user.isEmpty && password.isNone) then .error .emptyHost
    else .ok (⟨user, password, host, port⟩, rest)

/-! ## Whole URLs -/

/-- Cuts a text into what stands before the question mark, the query and the fragment. -/
def splitTail (text : List Char) : List Char × Option (List Char) × Option (List Char) :=
  let fragment := (text.dropWhile (· != '#')).tail?
  let rest := text.takeWhile (· != '#')
  (rest.takeWhile (· != '?'), (rest.dropWhile (· != '?')).tail?, fragment)

/-- A URL with this beginning, and query and fragment escaped. -/
def finish (scheme : List Char) (authority : Option Authority) (path : List Char)
    (query fragment : Option (List Char)) : Url where
  scheme := scheme
  authority := authority
  path := path
  query := query.map (Percent.encode (keptInQuery (schemeKind scheme).isSpecial))
  fragment := fragment.map (Percent.encode keptInFragment)

/-- The path after an authority. -/
def pathAfterAuthority (kind : SchemeKind) (text : List Char) : List Char :=
  match text with
  | [] => if kind.isSpecial then ['/'] else []
  | c :: rest => readPath kind (if isSlash kind.isSpecial c then rest else c :: rest)

/-- The authority of a file without a host. -/
def noHost : Authority := ⟨[], none, .empty, none⟩

/-- The host of a file.  The local host is no host. -/
def fileHost [DomainToAscii] (text : List Char) : Except Fault Host := do
  if text.isEmpty then return .empty
  let host ← Host.ofSpecial text
  return if host = .name "localhost".toList then .empty else host

/-- Reads the URL of a file after its scheme. -/
def parseFile [DomainToAscii] (text : List Char) : Except Fault Url := do
  let scheme := "file".toList
  let (before, query, fragment) := splitTail text
  match before with
  | a :: b :: rest =>
    if isSlash true a && isSlash true b then
      let host := rest.takeWhile fun c => !isSlash true c
      -- A drive letter in the place of the host is the beginning of the path.
      if isDrive host then return finish scheme (some noHost) (readPath .file rest) query fragment
      let host ← fileHost host
      let path := rest.dropWhile fun c => !isSlash true c
      let host := if dropsHost (path.drop 1) then .empty else host
      return finish scheme (some ⟨[], none, host, none⟩) (pathAfterAuthority .file path)
        query fragment
    else
      return finish scheme (some noHost) (pathAfterAuthority .file before) query fragment
  | _ => return finish scheme (some noHost) (pathAfterAuthority .file before) query fragment

/-- Reads a URL after its scheme. -/
def parseAfterScheme [DomainToAscii] (scheme text : List Char) : Except Fault Url := do
  match schemeKind scheme with
  | .file => parseFile text
  | .web =>
    let (authority, rest) ← readAuthority scheme (text.dropWhile (isSlash true))
    let (before, query, fragment) := splitTail rest
    return finish scheme (some authority) (pathAfterAuthority .web before) query fragment
  | .other =>
    match text with
    | '/' :: '/' :: rest =>
      let (authority, rest) ← readAuthority scheme rest
      let (before, query, fragment) := splitTail rest
      return finish scheme (some authority) (pathAfterAuthority .other before) query fragment
    | '/' :: rest =>
      let (before, query, fragment) := splitTail rest
      return finish scheme none (readPath .other before) query fragment
    | _ =>
      let (before, query, fragment) := splitTail text
      return finish scheme none (Percent.encode Host.isPrintable before) query fragment

/-- Control characters and blanks, which are dropped around a URL. -/
def isOuterBlank (c : Char) : Bool := c.toNat ≤ 0x20

/-- Tabs and line ends, which are dropped everywhere. -/
def isIgnored (c : Char) : Bool := c == '\t' || c == '\n' || c == '\r'

/-- Reads a URL. -/
def parse [DomainToAscii] (text : List Char) : Except Fault Url :=
  -- Blanks are trimmed first, so a tab between two blanks at an end goes away with them.
  let text := (Text.trimBy isOuterBlank text).filter fun c => !isIgnored c
  match splitScheme? text with
  | none => .error .noScheme
  | some (scheme, rest) => parseAfterScheme scheme rest

end Url

end ApiToolkit
