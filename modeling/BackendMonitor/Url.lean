import BackendMonitor.Url.Host

/-!
# Addresses

Addresses as browsers read them. Many spellings are accepted: blanks around an address, tabs and
line ends inside it, and backslashes where an address of the web has slashes do no harm. Reading
settles the spelling, so that an address has one text.

* `Url.ofText?` reads an address that stands for itself, without another to start from;
* `Url.toText` writes it;
* `Url.target` is what a server is asked for.
-/

namespace BackendMonitor

open Url

/-- The path of an address. -/
inductive Url.Path where
  /-- The segments, each with a slash before it. -/
  | segments (list : List (List Char))
  /-- A path that does not start with a slash and has no segments. -/
  | verbatim (text : List Char)
deriving DecidableEq, Repr

/-- An address. The credentials that may stand before the host are left out. -/
structure Url where
  scheme : String
  host : Option Host := none
  /-- The port, unless it is the usual one. -/
  port : Option Nat := none
  path : Path
  query : Option (List Char) := none
  fragment : Option (List Char) := none
deriving DecidableEq, Repr

namespace Url

/-! ## Schemes -/

/-- The schemes of the web, with their usual ports. -/
def webSchemes : List (String × Nat) :=
  [("http", 80), ("https", 443), ("ws", 80), ("wss", 443), ("ftp", 21)]

/-- The kinds of schemes, which differ in how an address is read. -/
inductive Kind where
  | web
  | file
  | other
deriving DecidableEq, Repr

/-- The kind of a scheme. -/
def kindOf (scheme : String) : Kind :=
  if (webSchemes.lookup scheme).isSome then .web
  else if scheme = "file" then .file
  else .other

/-- Whether a character may stand in a scheme after its first letter. -/
def isSchemeChar (c : Char) : Bool :=
  c.isAlphanum || c = '+' || c = '-' || c = '.'

/-- The scheme at the start of a text, in small letters, and what follows the colon. -/
def scheme? (cs : List Char) : Option (String × List Char) :=
  match cs with
  | c :: _ =>
    if c.isAlpha then
      match cs.dropWhile isSchemeChar with
      | ':' :: rest => some (String.ofList ((cs.takeWhile isSchemeChar).map Char.toLower), rest)
      | _ => none
    else none
  | [] => none

/-- Whether a character is a slash for a kind of addresses. -/
def Kind.isSlash (k : Kind) (c : Char) : Bool :=
  c = '/' || (c = '\\' && k ≠ .other)

/-- Whether a character ends what stands before the path. -/
def Kind.endsAuthority (k : Kind) (c : Char) : Bool :=
  k.isSlash c || c = '?' || c = '#'

/-! ## Paths -/

/-- Whether a segment names the directory itself. -/
def isDot (segment : List Char) : Bool :=
  [['.'], ['%', '2', 'e']].contains (segment.map Char.toLower)

/-- Whether a segment names the directory above. -/
def isDoubleDot (segment : List Char) : Bool :=
  [ ['.', '.'],
    ['.', '%', '2', 'e'],
    ['%', '2', 'e', '.'],
    ['%', '2', 'e', '%', '2', 'e'] ].contains (segment.map Char.toLower)

/-- Whether a segment is the letter of a drive, which stays when going up. A backslash ends it where
slashes alone part the segments. -/
def isDrive : List Char → Bool
  | c :: d :: more => c.isAlpha && (d = ':' || d = '|') && more.head?.all (· = '\\')
  | _ => false

/-- Goes up from a directory. -/
def parent (above : List (List Char)) : List (List Char) :=
  match above.getLast? with
  | some last => if isDrive last then above else above.dropLast
  | none => above

/-- Follows segments down from a directory. The last one is no directory: after a dot segment at
the end the path ends with a slash. -/
def follow (above : List (List Char)) : List (List Char) → List (List Char)
  | [] => above
  | s :: rest =>
    let last := rest.isEmpty
    if isDoubleDot s then follow (if last then parent above ++ [[]] else parent above) rest
    else if isDot s then follow (if last then above ++ [[]] else above) rest
    else follow (above ++ [escape .path s]) rest

/-- The pieces of a path between slashes. -/
def pieces (k : Kind) (cs : List Char) : List (List Char) :=
  Text.pieces '/' (cs.map fun c => if k.isSlash c then '/' else c)

/-- The path in a text; a slash at its start is not needed. -/
def pathOf (k : Kind) (cs : List Char) : Path :=
  match cs with
  | c :: rest => .segments (follow [] (pieces k (if k.isSlash c then rest else cs)))
  | [] => .segments (if k = .other then [] else [[]])

/-- The segments of a path without the empty ones at its start; the last one always stays. -/
def withoutEmpty (segments : List (List Char)) : List (List Char) :=
  let rest := segments.dropWhile List.isEmpty
  if rest.isEmpty then [[]] else rest

/-- The path of a file in a text. -/
def filePathOf (cs : List Char) : Path :=
  .segments (withoutEmpty (follow [] (pieces .file cs)))

/-- Whether a path starts with a drive. -/
def startsWithDrive (cs : List Char) : Bool :=
  ((pieces .file cs).head?).any isDrive

/-- The path of a file in a text, where a drive at its start is written with a colon. -/
def drivePathOf (cs : List Char) : Path :=
  if startsWithDrive cs then filePathOf (cs.take 1 ++ ':' :: cs.drop 2) else filePathOf cs

/-! ## Reading -/

/-- The part of a text before a query or fragment. -/
def beforeQuery (cs : List Char) : List Char :=
  cs.takeWhile fun c => c ≠ '?' && c ≠ '#'

/-- Adds the query and the fragment that follow the path. -/
def addRest (k : Kind) (cs : List Char) (u : Url) : Url :=
  let rest := cs.dropWhile fun c => c ≠ '?' && c ≠ '#'
  let part : Part := if k = .other then .query else .webQuery
  let query := match rest with
    | '?' :: more => some (escape part (more.takeWhile (· ≠ '#')))
    | _ => none
  let fragment := match rest.dropWhile (· ≠ '#') with
    | '#' :: more => some (escape .fragment more)
    | _ => none
  { u with query := query, fragment := fragment }

/-- Whether credentials need a host behind them. Those that name nobody do not. -/
def needHost (credentials : List Char) : Bool :=
  credentials ≠ [] && credentials ≠ [':']

/-- Cuts a text at the colon before a port; colons between brackets do not count. -/
def cutAtPort : Bool → List Char → List Char × List Char
  | _, [] => ([], [])
  | inside, c :: cs =>
    if c = ':' && !inside then ([], c :: cs)
    else
      let (host, port) := cutAtPort (c = '[' || (inside && c ≠ ']')) cs
      (c :: host, port)

/-- The port after a host, and what follows it if a backslash ends it; `none` for one that is no
port, and no port at all if there are no digits. -/
def port? : List Char → Option (Option Nat × List Char)
  | [] => some (none, [])
  | ':' :: cs =>
    let digits := cs.takeWhile Char.isDigit
    let rest := cs.dropWhile Char.isDigit
    if !rest.head?.all (· = '\\') then none
    else if digits.isEmpty then some (none, rest)
    else ((numberIn? 10 digits).filter (· ≤ 65535)).map fun n => (some n, rest)
  | _ => none

/-- The host in a text, by the kind of the address. -/
def hostOf? (k : Kind) (cs : List Char) : Option Host :=
  if k = .other then Host.verbatim? cs else Host.ofText? cs

/-- Reads an address with a host; the text starts with the credentials or the host. No host may be
missing behind credentials, or before a port. -/
def withHost? (k : Kind) (scheme : String) (cs : List Char) : Option Url := do
  let authority := cs.takeWhile fun c => !k.endsAuthority c
  let after := cs.dropWhile fun c => !k.endsAuthority c
  let (credentials, address) := match Text.cutAtLast? '@' authority with
    | some (credentials, address) => (some credentials, address)
    | none => (none, authority)
  let (hostText, portText) := cutAtPort false address
  let host ← hostOf? k hostText
  if hostText.isEmpty && (!portText.isEmpty || credentials.any needHost) then none
  if address.isEmpty && credentials = some [] && !after.isEmpty then none
  let (port, rest) ← port? portText
  let rest := rest ++ after
  return addRest k rest
    { scheme := scheme
      host := some host
      port := port.filter fun n => webSchemes.lookup scheme != some n
      path := pathOf k (beforeQuery rest) }

/-- The host of a file; the machine itself is no host. -/
def fileHost? (cs : List Char) : Option Host :=
  if cs.isEmpty then some (.name [])
  else (Host.ofText? cs).map fun h => if h = .name "localhost".toList then .name [] else h

/-- Reads the address of a file behind two slashes. A drive is no host, and a path that starts with
a drive has none. -/
def fileWithHost? (cs : List Char) : Option Url := do
  let hostText := cs.takeWhile fun c => !Kind.file.endsAuthority c
  let rest := cs.dropWhile fun c => !Kind.file.endsAuthority c
  if isDrive hostText then return file (.name []) (drivePathOf (beforeQuery cs)) cs
  let host ← fileHost? hostText
  let path := (beforeQuery rest).drop 1
  if host = .name [] then return file host (filePathOf path) rest
  else if startsWithDrive path then return file (.name []) (drivePathOf path) rest
  else return file host (filePathOf path) rest
where
  file (host : Host) (path : Path) (rest : List Char) : Url :=
    addRest .file rest { scheme := "file", host := some host, path := path }

/-- Reads the address of a file. -/
def file? (cs : List Char) : Option Url :=
  match cs with
  | c :: rest =>
    if !Kind.file.isSlash c then some (onThisMachine (drivePathOf (beforeQuery cs)))
    else if rest.head?.any Kind.file.isSlash then fileWithHost? (rest.drop 1)
    else some (onThisMachine (filePathOf (beforeQuery rest)))
  | [] => some (onThisMachine (filePathOf []))
where
  onThisMachine (path : Path) : Url :=
    addRest .file cs { scheme := "file", host := some (.name []), path := path }

/-- Reads an address of neither the web nor a file. -/
def other? (scheme : String) : List Char → Option Url
  | '/' :: '/' :: rest => withHost? .other scheme rest
  | '/' :: rest =>
    some (addRest .other rest
      { scheme := scheme, path := pathOf .other (beforeQuery ('/' :: rest)) })
  | cs =>
    some (addRest .other cs
      { scheme := scheme, path := .verbatim (escape .verbatim (beforeQuery cs)) })

/-- Whether a character is dropped at the ends of an address. -/
def isEdge (c : Char) : Bool :=
  c.toNat ≤ 0x20

/-- The characters of an address that count. -/
def essential (cs : List Char) : List Char :=
  (((cs.dropWhile isEdge).reverse.dropWhile isEdge).reverse).filter fun c =>
    c ≠ '\t' && c ≠ '\n' && c ≠ '\r'

/-- Reads an address. -/
def ofText? (s : String) : Option Url := do
  let (scheme, rest) ← scheme? (essential s.toList)
  match kindOf scheme with
  | .web => withHost? .web scheme (rest.dropWhile Kind.web.isSlash)
  | .file => file? rest
  | .other => other? scheme rest

/-! ## Writing -/

/-- A path as it stands in an address. -/
def Path.toText : Path → List Char
  | .segments list => list.flatMap ('/' :: ·)
  | .verbatim text => text

/-- The host and the port as they stand in an address. Without a host a path must not look like
one. -/
def authorityText (u : Url) : List Char :=
  match u.host with
  | some host =>
    '/' :: '/' :: host.toText ++
      (match u.port with
      | some n => ':' :: Nat.toDigits 10 n
      | none => [])
  | none =>
    match u.path with
    | .segments ([] :: _ :: _) => ['/', '.']
    | _ => []

/-- What a server is asked for: the path and the query. -/
def target (u : Url) : List Char :=
  u.path.toText ++
    (match u.query with
    | some q => '?' :: q
    | none => [])

/-- An address as text. -/
def toText (u : Url) : String :=
  u.scheme ++ String.ofList (':' :: u.authorityText ++ u.target ++
    (match u.fragment with
    | some f => '#' :: f
    | none => []))

/-- Whether an address is one of the web as pages are fetched from it. -/
def isHttp (u : Url) : Bool :=
  u.scheme = "http" || u.scheme = "https"

end Url

end BackendMonitor
