import BackendMonitor.Text.Pieces

/-!
# Identifiers on the wire

Addresses as they are written into requests. Unlike an address that is read as browsers do, nothing
is mended here: a text with a character that must not stand where it does is refused.

* `Uri.ofText` reads an identifier, or says what is wrong with it;
* `Uri.host?` and `Uri.port?` look into its authority.
-/

namespace BackendMonitor

/-- What can be wrong with an identifier. -/
inductive Uri.Fault where
  | empty
  | tooLong
  | schemeTooLong
  | invalidCharacter
  | invalidAuthority
  | invalidFormat
deriving DecidableEq, Repr

/-- The wording of a fault. -/
def Uri.Fault.message : Uri.Fault → String
  | .empty => "empty string"
  | .tooLong => "uri too long"
  | .schemeTooLong => "scheme too long"
  | .invalidCharacter => "invalid uri character"
  | .invalidAuthority => "invalid authority"
  | .invalidFormat => "invalid format"

/-- An identifier. -/
structure Uri where
  scheme : Option String := none
  /-- The host, with the credentials before it and the port behind it. -/
  authority : Option (List Char) := none
  /-- The path and the query. -/
  target : List Char := []
deriving DecidableEq, Repr

namespace Uri

/-- The greatest number of bytes. -/
def maxLength : Nat := 65534

/-- The greatest number of characters of a scheme. -/
def maxSchemeLength : Nat := 64

/-! ## Schemes -/

/-- Whether a character may stand in a scheme. -/
def isSchemeChar (c : Char) : Bool :=
  c.isAlphanum || c = '+' || c = '-' || c = '.' || c = '~'

/-- Cuts the scheme off, if there is one. The schemes of the web may be written in capitals. -/
def cutScheme (cs : List Char) : Except Fault (Option String × List Char) :=
  match cs.dropWhile isSchemeChar with
  | ':' :: '/' :: '/' :: rest =>
    let scheme := String.ofList (cs.takeWhile isSchemeChar)
    if cs.length ≤ 3 then .ok (none, cs)
    else if ["http", "https"].contains scheme.toLower then .ok (some scheme.toLower, rest)
    else if maxSchemeLength < scheme.length then .error .schemeTooLong
    else .ok (some scheme, rest)
  | _ => .ok (none, cs)

/-! ## Authorities -/

/-- Whether a character may stand in an authority. -/
def isAuthorityChar (c : Char) : Bool :=
  c.isAlphanum || "!$&'()*+,-.:;=@[]_~".toList.contains c

/-- Whether a character ends an authority. -/
def endsAuthority (c : Char) : Bool :=
  c = '/' || c = '?' || c = '#'

/-- What has been seen of an authority. Colons and percent signs are counted anew after the
credentials and after a host in brackets. -/
structure Seen where
  colons : Nat := 0
  percent : Bool := false
  opened : Bool := false
  closed : Bool := false
deriving DecidableEq, Repr

/-- Goes on with one character of an authority. -/
def see (s : Seen) (c : Char) : Except Fault Seen :=
  if c = ':' then
    if 8 ≤ s.colons then .error .invalidAuthority else .ok { s with colons := s.colons + 1 }
  else if c = '[' then
    if s.percent || s.opened then .error .invalidAuthority else .ok { s with opened := true }
  else if c = ']' then
    if !s.opened || s.closed then .error .invalidAuthority
    else .ok { s with closed := true, colons := 0, percent := false }
  else if c = '@' then .ok { s with colons := 0, percent := false }
  else if c = '%' then .ok { s with percent := true }
  else if isAuthorityChar c then .ok s
  else .error .invalidCharacter

/-- Accepts an authority. -/
def checkAuthority (cs : List Char) : Except Fault Unit := do
  let s ← cs.foldlM see {}
  if s.opened != s.closed || 1 < s.colons || cs.getLast? = some '@' || s.percent then
    .error .invalidAuthority
  else .ok ()

/-! ## Paths -/

/-- Whether a character may stand in a path. Some that should be escaped are let through. -/
def isPathChar (c : Char) : Bool :=
  let n := c.toNat
  n == 0x21 || (0x24 ≤ n && n ≤ 0x3B) || n == 0x3D || (0x40 ≤ n && n ≤ 0x5F) ||
    (0x61 ≤ n && n != 0x7F) || n == 0x22

/-- Whether a character may stand in a query. -/
def isQueryChar (c : Char) : Bool :=
  let n := c.toNat
  n == 0x21 || (0x24 ≤ n && n ≤ 0x3B) || n == 0x3D || (0x3F ≤ n && n != 0x7F)

/-- Reads a path and a query; a fragment behind them is dropped. -/
def targetOf (cs : List Char) : Except Fault (List Char) :=
  let cs := cs.takeWhile (· ≠ '#')
  let path := cs.takeWhile (· ≠ '?')
  let query := (cs.dropWhile (· ≠ '?')).drop 1
  if path.all isPathChar && query.all isQueryChar then .ok cs else .error .invalidCharacter

/-! ## Reading -/

/-- Reads an identifier of more than one character that does not start with its path. -/
def full (cs : List Char) : Except Fault Uri := do
  let (scheme, rest) ← cutScheme cs
  if rest.isEmpty then .error .empty
  let authority := rest.takeWhile (!endsAuthority ·)
  let after := rest.dropWhile (!endsAuthority ·)
  checkAuthority authority
  match scheme with
  | none =>
    if after.isEmpty then .ok { authority := some authority } else .error .invalidFormat
  | some scheme =>
    if authority.isEmpty then .error .invalidFormat
    else .ok { scheme := some scheme, authority := some authority, target := ← targetOf after }

/-- Reads an identifier. -/
def ofText (s : String) : Except Fault Uri :=
  if maxLength < s.utf8ByteSize then .error .tooLong
  else
    match s.toList with
    | [] => .error .empty
    | ['*'] => .ok { target := ['*'] }
    | '/' :: rest => (targetOf ('/' :: rest)).map fun t => { target := t }
    | [c] =>
      if endsAuthority c then .error .invalidCharacter
      else (checkAuthority [c]).map fun _ => { authority := some [c] }
    | cs => full cs

/-! ## Looking into an authority -/

/-- The host; one in brackets keeps them. -/
def host? (u : Uri) : Option (List Char) :=
  u.authority.map fun authority =>
    match (Text.afterLast? '@' authority).getD authority with
    | '[' :: rest => '[' :: (rest.takeWhile (· ≠ ']') ++ [']'])
    | cs => cs.takeWhile (· ≠ ':')

/-- A number of at most 16 bits, possibly with a plus sign. -/
def portNumber? (cs : List Char) : Option Nat :=
  let digits := match cs with
    | '+' :: rest => rest
    | cs => cs
  if digits.isEmpty || !digits.all Char.isDigit then none
  else
    some (digits.foldl (fun n c => n * 10 + (c.toNat - 0x30)) 0) |>.filter (· ≤ 65535)

/-- The port. -/
def port? (u : Uri) : Option Nat :=
  (u.authority.bind (Text.afterLast? ':')).bind portNumber?

end Uri

end BackendMonitor
