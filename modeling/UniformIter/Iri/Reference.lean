import UniformIter.Iri.Host

/-!
# References

A reference is an absolute one: it begins with a scheme. Behind a scheme of the web stands an
authority that names a host; two slashes announce one for any other scheme too, and there the
host may be missing. What follows the authority may be anything, and so may what follows a
scheme without one. A reference is taken as it is written down, with its host in ASCII.
-/

namespace UniformIter.Iri

/-- How a scheme treats what follows it. -/
inductive SchemeKind where
  | web
  | file
  | other
  deriving Repr, DecidableEq

/-- The kind of a scheme. -/
def SchemeKind.ofName (name : String) : SchemeKind :=
  if name == "file" then .file
  else if ["http", "https", "ws", "wss", "ftp"].contains name then .web
  else .other

/-- The characters that a scheme may go on with. -/
def isSchemeChar (c : Char) : Bool := c.isAlphanum || c == '+' || c == '-' || c == '.'

/-- Either slash. -/
def isSlash (c : Char) : Bool := c == '/' || c == '\\'

/-- The characters that end an authority. Only a scheme that is known takes a backslash for a
slash. -/
def endsAuthority (kind : SchemeKind) (c : Char) : Bool :=
  c == '/' || c == '?' || c == '#' || (c == '\\' && kind != .other)

/-- The user before the last at sign, if there is one, and what stands behind it. -/
def splitUser (s : List Char) : Option (List Char) × List Char :=
  let place := (s.reverse.takeWhile (· != '@')).reverse
  if place.length = s.length then (none, s)
  else (some (s.take (s.length - place.length - 1)), place)

/-- What stands before the first colon outside brackets, and the rest from it on. -/
def splitHost (inBrackets : Bool) : List Char → List Char × List Char
  | [] => ([], [])
  | c :: r =>
    if c == ':' && !inBrackets then ([], c :: r)
    else
      let (host, rest) := splitHost ((inBrackets || c == '[') && c != ']') r
      (c :: host, rest)

/-- Whether what follows a host is the number of a service: a colon and 16 bits in decimal
digits, of which there may be none, or nothing at all. -/
def isService : List Char → Bool
  | [] => true
  | _ :: s => s.all Char.isDigit && (numeral? 10 s).any (· < Nat.pow 2 16)

/-- Whether a text begins with an authority of a scheme of this kind. Outside the web the host
may be empty, but not where a user or a service comes with it. -/
def hasAuthority (kind : SchemeKind) (s : List Char) : Bool :=
  let authority := s.takeWhile fun c => !endsAuthority kind c
  let (user, place) := splitUser authority
  let (host, service) := splitHost false place
  if host.isEmpty then kind == .other && user.isNone && service.isEmpty
  else (if kind == .other then isOpaqueHost host else isHost host) && isService service

/-- Whether a text is the letter of a drive, which may stand where a file names its host. -/
def isDrive : List Char → Bool
  | [c, d] => c.isAlpha && (d == ':' || d == '|')
  | _ => false

/-- Whether the text behind a scheme is that of a reference. -/
def isBehindScheme (kind : SchemeKind) (s : List Char) : Bool :=
  match kind with
  | .web => hasAuthority .web (s.dropWhile isSlash)
  | .file =>
    match s with
    | a :: b :: r =>
      let host := r.takeWhile fun c => !endsAuthority .file c
      !(isSlash a && isSlash b) || host.isEmpty || isDrive host || isHost host
    | _ => true
  | .other =>
    match s with
    | '/' :: '/' :: r => hasAuthority .other r
    | _ => true

/-- The characters that count: control characters and blanks around a text do not, nor do tabs
and line breaks inside it. -/
def significant (s : List Char) : List Char :=
  let isOuter (c : Char) : Bool := c.toNat ≤ 0x20
  let trimmed := ((s.dropWhile isOuter).reverse.dropWhile isOuter).reverse
  trimmed.filter fun c => ! ['\t', '\n', '\r'].contains c

/-- Whether a text is an absolute reference. -/
def isReference (text : String) : Bool :=
  let s := significant text.toList
  let scheme := s.takeWhile isSchemeChar
  match s.drop scheme.length with
  | ':' :: rest =>
    scheme.head?.any Char.isAlpha &&
      isBehindScheme (.ofName (String.ofList (scheme.map Char.toLower))) rest
  | _ => false

end UniformIter.Iri
