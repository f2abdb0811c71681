import FormEngine.Address.Host

/-!
# Absolute addresses

`isWebAddress` accepts the texts that are absolute internet addresses in the lenient reading of
browsers: white space around and line breaks within count for nothing, backslashes count as slashes
where hosts are known, and a scheme is required.

Only the scheme, the host, the port and what stands before them can make an address invalid.
-/

namespace FormEngine.Url

/-- The kinds of schemes. -/
inductive Scheme where
  /-- Addresses of files: the host may be missing. -/
  | file
  /-- Schemes whose addresses always have a host. -/
  | hosted
  /-- All others. -/
  | other
deriving DecidableEq, Repr

/-- The kind of a scheme. -/
def Scheme.ofName (name : String) : Scheme :=
  if name = "file" then .file
  else if ["http", "https", "ws", "wss", "ftp"].contains name then .hosted
  else .other

/-- A text without controls and blanks at its ends, and without tabs and line breaks. -/
def cleaned (cs : List Char) : List Char :=
  let isEdge (c : Char) : Bool := c.toNat ≤ 0x20
  let inner := ((cs.dropWhile isEdge).reverse.dropWhile isEdge).reverse
  inner.filter fun c => c ≠ '\t' ∧ c ≠ '\n' ∧ c ≠ '\r'

/-- True of the characters of a scheme. -/
def isSchemeChar (c : Char) : Bool :=
  isAsciiLetter c || isAsciiDigit c || c = '+' || c = '-' || c = '.'

/-- The scheme of an address, and what follows the colon. -/
def splitScheme? (cs : List Char) : Option (Scheme × List Char) :=
  let (name, rest) := cs.span isSchemeChar
  match name, rest with
  | first :: _, ':' :: rest =>
    if isAsciiLetter first then
      some (.ofName (String.ofList (name.map Char.toLower)), rest)
    else none
  | _, _ => none

/-- True of slashes, and of backslashes where they count as such. -/
def isSlash (scheme : Scheme) (c : Char) : Bool := c = '/' || (scheme ≠ .other && c = '\\')

/-- True of the characters that end the part of an address that names the host. -/
def endsAuthority (scheme : Scheme) (c : Char) : Bool :=
  isSlash scheme c || c = '?' || c = '#'

/-- A text cut at the last occurrence of a character. -/
def splitLast? (separator : Char) (cs : List Char) : Option (List Char × List Char) :=
  let (after, before) := cs.reverse.span (· ≠ separator)
  match before with
  | [] => none
  | _ :: before => some (before.reverse, after.reverse)

/-- The host at the front of a text, and what follows it; a colon between brackets belongs to the
host. -/
def spanHost (inside : Bool) : List Char → List Char × List Char
  | [] => ([], [])
  | c :: cs =>
    if c = ':' ∧ !inside then ([], c :: cs)
    else
      let inside := if c = '[' then true else if c = ']' then false else inside
      let (host, rest) := spanHost inside cs
      (c :: host, rest)

/-- Whether a text is nothing, or a colon and a port. -/
def isPort : List Char → Bool
  | [] => true
  | ':' :: cs =>
    let digits := cs.takeWhile fun c => c ≠ '\\'
    digits.all (fun c => '0' ≤ c && c ≤ '9')
      && (digits.foldl (fun n c => min 65536 (10 * n + (c.toNat - '0'.toNat))) 0) < 65536
  | _ :: _ => false

/-- Whether a user name and password are worth keeping. -/
def keepsUser (user : List Char) : Bool := user ≠ [] && user ≠ [':']

/-- Whether what follows the slashes of an address names a host properly. -/
def isAuthority (scheme : Scheme) (cs : List Char) : Bool :=
  let authority := cs.takeWhile fun c => !endsAuthority scheme c
  let isClosed := cs.length ≠ authority.length
  let user? := splitLast? '@' authority
  let (user, place) := user?.getD ([], authority)
  let (host, port) := spanHost false place
  -- a host has to follow the sign before it
  if user? = some ([], []) ∧ isClosed then false
  else if scheme = .hosted then host ≠ [] && Host.isHost host && isPort port
  else Host.isOpaqueHost host && isPort port && (host ≠ [] || (port = [] && !keepsUser user))

/-- Whether a text is a drive of a file system. -/
def isDrive : List Char → Bool
  | [c, d] => isAsciiLetter c && (d = ':' || d = '|')
  | _ => false

/-- Whether what follows the scheme of a file names a host properly, if it names one. -/
def isFileRest : List Char → Bool
  | a :: b :: cs =>
    if isSlash .file a && isSlash .file b then
      let host := cs.takeWhile fun c => !endsAuthority .file c
      host = [] || isDrive host || Host.isHost host
    else true
  | _ => true

/-- Whether what follows a scheme is the rest of an address. -/
def isRest (scheme : Scheme) (cs : List Char) : Bool :=
  match scheme with
  | .file => isFileRest cs
  | .hosted => isAuthority .hosted (cs.dropWhile (isSlash .hosted))
  | .other =>
    match cs with
    | '/' :: '/' :: cs => isAuthority .other cs
    | _ => true

end FormEngine.Url

namespace FormEngine

/-- Whether a text is an absolute address. -/
def isWebAddress (text : String) : Bool :=
  (Url.splitScheme? (Url.cleaned text.toList)).any fun (scheme, rest) => Url.isRest scheme rest

end FormEngine
