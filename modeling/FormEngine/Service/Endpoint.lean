import FormEngine.Text.Encoding
import FormEngine.Number.Literal

/-!
# Endpoints

What the paths of the service stand for.  A path is taken without query and fragment, its dot
segments are resolved, and then its percent escapes, which encode UTF-8; a session is named by a
segment that is not empty.  Slashes at the end are overlooked.
-/

namespace FormEngine.Service

/-- What a request can be about. -/
inductive Endpoint where
  | check
  | forms
  | form (id : String)
  | values (id : String)
  | touch (id : String)
  | submit (id : String)
  | reset
  | health
deriving DecidableEq, Repr

/-- The method by which an endpoint is used. -/
def Endpoint.method : Endpoint → String
  | .form _ => "GET"
  | .health => "GET"
  | _ => "POST"

/-! ## Paths -/

/-- A path without query and fragment. -/
def barePath (path : List Char) : List Char := path.takeWhile fun c => c ≠ '?' && c ≠ '#'

/-- Resolves the dot segments among segments, those before them given in reverse. -/
def resolveDots : List (List Char) → List (List Char) → List (List Char)
  | before, [] => before.reverse
  | before, segment :: rest =>
    if segment = ['.'] then resolveDots before rest
    else if segment = ['.', '.'] then
      resolveDots (if before = [[]] then before else before.drop 1) rest
    else resolveDots (segment :: before) rest

/-- The octets of a text with its percent escapes resolved. -/
def unescapedOctets : List Char → List UInt8
  | '%' :: a :: b :: rest =>
    match digitOfBase? 16 a, digitOfBase? 16 b with
    | some x, some y => UInt8.ofNat (16 * x + y) :: unescapedOctets rest
    | _, _ => 0x25 :: unescapedOctets (a :: b :: rest)
  | c :: rest => (String.singleton c).toUTF8.toList ++ unescapedOctets rest
  | [] => []

/-- A text with its percent escapes resolved. -/
def unescaped (cs : List Char) : List Char :=
  let octets := unescapedOctets cs
  (decodeUtf8Leniently octets.length octets).map Char.ofNat

/-- The segments of a path; escaped slashes part them as well. -/
def segmentsOf (path : String) : List String :=
  let resolved := resolveDots [] ((barePath path.toList).splitOn '/')
  let plain := unescaped (List.intercalate ['/'] resolved)
  let kept := (plain.reverse.dropWhile (· = '/')).reverse
  (kept.splitOn '/').map String.ofList

/-- The endpoint of a path. -/
def Endpoint.ofPath? (path : String) : Option Endpoint :=
  match segmentsOf path with
  | ["", "api", "validate-schema"] => some .check
  | ["", "api", "forms"] => some .forms
  | ["", "api", "forms", id] => if id = "" then none else some (.form id)
  | ["", "api", "forms", id, action] =>
    if id = "" then none
    else if action = "values" then some (.values id)
    else if action = "touch" then some (.touch id)
    else if action = "submit" then some (.submit id)
    else none
  | ["", "api", "sessions", "reset"] => some .reset
  | ["", "api", "health"] => some .health
  | _ => none

end FormEngine.Service
