import Herald.Url.Host
import Herald.Text.Base64
import Herald.Text.Digits

/-!
# URLs of the web

An address is read the way browsers do: blanks around it and line breaks in it do not count, any
number of slashes of either kind may follow the scheme, dot segments are resolved, the default
number behind the host is dropped and characters that a part may not hold are escaped. Only
addresses that a request can be sent to are read, so the scheme is `http` or `https`.
-/

namespace Herald

/-- Where a request can be sent to. User, password, path, query and fragment are escaped. -/
structure Url where
  secure : Bool
  user : List Char := []
  password : Option (List Char) := none
  host : List Char
  /-- The number behind the host, unless it is the default one of the scheme. -/
  portNumber : Option Nat := none
  path : List Char
  query : Option (List Char) := none
  fragment : Option (List Char) := none
  deriving Repr, DecidableEq

namespace Url

/-- A visible ASCII byte that is none of the given characters. -/
def plainExcept (special : String) (b : UInt8) : Bool :=
  0x20 < b && b < 0x7F && !(special.toList.contains (Char.ofNat b.toNat))

/-- The bytes that stand for themselves in a fragment. -/
def isFragmentPlain : UInt8 → Bool := plainExcept "\"<>`"

/-- The bytes that stand for themselves in a path. -/
def isPathPlain : UInt8 → Bool := plainExcept "\"<>`#?\x7b\x7d"

/-- The bytes that stand for themselves in a user name or a password. -/
def isUserPlain : UInt8 → Bool := plainExcept "\"<>`#?\x7b\x7d/:;=@[\\]^|"

/-- The bytes that stand for themselves in a query. -/
def isQueryPlain : UInt8 → Bool := plainExcept "\"#<>'"

/-- A slash of either kind. -/
def isSlash (c : Char) : Bool := c = '/' || c = '\\'

/-- The address without blanks and control characters around it and line breaks and tabs in it. -/
def cleaned (text : List Char) : List Char :=
  let isEdge (c : Char) : Bool := c ≤ ' '
  let inner := ((text.dropWhile isEdge).reverse.dropWhile isEdge).reverse
  inner.filter fun c => c ≠ '\t' && c ≠ '\n' && c ≠ '\r'

/-- The scheme in lower case and what follows its colon. -/
def splitScheme? (text : List Char) : Option (List Char × List Char) :=
  let scheme := text.takeWhile fun c => c.isAlphanum || c = '+' || c = '-' || c = '.'
  match scheme, text.drop scheme.length with
  | c :: _, ':' :: rest => if c.isAlpha then some (scheme.map Char.toLower, rest) else none
  | _, _ => none

/-- The user and the password of what stands before the last `@`. An empty password is none. -/
def splitUser (info : List Char) : List Char × Option (List Char) :=
  let encode := Text.Percent.encode isUserPlain
  match info.dropWhile (· ≠ ':') with
  | _ :: [] => (encode (info.takeWhile (· ≠ ':')), none)
  | _ :: password => (encode (info.takeWhile (· ≠ ':')), some (encode password))
  | [] => (encode info, none)

/-- The host of an authority and what follows its colon, if there is one. A colon inside brackets
belongs to the host. -/
def splitHost (authority : List Char) : List Char × Option (List Char) :=
  go false authority
where
  /-- Told whether a bracket is open. -/
  go : Bool → List Char → List Char × Option (List Char)
    | _, [] => ([], none)
    | inside, c :: rest =>
      if c = ':' ∧ !inside then ([], some rest)
      else
        let (host, number) := go (c = '[' || (inside && c ≠ ']')) rest
        (c :: host, number)

/-- The number behind a host: digits up to 65535. No digits are none, and so is the default. -/
def portNumber? (default : Nat) : Option (List Char) → Option (Option Nat)
  | none => some none
  | some digits =>
    if digits.all Char.isDigit then
      let n := Text.ofDigits digits
      if digits.isEmpty ∨ n = default then some none
      else if n ≤ 65535 then some (some n)
      else none
    else none

/-- Whether a segment stands for the place itself. -/
def isDot (segment : List Char) : Bool :=
  [".", "%2e"].contains (String.ofList (segment.map Char.toLower))

/-- Whether a segment stands for the place above. -/
def isDotDot (segment : List Char) : Bool :=
  ["..", ".%2e", "%2e.", "%2e%2e"].contains (String.ofList (segment.map Char.toLower))

/-- Resolves the dot segments of a path, told the segments so far from the last one up. A dot
segment at the end leaves an empty one. -/
def resolveDots : List (List Char) → List (List Char) → List (List Char)
  | up, [] => up.reverse
  | up, segment :: rest =>
    let up' := if isDotDot segment then up.drop 1 else if isDot segment then up else segment :: up
    let isDots := isDotDot segment || isDot segment
    resolveDots (if rest.isEmpty && isDots then [] :: up' else up') rest

/-- A path in its one spelling. -/
def pathText (text : List Char) : List Char :=
  let inner := match text with
    | c :: rest => if isSlash c then rest else c :: rest
    | [] => []
  let segments := (Text.splitWhere isSlash inner).map (Text.Percent.encode isPathPlain)
  '/' :: ['/'].intercalate (resolveDots [] segments)

/-- Reads an address that a request can be sent to. -/
def ofText? (text : String) : Option Url := do
  let (scheme, rest) ← splitScheme? (cleaned text.toList)
  let secure ←
    if scheme = "http".toList then some false
    else if scheme = "https".toList then some true
    else none
  let rest := rest.dropWhile isSlash
  let isEnd (c : Char) : Bool := isSlash c || c = '?' || c = '#'
  let authority := rest.takeWhile (!isEnd ·)
  let behind := rest.dropWhile (!isEnd ·)
  let reversed := authority.reverse
  let info := ((reversed.dropWhile (· ≠ '@')).drop 1).reverse
  let (user, password) := splitUser info
  let (hostPart, numberPart) := splitHost (reversed.takeWhile (· ≠ '@')).reverse
  let host ← hostText? hostPart
  let portNumber ← portNumber? (if secure then 443 else 80) numberPart
  let beforeFragment := behind.takeWhile (· ≠ '#')
  let fragment := match behind.dropWhile (· ≠ '#') with
    | _ :: f => some (Text.Percent.encode isFragmentPlain f)
    | [] => none
  let query := match beforeFragment.dropWhile (· ≠ '?') with
    | _ :: q => some (Text.Percent.encode isQueryPlain q)
    | [] => none
  return {
    secure, user, password, host, portNumber, query, fragment
    path := pathText (beforeFragment.takeWhile (· ≠ '?')) }

/-- The address with pairs added to its query. An empty query is dropped. -/
def addPairs (pairs : List (String × String)) (url : Url) : Url :=
  let old := url.query.getD []
  let new := Text.Percent.formPairs pairs
  let query := if old.isEmpty || new.isEmpty then old ++ new else old ++ '&' :: new
  { url with query := if query.isEmpty then none else some query }

/-- User and password as a client is told them, if the address names one of them. -/
def credentials (url : Url) : Option (List Char × Option (List Char)) := do
  let user ← Text.Utf8.decode? (Text.Percent.decode url.user)
  let password := url.password.bind fun p => Text.Utf8.decode? (Text.Percent.decode p)
  if user.isEmpty ∧ password.isNone then none else some (user, password)

/-- The address without user and password. -/
def withoutUser (url : Url) : Url :=
  { url with user := [], password := none }

/-- Path and query, as a request names what it is for. -/
def target (url : Url) : List Char :=
  url.path ++ (url.query.map ('?' :: ·)).getD []

/-- The address in full. -/
def toText (url : Url) : List Char :=
  (if url.secure then "https://".toList else "http://".toList)
    ++ (if url.user.isEmpty ∧ url.password.isNone then []
        else url.user ++ (url.password.map (':' :: ·)).getD [] ++ ['@'])
    ++ url.host ++ (url.portNumber.map fun n => ':' :: (toString n).toList).getD []
    ++ url.target ++ (url.fragment.map ('#' :: ·)).getD []

end Url

end Herald
