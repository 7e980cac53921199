import Mathlib.Data.List.Basic

/-!
# Cathedral.Lib.Url — `urllib.parse.urlsplit`

The parts of a URL, and where `urlsplit` raises `ValueError`: unmatched brackets
in the host, a bracketed host that is no address, and a host that NFKC turns into
one with a delimiter. The Unicode tables and the check of an address are
parameters.
-/

namespace Cathedral

namespace Url

/-- What `urlsplit` looks up. -/
structure Tables where
  /-- `unicodedata.normalize("NFKC", text)`. -/
  nfkc : List Char → List Char
  /-- `_check_bracketed_host` does not raise. -/
  bracketedHost : List Char → Bool

structure SplitResult where
  scheme : List Char
  netloc : List Char
  path : List Char
  query : List Char
  fragment : List Char
deriving DecidableEq

def isSchemeChar (c : Char) : Bool := c.isAlphanum || c = '+' || c = '-' || c = '.'

/-- The scheme, in lower case, and the rest; no scheme where the prefix is none. -/
def splitScheme (url : List Char) : List Char × List Char :=
  let before := url.takeWhile (· ≠ ':')
  match before with
  | [] => ([], url)
  | c :: _ =>
    if before.length < url.length ∧ c.isAlpha = true ∧ before.all isSchemeChar = true then
      (before.map Char.toLower, url.drop (before.length + 1))
    else ([], url)

/-- The text before and after the first `separator`. -/
def partition (separator : Char) (text : List Char) : List Char × List Char :=
  (text.takeWhile (· ≠ separator), (text.dropWhile (· ≠ separator)).drop 1)

/-- The network location of what follows the scheme. -/
def splitNetloc (url : List Char) : List Char × List Char :=
  match url with
  | '/' :: '/' :: rest =>
    (rest.takeWhile fun c => c ∉ ['/', '?', '#'], rest.dropWhile fun c => c ∉ ['/', '?', '#'])
  | _ => ([], url)

/-- `_checknetloc` does not raise. -/
def checkNetloc (tables : Tables) (netloc : List Char) : Bool :=
  if netloc.all fun c => c.toNat < 0x80 then true
  else
    let plain := netloc.filter fun c => c ∉ ['@', ':', '#', '?']
    let normal := tables.nfkc plain
    normal = plain || normal.all fun c => c ∉ ['/', '?', '#', '@', ':']

/-- The brackets of a network location do not raise. -/
def checkBrackets (tables : Tables) (netloc : List Char) : Bool :=
  match decide ('[' ∈ netloc), decide (']' ∈ netloc) with
  | false, false => true
  | true, true => tables.bracketedHost (partition ']' (partition '[' netloc).2).1
  | _, _ => false

/-- `urlsplit(text)`, `none` where it raises `ValueError`. -/
def urlsplit (tables : Tables) (text : List Char) : Option SplitResult :=
  let url := (text.dropWhile fun c => c.toNat ≤ 0x20).filter fun c => c ∉ ['\t', '\r', '\n']
  let (scheme, rest) := splitScheme url
  let (netloc, rest) := splitNetloc rest
  let (rest, fragment) := partition '#' rest
  let (path, query) := partition '?' rest
  if checkBrackets tables netloc = true ∧ checkNetloc tables netloc = true then
    some
      { scheme := scheme
        netloc := netloc
        path := path
        query := query
        fragment := fragment }
  else none

/-- What stands before the last `@` of the network location. -/
def SplitResult.userinfo (url : SplitResult) : List Char :=
  ((url.netloc.reverse.dropWhile (· ≠ '@')).drop 1).reverse

def SplitResult.username (url : SplitResult) : List Char := (partition ':' url.userinfo).1

def SplitResult.password (url : SplitResult) : List Char := (partition ':' url.userinfo).2

example : urlsplit ⟨id, fun _ => false⟩ "HTTPS://user:pw@host/a?b#c".toList =
    some ⟨"https".toList, "user:pw@host".toList, "/a".toList, "b".toList, "c".toList⟩ := by
  decide

end Url

end Cathedral
