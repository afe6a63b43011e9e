import SeriesClient.Http.Address

set_option relaxedAutoImplicit false
set_option autoImplicit false

/-!
# Locations

The form of a location: after the scheme and two slashes come the host, with a user before it
and a socket number after it if there are any, then a path, a query and a fragment. Only some
characters may stand in each part; all others have to be written as a percent sign with two
hexadecimal digits.

## Main definitions

* `SeriesClient.Location.isPlain` — the characters that may stand in a name.
* `SeriesClient.Location.allowed` — whether a part has no characters that it may not have.
* `SeriesClient.Location.isWellFormed` — whether a text has the form of a location.
-/

namespace SeriesClient.Location

/-- The characters that may stand in a name. -/
def isPlain (c : Char) : Bool :=
  c.isAlphanum || "-._~!$&'()*+,;=".toList.contains c

/-- The characters that may stand in a path. -/
def isPathChar (c : Char) : Bool := isPlain c || c = ':' || c = '@' || c = '/'

/-- Whether a part consists of permitted characters, and of others that are written as a
percent sign with two hexadecimal digits. -/
def allowed (permitted : Char → Bool) : List Char → Bool
  | '%' :: a :: b :: rest =>
    NumericHost.isHexDigit a && NumericHost.isHexDigit b && allowed permitted rest
  | c :: rest => c != '%' && permitted c && allowed permitted rest
  | [] => true

/-- Whether what follows a host is nothing, or a socket number. -/
def isSocket : List Char → Bool
  | [] => true
  | c :: digits => c = ':' && digits.all Char.isDigit

/-- Whether a text is a host, with a socket number if there is one. -/
def isHost : List Char → Bool
  | '[' :: rest =>
    match Address.splitAt? ']' rest with
    | some (inner, after) => NumericHost.isGrouped inner && isSocket after
    | none => false
  | cs =>
    let name := cs.takeWhile (· != ':')
    allowed isPlain name && isSocket (cs.drop name.length)

/-- Whether a text is a host, with a user before it if there is one. -/
def isAuthority (cs : List Char) : Bool :=
  match Address.splitAt? '@' cs with
  | some (user, host) => allowed (fun c => isPlain c || c = ':') user && isHost host
  | none => isHost cs

/-- Whether a text has the form of what follows the scheme and two slashes in a location. -/
def isWellFormed (cs : List Char) : Bool :=
  let (rest, fragment) := (Address.splitAt? '#' cs).getD (cs, [])
  let (rest, query) := (Address.splitAt? '?' rest).getD (rest, [])
  let authority := rest.takeWhile (· != '/')
  isAuthority authority && allowed isPathChar (rest.drop authority.length)
    && allowed (fun c => isPathChar c || c = '?') query
    && allowed (fun c => isPathChar c || c = '?') fragment

end SeriesClient.Location
