import SeriesClient.Fault
import SeriesClient.Http.NumericHost
import SeriesClient.Number.Literal
import SeriesClient.Text.LowerCase
import SeriesClient.Text.Quoted

set_option relaxedAutoImplicit false
set_option autoImplicit false

/-!
# Server addresses

The parts of the address of a server: scheme, host, socket number and path.

## Main definitions

* `SeriesClient.Address` — the parts.
* `SeriesClient.Address.ofText` — takes an address apart.
* `SeriesClient.Address.isUsable` — whether requests can be made to an address.
* `SeriesClient.Address.socketNumber?` — the socket number.
* `SeriesClient.Address.join` — the path of a request below the path of the address.

## Design

An address without two slashes after its scheme has no host. What stands before an `@` in
front of the host, and what follows a `#`, is left out.
-/

namespace SeriesClient

/-- The parts of an address. -/
structure Address where
  /-- The scheme in lower case; empty if there is none. -/
  scheme : List Char
  /-- User, host and socket number as they are written; empty if there are none. -/
  authority : List Char
  /-- The host in lower case; empty if there is none. -/
  host : List Char
  /-- The digits of the socket number; empty if there is none. -/
  socket : List Char
  /-- The path. -/
  path : List Char
  /-- What follows a question mark. -/
  query : Option (List Char)
  deriving DecidableEq, Repr

namespace Address

/-- Whether a character may be part of a scheme. -/
def isSchemeChar (c : Char) : Bool :=
  c.isAlphanum || c = '+' || c = '-' || c = '.'

/-- The scheme of an address, with what follows its colon. -/
def splitScheme (cs : List Char) : List Char × List Char :=
  let candidate := cs.takeWhile (· != ':')
  match cs.drop candidate.length with
  | _ :: rest =>
    if (candidate.head?.map Char.isAlpha).getD false && candidate.all isSchemeChar then
      (candidate.map Char.toLower, rest)
    else ([], cs)
  | [] => ([], cs)

/-- The text before and after the first occurrence of a character, if it occurs. -/
def splitAt? (c : Char) (cs : List Char) : Option (List Char × List Char) :=
  let before := cs.takeWhile (· != c)
  match cs.drop before.length with
  | _ :: after => some (before, after)
  | [] => none

/-- The text after the last occurrence of a character, or all of it. -/
def afterLast (c : Char) (cs : List Char) : List Char :=
  (cs.reverse.takeWhile (· != c)).reverse

/-- Host and socket number; a host that contains colons stands in square brackets. -/
def splitHost (cs : List Char) : List Char × List Char :=
  match splitAt? '[' cs with
  | some (_, inner) =>
    match splitAt? ']' inner with
    | some (host, rest) => (host, ((splitAt? ':' rest).map Prod.snd).getD [])
    | none => (inner, [])
  | none => (splitAt? ':' cs).getD (cs, [])

/-- A host in lower case, but for what follows a percent sign, which names a zone. -/
def lowerHost (cs : List Char) : List Char :=
  let name := cs.takeWhile (· != '%')
  lowerChars name ++ cs.drop name.length

/-- Takes an address apart. -/
def ofText (s : String) : Address :=
  let cs := (s.toList.dropWhile fun c => c.toNat ≤ 0x20).filter fun c =>
    c != '\t' && c != '\r' && c != '\n'
  let (scheme, rest) := splitScheme cs
  let rest := ((splitAt? '#' rest).map Prod.fst).getD rest
  let (rest, query) := match splitAt? '?' rest with
    | some (before, after) => (before, some after)
    | none => (rest, none)
  match rest with
  | '/' :: '/' :: rest =>
    let authority := rest.takeWhile (· != '/')
    let (host, socket) := splitHost (afterLast '@' authority)
    ⟨scheme, authority, lowerHost host, socket, rest.drop authority.length, query⟩
  | path => ⟨scheme, [], [], [], path, query⟩

/-- Host and what follows it, where a host in square brackets ends at the last bracket. -/
def splitHostText (cs : List Char) : List Char × List Char :=
  let inBrackets := ((cs.reverse.dropWhile (· != ']')).reverse)
  if cs.head? = some '[' ∧ !inBrackets.isEmpty then (inBrackets, cs.drop inBrackets.length)
  else
    let host := cs.takeWhile fun c => c != ':' && c != '@'
    (host, cs.drop host.length)

/-- Whether a host can be what it has the form of: a host in brackets has to be groups, and
four numbers have to be small enough. -/
def isHostText (host : List Char) : Bool :=
  match host with
  | '[' :: inner => inner.getLast? != some ']' || NumericHost.isGrouped inner.dropLast
  | host => !NumericHost.looksDotted host || NumericHost.isDotted host

/-- Whether requests can be made to an address: what follows the host is a number, and a host
that is given by numbers is one. -/
def isUsable (a : Address) : Bool :=
  let (host, rest) := splitHostText (((splitAt? '@' a.authority).map Prod.snd).getD a.authority)
  let number := if rest.head? = some ':' then rest.drop 1 else rest
  (number.isEmpty || (Literal.int? number).isSome) && isHostText host

/-- The socket number; none if there is none. -/
def socketNumber? (a : Address) : Except Fault (Option Nat) :=
  if a.socket.isEmpty then .ok none
  else if a.socket.all Char.isDigit then
    let n := a.socket.foldl (fun n c => n * 10 + (c.toNat - '0'.toNat)) 0
    if n ≤ 65535 then .ok (some n) else .error (.invalid .socketRange)
  else .error (.invalid (.socket (String.ofList (Quoted.text a.socket))))

/-- The path of a request below the path of the address. -/
def join (a : Address) (path : String) : String :=
  let base := if a.path.getLast? = some '/' then a.path else a.path ++ ['/']
  String.ofList (base ++ path.toList.dropWhile (· = '/'))

end Address

end SeriesClient
