set_option relaxedAutoImplicit false
set_option autoImplicit false

/-!
# Numeric hosts

Hosts that are given by numbers and not by a name: four decimal numbers between dots, or
groups of hexadecimal digits between colons.

## Main definitions

* `SeriesClient.NumericHost.pieces` — the parts of a text between separators.
* `SeriesClient.NumericHost.isDotted` — four numbers between dots.
* `SeriesClient.NumericHost.isGrouped` — groups of hexadecimal digits between colons.

## Design

There are eight groups. Two colons in a row, which may occur once, stand for all groups that
are missing, and four numbers between dots may take the place of the last two groups.
-/

namespace SeriesClient.NumericHost

/-- The parts of a text between occurrences of a separator. -/
def pieces (separator : Char) : List Char → List (List Char)
  | [] => [[]]
  | c :: rest =>
    if c = separator then [] :: pieces separator rest
    else
      match pieces separator rest with
      | [] => [[c]]
      | piece :: more => (c :: piece) :: more

/-- Whether a text is a number up to 255 without needless zeros. -/
def isOctet (cs : List Char) : Bool :=
  match cs with
  | [] => false
  | first :: rest =>
    cs.all Char.isDigit && (first != '0' || rest.isEmpty)
      && decide (cs.foldl (fun n c => n * 10 + (c.toNat - '0'.toNat)) 0 ≤ 255)

/-- Whether a text has the form of four numbers between dots, whatever their size. -/
def looksDotted (cs : List Char) : Bool :=
  let numbers := pieces '.' cs
  numbers.length == 4 && numbers.all fun n => !n.isEmpty && n.all Char.isDigit

/-- Whether a text is four numbers up to 255 between dots. -/
def isDotted (cs : List Char) : Bool :=
  let numbers := pieces '.' cs
  numbers.length == 4 && numbers.all isOctet

/-- Whether a character is a hexadecimal digit. -/
def isHexDigit (c : Char) : Bool :=
  c.isDigit || ('a' ≤ c && c ≤ 'f') || ('A' ≤ c && c ≤ 'F')

/-- Whether a text is a group. -/
def isGroup (cs : List Char) : Bool :=
  !cs.isEmpty && decide (cs.length ≤ 4) && cs.all isHexDigit

/-- The number of groups that some parts stand for, if all of them are groups; the last part
may also be four numbers between dots. -/
def groupCount? : List (List Char) → Option Nat
  | [] => some 0
  | [last] => if isGroup last then some 1 else if isDotted last then some 2 else none
  | part :: rest => if isGroup part then (groupCount? rest).map (· + 1) else none

/-- The number of groups of a text, which has none if it is empty. -/
def groupsOf? (cs : List Char) : Option Nat :=
  if cs.isEmpty then some 0 else groupCount? (pieces ':' cs)

/-- The text before and after the first two colons in a row. -/
def splitGap? : List Char → Option (List Char × List Char)
  | ':' :: ':' :: rest => some ([], rest)
  | c :: rest => (splitGap? rest).map fun (before, after) => (c :: before, after)
  | [] => none

/-- Whether a text is groups of hexadecimal digits between colons. -/
def isGrouped (cs : List Char) : Bool :=
  match splitGap? cs with
  | none => groupsOf? cs == some 8
  | some (before, after) =>
    match groupsOf? before, groupsOf? after with
    | some m, some n => !before.contains '.' && decide (m + n ≤ 7)
    | _, _ => false

end SeriesClient.NumericHost
