set_option relaxedAutoImplicit false
set_option autoImplicit false

/-!
# Lossy and strict reading of UTF-8

Bytes are read as UTF-8. The strict reading fails on the first ill-formed sequence; the
lossy one puts one replacement character in the place of each maximal part of a sequence
that could still have been completed, and of each byte that cannot start one.

## Main definitions

* `SeriesClient.Utf8.encode` — the bytes of a text.
* `SeriesClient.Utf8.step` — reads one character, or says how many bytes are ill-formed.
* `SeriesClient.Utf8.decodeLossy` — reads all bytes with replacement.
* `SeriesClient.Utf8.decode?` — reads all bytes, or fails.

## Design

The range allowed for the second byte depends on the first: it excludes overlong forms,
surrogates and numbers beyond the last code point, so any byte that is accepted belongs to
a sequence that can be completed.
-/

namespace SeriesClient.Utf8

/-- The replacement character. -/
def replacement : Char := '\uFFFD'

/-- What a leading byte announces: its own bits, how many bytes follow, and the range of
the first of them. -/
structure Lead where
  /-- The bits the leading byte contributes. -/
  bits : Nat
  /-- How many bytes follow. -/
  following : Nat
  /-- Least value of the second byte. -/
  low : Nat
  /-- Greatest value of the second byte. -/
  high : Nat

/-- What a leading byte announces, if it can lead a sequence. -/
def lead? (b : UInt8) : Option Lead :=
  let n := b.toNat
  if n < 0x80 then some ⟨n, 0, 0x80, 0xbf⟩
  else if n < 0xc2 then none
  else if n < 0xe0 then some ⟨n - 0xc0, 1, 0x80, 0xbf⟩
  else if n < 0xf0 then
    some ⟨n - 0xe0, 2, if n = 0xe0 then 0xa0 else 0x80, if n = 0xed then 0x9f else 0xbf⟩
  else if n < 0xf5 then
    some ⟨n - 0xf0, 3, if n = 0xf0 then 0x90 else 0x80, if n = 0xf4 then 0x8f else 0xbf⟩
  else none

/-- Reads up to `following` continuation bytes after `bits`; yields the bits read and how
many bytes were still missing where the reading stopped. -/
def followers (bits : Nat) : Nat → Nat → Nat → List UInt8 → Nat × Nat × List UInt8
  | 0, _, _, rest => (bits, 0, rest)
  | following + 1, _, _, [] => (bits, following + 1, [])
  | following + 1, low, high, b :: rest =>
    if low ≤ b.toNat ∧ b.toNat ≤ high then
      followers (bits * 64 + (b.toNat - 0x80)) following 0x80 0xbf rest
    else (bits, following + 1, b :: rest)

/-- Reading continuation bytes leaves no more bytes than there were. -/
theorem followers_length (bits following low high : Nat) (bs : List UInt8) :
    (followers bits following low high bs).2.2.length ≤ bs.length := by
  induction following generalizing bits low high bs with
  | zero => simp [followers]
  | succ following ih =>
    cases bs with
    | nil => simp [followers]
    | cons b rest =>
      simp only [followers]
      split
      · exact Nat.le_trans (ih _ _ _ rest) (Nat.le_succ _)
      · simp

/-- Reads one character from `b :: rest`: the character, or `none` for an ill-formed
sequence, and the bytes after it. -/
def step (b : UInt8) (rest : List UInt8) : Option Char × List UInt8 :=
  match lead? b with
  | none => (none, rest)
  | some lead =>
    match followers lead.bits lead.following lead.low lead.high rest with
    | (bits, 0, rest') => (some (Char.ofNat bits), rest')
    | (_, _ + 1, rest') => (none, rest')

/-- Reading a character leaves no more bytes than followed its first. -/
theorem step_length (b : UInt8) (rest : List UInt8) : (step b rest).2.length ≤ rest.length := by
  unfold step
  split
  · exact Nat.le_refl _
  · next lead _ =>
    have := followers_length lead.bits lead.following lead.low lead.high rest
    split <;> simp_all

/-- The characters of a byte string, with `none` for each ill-formed part. -/
def characters : List UInt8 → List (Option Char)
  | [] => []
  | b :: rest =>
    (step b rest).1 :: characters (step b rest).2
termination_by bs => bs.length
decreasing_by
  have := step_length b rest
  simp
  omega

/-- Reads bytes with replacement. -/
def decodeLossy (bs : List UInt8) : List Char :=
  (characters bs).map (·.getD replacement)

/-- Reads bytes, or fails if they are not UTF-8. -/
def decode? (bs : List UInt8) : Option (List Char) :=
  (characters bs).mapM id

/-- The bytes of a text. -/
def encode (s : String) : List UInt8 :=
  s.toUTF8.toList

end SeriesClient.Utf8
