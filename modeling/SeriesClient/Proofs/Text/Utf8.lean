import Mathlib.Tactic.Lemma
import SeriesClient.Text.Utf8

set_option relaxedAutoImplicit false
set_option autoImplicit false

/-!
# Texts read back from their bytes

The strict reading of the bytes of a text is the text. A character takes up to four bytes; the range
that is allowed for the second one never excludes the bytes of a character.

## Main results

* `SeriesClient.Utf8.step_utf8EncodeChar` — one character is read from its bytes.
* `SeriesClient.Utf8.decode?_encode` — a text is read from its bytes.
* `SeriesClient.Utf8.lt_of_mem_encode` — the bytes of a text in ASCII are in ASCII.
-/

namespace SeriesClient.Utf8

/-! ## Bytes -/

/-- The bytes of an array as they are collected. -/
lemma toList_loop (bs : ByteArray) (i : Nat) (collected : List UInt8) :
    ByteArray.toList.loop bs i collected = collected.reverse ++ bs.data.toList.drop i := by
  induction i, collected using ByteArray.toList.loop.induct bs with
  | case1 i collected hi ih =>
    have hi' : i < bs.data.toList.length := by simpa using hi
    have hget : bs.get! i = bs.data.toList[i] := by
      simp only [ByteArray.get!, Array.getElem_toList]
      exact getElem!_pos bs.data i (by simpa using hi)
    rw [ByteArray.toList.loop, if_pos hi, ih, List.drop_eq_getElem_cons hi', hget,
      List.reverse_cons, List.append_assoc, List.singleton_append]
  | case2 i collected hi =>
    have hi' : bs.data.toList.length ≤ i := by simpa using hi
    rw [ByteArray.toList.loop, if_neg hi, List.drop_eq_nil_of_le hi', List.append_nil]

/-- **The bytes of a text** are those of its characters. -/
lemma encode_eq (s : String) : encode s = s.toList.flatMap String.utf8EncodeChar := by
  have hbytes : s.toUTF8 = (s.toList.flatMap String.utf8EncodeChar).toByteArray := by
    rw [← List.utf8Encode, String.utf8Encode_toList]
    rfl
  rw [encode, hbytes, ByteArray.toList, toList_loop, List.reverse_nil, List.nil_append,
    List.drop_zero, List.toList_data_toByteArray]

/-- A byte that holds a small number. -/
lemma toNat_ofNat {n : Nat} (hn : n < 256) : (UInt8.ofNat n).toNat = n := by
  rw [UInt8.toNat_ofNat']
  exact Nat.mod_eq_of_lt hn

/-! ## One character -/

/-- A byte that goes on adds six bits. -/
lemma followers_cons {low high k : Nat} (hlow : low ≤ k % 64 + 128) (hhigh : k % 64 + 128 ≤ high)
    (bits following : Nat) (rest : List UInt8) :
    followers bits (following + 1) low high (UInt8.ofNat (k % 64 + 128) :: rest) =
      followers (bits * 64 + k % 64) following 0x80 0xbf rest := by
  rw [followers, toNat_ofNat (by omega), if_pos ⟨hlow, hhigh⟩, Nat.add_sub_cancel]

/-- A code point of one byte. -/
lemma step_one {n : Nat} (hn : n < 0x80) (rest : List UInt8) :
    step (UInt8.ofNat n) rest = (some (Char.ofNat n), rest) := by
  have hlead : lead? (UInt8.ofNat n) = some ⟨n, 0, 0x80, 0xbf⟩ := by
    rw [lead?, toNat_ofNat (by omega), if_pos hn]
  rw [step, hlead]
  rfl

/-- A code point of two bytes. -/
lemma step_two {n : Nat} (hlow : 0x80 ≤ n) (hhigh : n < 0x800) (rest : List UInt8) :
    step (UInt8.ofNat (n / 64 % 32 + 192)) (UInt8.ofNat (n % 64 + 128) :: rest) =
      (some (Char.ofNat n), rest) := by
  have hlead : lead? (UInt8.ofNat (n / 64 % 32 + 192)) =
      some ⟨n / 64 % 32 + 192 - 0xc0, 1, 0x80, 0xbf⟩ := by
    rw [lead?, toNat_ofNat (by omega), if_neg (by omega), if_neg (by omega), if_pos (by omega)]
  have hvalue : (n / 64 % 32 + 192 - 0xc0) * 64 + n % 64 = n := by omega
  rw [step, hlead]
  dsimp only
  rw [followers_cons (by omega) (by omega), hvalue, followers]

/-- A code point of three bytes. -/
lemma step_three {n : Nat} (hlow : 0x800 ≤ n) (hhigh : n < 0x10000)
    (hvalid : n < 0xd800 ∨ 0xdfff < n) (rest : List UInt8) :
    step (UInt8.ofNat (n / 4096 % 16 + 224))
      (UInt8.ofNat (n / 64 % 64 + 128) :: UInt8.ofNat (n % 64 + 128) :: rest) =
      (some (Char.ofNat n), rest) := by
  obtain ⟨low, high, hlead, hbounds⟩ : ∃ low high,
      lead? (UInt8.ofNat (n / 4096 % 16 + 224)) =
        some ⟨n / 4096 % 16 + 224 - 0xe0, 2, low, high⟩ ∧
      low ≤ n / 64 % 64 + 128 ∧ n / 64 % 64 + 128 ≤ high := by
    rw [lead?, toNat_ofNat (by omega), if_neg (by omega), if_neg (by omega), if_neg (by omega),
      if_pos (by omega)]
    refine ⟨_, _, rfl, ?_, ?_⟩
    · split <;> omega
    · split <;> omega
  have hvalue : ((n / 4096 % 16 + 224 - 0xe0) * 64 + n / 64 % 64) * 64 + n % 64 = n := by omega
  rw [step, hlead]
  dsimp only
  rw [followers_cons hbounds.1 hbounds.2, followers_cons (by omega) (by omega), hvalue, followers]

/-- A code point of four bytes. -/
lemma step_four {n : Nat} (hlow : 0x10000 ≤ n) (hhigh : n < 0x110000) (rest : List UInt8) :
    step (UInt8.ofNat (n / 262144 % 8 + 240))
      (UInt8.ofNat (n / 4096 % 64 + 128) :: UInt8.ofNat (n / 64 % 64 + 128) ::
        UInt8.ofNat (n % 64 + 128) :: rest) =
      (some (Char.ofNat n), rest) := by
  obtain ⟨low, high, hlead, hbounds⟩ : ∃ low high,
      lead? (UInt8.ofNat (n / 262144 % 8 + 240)) =
        some ⟨n / 262144 % 8 + 240 - 0xf0, 3, low, high⟩ ∧
      low ≤ n / 4096 % 64 + 128 ∧ n / 4096 % 64 + 128 ≤ high := by
    rw [lead?, toNat_ofNat (by omega), if_neg (by omega), if_neg (by omega), if_neg (by omega),
      if_neg (by omega), if_pos (by omega)]
    refine ⟨_, _, rfl, ?_, ?_⟩
    · split <;> omega
    · split <;> omega
  have hvalue : (((n / 262144 % 8 + 240 - 0xf0) * 64 + n / 4096 % 64) * 64 + n / 64 % 64) * 64 +
      n % 64 = n := by omega
  rw [step, hlead]
  dsimp only
  rw [followers_cons hbounds.1 hbounds.2, followers_cons (by omega) (by omega),
    followers_cons (by omega) (by omega), hvalue, followers]

/-- **One character is read from its bytes.** -/
theorem step_utf8EncodeChar (c : Char) (rest : List UInt8) :
    ∃ b bs, String.utf8EncodeChar c = b :: bs ∧ step b (bs ++ rest) = (some c, rest) := by
  have hvalid : c.val.toNat < 0xd800 ∨ 0xdfff < c.val.toNat ∧ c.val.toNat < 0x110000 := c.valid
  have hchar : Char.ofNat c.val.toNat = c := Char.ofNat_toNat c
  rw [String.utf8EncodeChar]
  generalize c.val.toNat = n at hvalid hchar ⊢
  subst hchar
  split
  · exact ⟨_, _, rfl, step_one (by omega) rest⟩
  · split
    · exact ⟨_, _, rfl, step_two (by omega) (by omega) rest⟩
    · split
      · exact ⟨_, _, rfl, step_three (by omega) (by omega) (by omega) rest⟩
      · exact ⟨_, _, rfl, step_four (by omega) (by omega) rest⟩

/-! ## Texts -/

/-- The characters of a text are read one after the other. -/
lemma characters_flatMap (cs : List Char) :
    characters (cs.flatMap String.utf8EncodeChar) = cs.map some := by
  induction cs with
  | nil => rw [List.flatMap_nil, characters, List.map_nil]
  | cons c cs ih =>
    obtain ⟨b, bs, hbytes, hstep⟩ := step_utf8EncodeChar c (cs.flatMap String.utf8EncodeChar)
    rw [List.flatMap_cons, hbytes, List.cons_append, characters, hstep, ih, List.map_cons]

/-- **A text is read from its bytes.** -/
theorem decode?_encode (s : String) : decode? (encode s) = some s.toList := by
  have hchars : (s.toList.map some).mapM id = some s.toList := by
    rw [List.mapM_map]
    exact List.mapM_pure.trans (congrArg some (List.map_id _))
  rw [decode?, encode_eq, characters_flatMap, hchars]

/-- Bytes that are read as no text are no bytes: each byte is read, or leaves a mark. -/
lemma decodeLossy_eq_nil_iff {bs : List UInt8} : decodeLossy bs = [] ↔ bs = [] := by
  cases bs with
  | nil => simp [decodeLossy, characters]
  | cons b bs => simp [decodeLossy, characters]

/-- No character of a text is replaced when it is read from its bytes. -/
lemma decodeLossy_encode (s : String) : decodeLossy (encode s) = s.toList := by
  rw [decodeLossy, encode_eq, characters_flatMap, List.map_map]
  exact List.map_id _

/-- **The bytes of a text in ASCII are in ASCII.** -/
theorem lt_of_mem_encode {s : String} (h : ∀ c ∈ s.toList, c.toNat < 0x80) {b : UInt8}
    (hb : b ∈ encode s) : b < 0x80 := by
  rw [encode_eq] at hb
  obtain ⟨c, hc, hb⟩ := List.mem_flatMap.mp hb
  have hascii : c.val.toNat < 0x80 := h c hc
  rw [String.utf8EncodeChar, if_pos (by omega), List.mem_singleton] at hb
  rw [UInt8.lt_iff_toNat_lt, hb, toNat_ofNat (by omega)]
  exact hascii

end SeriesClient.Utf8
