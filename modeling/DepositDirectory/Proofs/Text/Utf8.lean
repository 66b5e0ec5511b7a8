import DepositDirectory.Text.Utf8

/-!
# Text survives its bytes

The bytes of a text, read as UTF-8, are the text again, whatever characters it has: the first byte
of each character says how many bytes follow, and none of the bytes that do is out of its range.
-/

namespace DepositDirectory.Text

/-! ## Single bytes -/

theorem toNat_byte {n : Nat} (small : n < 256) : (UInt8.ofNat n).toNat = n := by
  rw [UInt8.toNat_ofNat', Nat.mod_eq_of_lt small]

/-- A byte lies between two others when its value does. -/
theorem byte_between {n : Nat} {low high : UInt8} (small : n < 256) (above : low.toNat ≤ n)
    (below : n ≤ high.toNat) :
    (decide (low ≤ UInt8.ofNat n) && decide (UInt8.ofNat n ≤ high)) = true := by
  simp only [UInt8.le_iff_toNat_le, toNat_byte small, above, below, decide_true, Bool.and_self]

theorem appendBits_byte {value n : Nat} (small : n < 64) :
    appendBits value (UInt8.ofNat (n + 128)) = value * 64 + n := by
  rw [appendBits, toNat_byte (by omega)]
  omega

/-- A following byte adds its six bits to the value. -/
theorem takeContinuations_byte {value count n : Nat} (small : n < 64) (rest : List UInt8) :
    takeContinuations value (count + 1) (UInt8.ofNat (n + 128) :: rest) =
      ((takeContinuations (value * 64 + n) count rest).1,
        (takeContinuations (value * 64 + n) count rest).2.1,
        (takeContinuations (value * 64 + n) count rest).2.2 + 1) := by
  have follows : isContinuation (UInt8.ofNat (n + 128)) = true :=
    byte_between (by omega) (Nat.le_add_left 128 n) (show n + 128 ≤ 191 by omega)
  rw [takeContinuations, if_pos follows, appendBits_byte small]

theorem followers?_two : ∀ n < 32, 2 ≤ n →
    followers? (UInt8.ofNat (n + 192)) = some (1, 0x80, 0xBF) := by
  decide

/-- Not every second byte follows the first byte of three with no bits of its own, nor the one under
which the surrogates would be. -/
theorem followers?_three : ∀ n < 16, followers? (UInt8.ofNat (n + 224)) =
    some (2, if n = 0 then 0xA0 else 0x80, if n = 13 then 0x9F else 0xBF) := by
  decide

theorem followers?_four : ∀ n < 5, followers? (UInt8.ofNat (n + 240)) =
    some (3, if n = 0 then 0x90 else 0x80, if n = 4 then 0x8F else 0xBF) := by
  decide

/-! ## Single characters -/

/-- A first byte begins a character when the next one is in the range that it asks for. -/
theorem readScalar_of_followers {first second count : Nat} {low high : UInt8}
    (large : 0x80 ≤ first) (small : first < 256)
    (follows : followers? (UInt8.ofNat first) = some (count, low, high)) (bounded : second < 64)
    (above : low.toNat ≤ second + 128) (below : second + 128 ≤ high.toNat) (rest : List UInt8) :
    readScalar (UInt8.ofNat first) (UInt8.ofNat (second + 128) :: rest) =
      let taken := takeContinuations (first % Nat.pow 2 (6 - count) * 64 + second) (count - 1) rest
      (if taken.2.1 = 0 then some (Char.ofNat taken.1) else none, taken.2.2 + 1) := by
  have outside : ¬ UInt8.ofNat first < 0x80 := by
    rw [UInt8.lt_iff_toNat_lt, toNat_byte small]
    exact Nat.not_lt.mpr large
  rw [readScalar, if_neg outside, follows]
  dsimp only
  rw [if_pos (byte_between (by omega) above below), appendBits_byte bounded, firstBits,
    toNat_byte small]

theorem readScalar_one {v : Nat} (small : v < 128) (rest : List UInt8) :
    readScalar (UInt8.ofNat v) rest = (some (Char.ofNat v), 0) := by
  have byte := toNat_byte (n := v) (by omega)
  have ascii : UInt8.ofNat v < 0x80 := by
    rw [UInt8.lt_iff_toNat_lt, byte]
    exact small
  rw [readScalar, if_pos ascii, byte]

theorem readScalar_two {v : Nat} (low : 0x80 ≤ v) (high : v ≤ 0x7FF) (rest : List UInt8) :
    readScalar (UInt8.ofNat (v / 64 % 32 + 192)) (UInt8.ofNat (v % 64 + 128) :: rest) =
      (some (Char.ofNat v), 1) := by
  have follows := followers?_two (v / 64 % 32) (by omega) (by omega)
  have value : (v / 64 % 32 + 192) % Nat.pow 2 (6 - 1) * 64 + v % 64 = v := by
    change (v / 64 % 32 + 192) % 32 * 64 + v % 64 = v
    omega
  rw [readScalar_of_followers (by omega) (by omega) follows (by omega) (Nat.le_add_left 128 _)
    (show _ ≤ 191 by omega), value]
  rfl

theorem readScalar_three {v : Nat} (low : 0x800 ≤ v) (high : v ≤ 0xFFFF)
    (scalar : v < 0xD800 ∨ 0xDFFF < v) (rest : List UInt8) :
    readScalar (UInt8.ofNat (v / 4096 % 16 + 224))
        (UInt8.ofNat (v / 64 % 64 + 128) :: UInt8.ofNat (v % 64 + 128) :: rest) =
      (some (Char.ofNat v), 2) := by
  have follows := followers?_three (v / 4096 % 16) (by omega)
  have value :
      ((v / 4096 % 16 + 224) % Nat.pow 2 (6 - 2) * 64 + v / 64 % 64) * 64 + v % 64 = v := by
    change ((v / 4096 % 16 + 224) % 16 * 64 + v / 64 % 64) * 64 + v % 64 = v
    omega
  rw [readScalar_of_followers (by omega) (by omega) follows (by omega),
    takeContinuations_byte (by omega), value]
  · rfl
  · split
    · change 160 ≤ _
      omega
    · exact Nat.le_add_left 128 _
  · split
    · change _ ≤ 159
      omega
    · change _ ≤ 191
      omega

theorem readScalar_four {v : Nat} (low : 0x10000 ≤ v) (high : v < 0x110000) (rest : List UInt8) :
    readScalar (UInt8.ofNat (v / 262144 % 8 + 240))
        (UInt8.ofNat (v / 4096 % 64 + 128) :: UInt8.ofNat (v / 64 % 64 + 128) ::
          UInt8.ofNat (v % 64 + 128) :: rest) =
      (some (Char.ofNat v), 3) := by
  have follows := followers?_four (v / 262144 % 8) (by omega)
  have value : (((v / 262144 % 8 + 240) % Nat.pow 2 (6 - 3) * 64 + v / 4096 % 64) * 64 +
      v / 64 % 64) * 64 + v % 64 = v := by
    change (((v / 262144 % 8 + 240) % 8 * 64 + v / 4096 % 64) * 64 + v / 64 % 64) * 64 + v % 64 = v
    omega
  rw [readScalar_of_followers (by omega) (by omega) follows (by omega),
    takeContinuations_byte (by omega), takeContinuations_byte (by omega), value]
  · rfl
  · split
    · change 144 ≤ _
      omega
    · exact Nat.le_add_left 128 _
  · split
    · change _ ≤ 143
      omega
    · change _ ≤ 191
      omega

/-- The bytes of a character are read as that character, and no byte after them is. -/
theorem readScalar_utf8EncodeChar (c : Char) (rest : List UInt8) :
    ∃ first more, String.utf8EncodeChar c = first :: more ∧
      readScalar first (more ++ rest) = (some c, more.length) := by
  have valid : c.val.toNat < 0xD800 ∨ 0xDFFF < c.val.toNat ∧ c.val.toNat < 0x110000 := c.valid
  have whole : c = Char.ofNat c.val.toNat := (Char.ofNat_toNat c).symm
  rw [congrArg some whole]
  unfold String.utf8EncodeChar
  dsimp only
  split
  · exact ⟨_, _, rfl, readScalar_one (by omega) rest⟩
  · split
    · exact ⟨_, _, rfl, readScalar_two (by omega) (by omega) rest⟩
    · split
      · exact ⟨_, _, rfl, readScalar_three (by omega) (by omega) (by omega) rest⟩
      · exact ⟨_, _, rfl, readScalar_four (by omega) (by omega) rest⟩

/-! ## Texts -/

@[simp]
theorem utf8_nil : utf8 [] = [] := rfl

@[simp]
theorem utf8_cons (c : Char) (cs : List Char) :
    utf8 (c :: cs) = String.utf8EncodeChar c ++ utf8 cs := rfl

@[simp]
theorem utf8_append (before after : List Char) :
    utf8 (before ++ after) = utf8 before ++ utf8 after :=
  List.flatMap_append

theorem ofUtf8?_utf8 (cs : List Char) : ofUtf8? (utf8 cs) = some cs := by
  induction cs with
  | nil => rw [utf8_nil, ofUtf8?]
  | cons c cs ih =>
      obtain ⟨first, more, bytes, read⟩ := readScalar_utf8EncodeChar c (utf8 cs)
      rw [utf8_cons, bytes, List.cons_append, ofUtf8?, read]
      dsimp only
      rw [List.drop_left, ih, Option.map_some]

/-- Where nothing has to be replaced, nothing is. -/
theorem ofUtf8_utf8 (cs : List Char) : ofUtf8 (utf8 cs) = cs := by
  induction cs with
  | nil => rw [utf8_nil, ofUtf8]
  | cons c cs ih =>
      obtain ⟨first, more, bytes, read⟩ := readScalar_utf8EncodeChar c (utf8 cs)
      rw [utf8_cons, bytes, List.cons_append, ofUtf8, read]
      dsimp only
      rw [List.drop_left, ih, Option.getD_some]

end DepositDirectory.Text
