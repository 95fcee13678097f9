import Mathlib

/-!
# Little-endian words

Fixed-width unsigned integers as byte lists, least significant byte first.
Decoding is the digit evaluation `Nat.ofDigits` in base 256, so it is total on
lists of any length; encoding drops whatever does not fit the width.
-/

namespace Muxio.Encoding

/-- The `width` little-endian bytes of `value`. -/
def leBytes : Nat → Nat → List UInt8
  | 0, _ => []
  | width + 1, value => UInt8.ofNat value :: leBytes width (value / 256)

/-- The number whose little-endian bytes are given. -/
def leValue (bytes : List UInt8) : Nat :=
  Nat.ofDigits 256 (bytes.map UInt8.toNat)

@[simp]
theorem leBytes_length (width value : Nat) : (leBytes width value).length = width := by
  induction width generalizing value with
  | zero => rfl
  | succ width ih => simp [leBytes, ih]

@[simp]
theorem leValue_cons (byte : UInt8) (rest : List UInt8) :
    leValue (byte :: rest) = byte.toNat + 256 * leValue rest := by
  simp [leValue, Nat.ofDigits_cons]

/-- Encoding keeps the value up to the width. -/
theorem leValue_leBytes (width value : Nat) :
    leValue (leBytes width value) = value % 256 ^ width := by
  induction width generalizing value with
  | zero => simp [leBytes, leValue, Nat.mod_one]
  | succ width ih =>
      rw [leBytes, leValue_cons, ih, pow_succ', Nat.mod_mul]
      simp

theorem leValue_lt (bytes : List UInt8) : leValue bytes < 256 ^ bytes.length := by
  have digits : ∀ digit ∈ bytes.map UInt8.toNat, digit < 256 := by
    intro digit member
    obtain ⟨byte, -, rfl⟩ := List.mem_map.mp member
    exact byte.toNat_lt
  have bounded := Nat.ofDigits_lt_base_pow_length (by decide) digits
  rwa [List.length_map] at bounded

/-- The bytes are those of the value they have. -/
theorem leBytes_leValue (bytes : List UInt8) : leBytes bytes.length (leValue bytes) = bytes := by
  induction bytes with
  | nil => rfl
  | cons byte rest ih =>
      have low : UInt8.ofNat (byte.toNat + 256 * leValue rest) = byte := by
        apply UInt8.toNat_inj.mp
        rw [UInt8.toNat_ofNat', Nat.add_mul_mod_self_left, Nat.mod_eq_of_lt byte.toNat_lt]
      have high : (byte.toNat + 256 * leValue rest) / 256 = leValue rest := by
        rw [Nat.add_mul_div_left _ _ (by decide), Nat.div_eq_of_lt byte.toNat_lt, Nat.zero_add]
      rw [List.length_cons, leValue_cons, leBytes, low, high, ih]

/-- `u16::to_le_bytes` and `u16::from_le_bytes`. -/
def u16ToLeBytes (value : UInt16) : List UInt8 := leBytes 2 value.toNat

@[inherit_doc u16ToLeBytes]
def u16FromLeBytes (bytes : List UInt8) : UInt16 := UInt16.ofNat (leValue bytes)

/-- `u32::to_le_bytes` and `u32::from_le_bytes`. -/
def u32ToLeBytes (value : UInt32) : List UInt8 := leBytes 4 value.toNat

@[inherit_doc u32ToLeBytes]
def u32FromLeBytes (bytes : List UInt8) : UInt32 := UInt32.ofNat (leValue bytes)

/-- `u64::to_le_bytes` and `u64::from_le_bytes`. -/
def u64ToLeBytes (value : UInt64) : List UInt8 := leBytes 8 value.toNat

@[inherit_doc u64ToLeBytes]
def u64FromLeBytes (bytes : List UInt8) : UInt64 := UInt64.ofNat (leValue bytes)

@[simp]
theorem u16ToLeBytes_length (value : UInt16) : (u16ToLeBytes value).length = 2 :=
  leBytes_length 2 _

@[simp]
theorem u32ToLeBytes_length (value : UInt32) : (u32ToLeBytes value).length = 4 :=
  leBytes_length 4 _

@[simp]
theorem u64ToLeBytes_length (value : UInt64) : (u64ToLeBytes value).length = 8 :=
  leBytes_length 8 _

@[simp]
theorem u16FromLeBytes_toLeBytes (value : UInt16) :
    u16FromLeBytes (u16ToLeBytes value) = value := by
  have bounded : value.toNat < 256 ^ 2 := value.toNat_lt
  rw [u16FromLeBytes, u16ToLeBytes, leValue_leBytes, Nat.mod_eq_of_lt bounded, UInt16.ofNat_toNat]

@[simp]
theorem u32FromLeBytes_toLeBytes (value : UInt32) :
    u32FromLeBytes (u32ToLeBytes value) = value := by
  have bounded : value.toNat < 256 ^ 4 := value.toNat_lt
  rw [u32FromLeBytes, u32ToLeBytes, leValue_leBytes, Nat.mod_eq_of_lt bounded, UInt32.ofNat_toNat]

/-- Four bytes are read and written back unchanged. -/
theorem u32ToLeBytes_fromLeBytes {bytes : List UInt8} (length : bytes.length = 4) :
    u32ToLeBytes (u32FromLeBytes bytes) = bytes := by
  have bounded : leValue bytes < UInt32.size := by
    have lower := leValue_lt bytes
    rwa [length] at lower
  rw [u32ToLeBytes, u32FromLeBytes, UInt32.toNat_ofNat_of_lt' bounded, ← length, leBytes_leValue]

@[simp]
theorem u64FromLeBytes_toLeBytes (value : UInt64) :
    u64FromLeBytes (u64ToLeBytes value) = value := by
  have bounded : value.toNat < 256 ^ 8 := value.toNat_lt
  rw [u64FromLeBytes, u64ToLeBytes, leValue_leBytes, Nat.mod_eq_of_lt bounded, UInt64.ofNat_toNat]

end Muxio.Encoding
