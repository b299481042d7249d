import Mathlib.Data.List.Basic

/-!
# Flat memory

A memory is a function from addresses to cells. `write` overlays a list of
cells at an address, `read` takes a range of cells out. Both are total: a range
check is a statement about the addresses, never part of the operation, so that
a program that writes outside its range can be modelled and caught.

The cells are of any type; the little-endian encoding at the end is for bytes.
-/

namespace ByteMem

variable {α : Type*}

/-- Overlay `xs` on the memory, its first cell at address `off`. -/
def write (mem : Nat → α) (off : Nat) (xs : List α) : Nat → α :=
  fun a => if off ≤ a then xs.getD (a - off) (mem a) else mem a

/-- The `len` cells from address `off` on. -/
def read (mem : Nat → α) (off len : Nat) : List α :=
  (List.range len).map fun i => mem (off + i)

@[simp] theorem write_nil (mem : Nat → α) (off : Nat) : write mem off [] = mem := by
  funext a
  simp [write]

/-- A cell inside the written range. -/
theorem write_inside (mem : Nat → α) (off : Nat) (xs : List α) (i : Nat)
    (hi : i < xs.length) : write mem off xs (off + i) = xs[i] := by
  simp [write, List.getD_eq_getElem?_getD, hi]

/-- A cell outside the written range keeps its value. -/
theorem write_outside (mem : Nat → α) (off : Nat) (xs : List α) (a : Nat)
    (ha : a < off ∨ off + xs.length ≤ a) : write mem off xs a = mem a := by
  unfold write
  split
  · rename_i hle
    rw [List.getD_eq_getElem?_getD, List.getElem?_eq_none (by omega)]
    rfl
  · rfl

@[simp] theorem length_read (mem : Nat → α) (off len : Nat) :
    (read mem off len).length = len := by
  simp [read]

theorem getElem_read (mem : Nat → α) (off len i : Nat) (hi : i < (read mem off len).length) :
    (read mem off len)[i] = mem (off + i) := by
  simp [read]

@[simp] theorem read_zero (mem : Nat → α) (off : Nat) : read mem off 0 = [] := rfl

/-- A pointer into the memory is read from its start. -/
theorem read_shift (mem : Nat → α) (off len : Nat) :
    read (fun i => mem (off + i)) 0 len = read mem off len :=
  List.map_congr_left fun i _ => by rw [Nat.zero_add]

/-- Two memories that agree on a range are read alike there. -/
theorem read_congr {m m' : Nat → α} {off len : Nat}
    (agree : ∀ i, i < len → m (off + i) = m' (off + i)) : read m off len = read m' off len := by
  apply List.ext_getElem (by simp)
  intro i hi _
  rw [getElem_read, getElem_read]
  exact agree i (by simpa using hi)

/-- Equal reads mean equal cells. -/
theorem agree_of_read {m m' : Nat → α} {off len : Nat} (same : read m off len = read m' off len)
    (i : Nat) (hi : i < len) : m (off + i) = m' (off + i) := by
  have hm : (read m off len)[i]? = some (m (off + i)) := by
    rw [List.getElem?_eq_getElem (by simpa using hi), getElem_read]
  have hm' : (read m' off len)[i]? = some (m' (off + i)) := by
    rw [List.getElem?_eq_getElem (by simpa using hi), getElem_read]
  rw [same, hm'] at hm
  exact (Option.some.inj hm).symm

/-- A range is read piecewise. -/
theorem read_add (mem : Nat → α) (off a b : Nat) :
    read mem off (a + b) = read mem off a ++ read mem (off + a) b := by
  unfold read
  rw [List.range_add, List.map_append, List.map_map]
  congr 1
  apply List.map_congr_left
  intro i _
  simp only [Function.comp_apply]
  rw [Nat.add_assoc]

/-- What was written is read back. -/
@[simp] theorem read_write_same (mem : Nat → α) (off : Nat) (xs : List α) :
    read (write mem off xs) off xs.length = xs := by
  apply List.ext_getElem (by simp)
  intro i hi hi'
  rw [getElem_read, write_inside mem off xs i hi']

/-- Reading outside the written range sees the old memory. -/
theorem read_write_outside (mem : Nat → α) (off : Nat) (xs : List α) (a len : Nat)
    (apart : a + len ≤ off ∨ off + xs.length ≤ a) :
    read (write mem off xs) a len = read mem a len :=
  read_congr fun i hi => write_outside mem off xs (a + i) (by omega)

/-- A range copied from one memory to another. -/
theorem write_read (mem src : Nat → α) (off len i : Nat) (hi : i < len) :
    write mem off (read src off len) (off + i) = src (off + i) := by
  rw [write_inside mem off _ i (by simpa using hi), getElem_read]

/-- Writing back what was read changes nothing. -/
theorem write_read_self (mem : Nat → α) (off len : Nat) :
    write mem off (read mem off len) = mem := by
  funext a
  by_cases ha : a < off ∨ off + len ≤ a
  · exact write_outside mem off _ a (by simpa using ha)
  · have h := write_read mem mem off len (a - off) (by omega)
    rwa [show off + (a - off) = a by omega] at h

/-- The first cells of a range. -/
theorem take_read (mem : Nat → α) (off len k : Nat) :
    (read mem off len).take k = read mem off (min k len) := by
  apply List.ext_getElem (by simp)
  intro i hi _
  rw [List.getElem_take, getElem_read, getElem_read]

/-- A write that starts where a read ends extends it. -/
theorem read_write_append (mem : Nat → α) (off len : Nat) (xs : List α) :
    read (write mem (off + len) xs) off (len + xs.length) = read mem off len ++ xs := by
  rw [read_add, read_write_same, read_write_outside mem (off + len) xs off len (by omega)]

/-- One write after the other, at its end. -/
theorem write_append (mem : Nat → α) (off : Nat) (xs ys : List α) :
    write (write mem off xs) (off + xs.length) ys = write mem off (xs ++ ys) := by
  funext a
  by_cases hxs : a < off + xs.length
  · rw [write_outside _ _ ys a (Or.inl hxs)]
    unfold write
    split
    · rw [List.getD_eq_getElem?_getD, List.getD_eq_getElem?_getD,
        List.getElem?_append_left (by omega)]
    · rfl
  · unfold write
    rw [if_pos (by omega), if_pos (by omega), if_pos (by omega), List.getD_eq_getElem?_getD,
      List.getD_eq_getElem?_getD, List.getD_eq_getElem?_getD,
      List.getElem?_append_right (by omega), Nat.sub_add_eq,
      List.getElem?_eq_none (l := xs) (by omega), Option.getD_none]

/-! ## Buffers -/

/-- A buffer of `limit` cells was written to, and nothing behind it. -/
def Confined (limit : Nat) (mem mem' : Nat → α) : Prop := ∀ a, limit ≤ a → mem' a = mem a

theorem Confined.refl (limit : Nat) (mem : Nat → α) : Confined limit mem mem := fun _ _ => rfl

theorem Confined.trans {limit : Nat} {mem mem' mem'' : Nat → α} (h : Confined limit mem mem')
    (h' : Confined limit mem' mem'') : Confined limit mem mem'' :=
  fun a ha => (h' a ha).trans (h a ha)

/-- A write that ends inside the buffer. -/
theorem Confined.write (mem : Nat → α) {limit off : Nat} {xs : List α}
    (fits : off + xs.length ≤ limit) : Confined limit mem (write mem off xs) :=
  fun a ha => write_outside mem off xs a (Or.inr (Nat.le_trans fits ha))

/-! ## Little-endian fields -/

/-- The two bytes of a 16-bit value, lowest first. -/
def encode16 (value : UInt16) : List UInt8 := [value.toUInt8, (value >>> 8).toUInt8]

/-- The 16-bit value of two bytes, lowest first. -/
def decode16 (b0 b1 : UInt8) : UInt16 := b0.toUInt16 ||| b1.toUInt16 <<< 8

/-- The four bytes of a 32-bit value, lowest first. -/
def encode32 (value : UInt32) : List UInt8 :=
  [value.toUInt8, (value >>> 8).toUInt8, (value >>> 16).toUInt8, (value >>> 24).toUInt8]

/-- The 32-bit value of four bytes, lowest first. -/
def decode32 (b0 b1 b2 b3 : UInt8) : UInt32 :=
  b0.toUInt32 ||| b1.toUInt32 <<< 8 ||| b2.toUInt32 <<< 16 ||| b3.toUInt32 <<< 24

@[simp] theorem length_encode16 (value : UInt16) : (encode16 value).length = 2 := rfl

@[simp] theorem length_encode32 (value : UInt32) : (encode32 value).length = 4 := rfl

/-- Two bytes carry a 16-bit value. -/
theorem decode16_encode16 (value : UInt16) :
    decode16 value.toUInt8 (value >>> 8).toUInt8 = value := by
  apply UInt16.eq_of_toBitVec_eq
  apply BitVec.eq_of_getLsbD_eq
  intro i hi
  simp only [decode16, UInt16.toBitVec_or, UInt16.toBitVec_shiftLeft, UInt8.toBitVec_toUInt16,
    UInt16.toBitVec_toUInt8, UInt16.toBitVec_shiftRight, BitVec.getLsbD_or]
  simp
  grind

/-- Four bytes carry a 32-bit value. -/
theorem decode32_encode32 (value : UInt32) :
    decode32 value.toUInt8 (value >>> 8).toUInt8 (value >>> 16).toUInt8 (value >>> 24).toUInt8 =
      value := by
  apply UInt32.eq_of_toBitVec_eq
  apply BitVec.eq_of_getLsbD_eq
  intro i hi
  simp only [decode32, UInt32.toBitVec_or, UInt32.toBitVec_shiftLeft, UInt8.toBitVec_toUInt32,
    UInt32.toBitVec_toUInt8, UInt32.toBitVec_shiftRight, BitVec.getLsbD_or]
  simp
  grind

/-- The value of four bytes, as a number. -/
theorem toNat_decode32 (b0 b1 b2 b3 : UInt8) : (decode32 b0 b1 b2 b3).toNat =
    b0.toNat + b1.toNat * 0x100 + b2.toNat * 0x10000 + b3.toNat * 0x1000000 := by
  have h0 := b0.toNat_lt
  have h1 := b1.toNat_lt
  have h2 := b2.toNat_lt
  have h3 := b3.toNat_lt
  -- the shifted bytes do not overlap
  have hor {a b k : Nat} (ha : a < 2 ^ k) : a ||| b * 2 ^ k = a + b * 2 ^ k := by
    rw [Nat.or_comm, Nat.mul_comm, ← Nat.two_pow_add_eq_or_of_lt ha, Nat.add_comm]
  have hshift (b : UInt8) (k : Nat) (hk : k < 32) (hb : b.toNat * 2 ^ k < 2 ^ 32) :
      (b.toUInt32 <<< UInt32.ofNat k).toNat = b.toNat * 2 ^ k := by
    rw [UInt32.toNat_shiftLeft, UInt8.toNat_toUInt32, UInt32.toNat_ofNat',
      Nat.mod_eq_of_lt (by omega : k < 2 ^ 32), Nat.mod_eq_of_lt hk, Nat.shiftLeft_eq,
      Nat.mod_eq_of_lt hb]
  calc (decode32 b0 b1 b2 b3).toNat
      = b0.toNat + b1.toNat * 2 ^ 8 + b2.toNat * 2 ^ 16 + b3.toNat * 2 ^ 24 := by
        unfold decode32
        rw [UInt32.toNat_or, UInt32.toNat_or, UInt32.toNat_or, UInt8.toNat_toUInt32,
          show (8 : UInt32) = UInt32.ofNat 8 from rfl,
          show (16 : UInt32) = UInt32.ofNat 16 from rfl,
          show (24 : UInt32) = UInt32.ofNat 24 from rfl, hshift b1 8 (by omega) (by omega),
          hshift b2 16 (by omega) (by omega), hshift b3 24 (by omega) (by omega),
          hor (by omega : b0.toNat < 2 ^ 8), hor (by omega : b0.toNat + b1.toNat * 2 ^ 8 < 2 ^ 16),
          hor (by omega : b0.toNat + b1.toNat * 2 ^ 8 + b2.toNat * 2 ^ 16 < 2 ^ 24)]
    _ = b0.toNat + b1.toNat * 0x100 + b2.toNat * 0x10000 + b3.toNat * 0x1000000 := by omega

/-- A 32-bit value has the four bytes it was read from. -/
theorem encode32_decode32 (b0 b1 b2 b3 : UInt8) :
    encode32 (decode32 b0 b1 b2 b3) = [b0, b1, b2, b3] := by
  have hbyte (value : UInt32) (b : UInt8)
      (hbits : ∀ i, i < 8 → value.toBitVec.getLsbD i = b.toBitVec.getLsbD i) :
      value.toUInt8 = b := by
    apply UInt8.eq_of_toBitVec_eq
    apply BitVec.eq_of_getLsbD_eq
    intro i hi
    rw [UInt32.toBitVec_toUInt8]
    simp [hi, hbits i hi]
  unfold encode32
  rw [hbyte _ b0, hbyte _ b1, hbyte _ b2, hbyte _ b3]
  all_goals
    intro i hi
    simp only [decode32, UInt32.toBitVec_or, UInt32.toBitVec_shiftLeft, UInt8.toBitVec_toUInt32,
      UInt32.toBitVec_shiftRight, BitVec.getLsbD_or]
    simp
    grind

/-- A 16-bit field written at an address is read back there. -/
@[simp] theorem decode16_write (mem : Nat → UInt8) (off : Nat) (value : UInt16) :
    decode16 (write mem off (encode16 value) off) (write mem off (encode16 value) (off + 1)) =
      value := by
  have h0 := write_inside mem off (encode16 value) 0 (by simp)
  have h1 := write_inside mem off (encode16 value) 1 (by simp)
  rw [Nat.add_zero] at h0
  rw [h0, h1]
  exact decode16_encode16 value

/-- A 32-bit field written at an address is read back there. -/
@[simp] theorem decode32_write (mem : Nat → UInt8) (off : Nat) (value : UInt32) :
    decode32 (write mem off (encode32 value) off) (write mem off (encode32 value) (off + 1))
      (write mem off (encode32 value) (off + 2)) (write mem off (encode32 value) (off + 3)) =
      value := by
  have h0 := write_inside mem off (encode32 value) 0 (by simp)
  have h1 := write_inside mem off (encode32 value) 1 (by simp)
  have h2 := write_inside mem off (encode32 value) 2 (by simp)
  have h3 := write_inside mem off (encode32 value) 3 (by simp)
  rw [Nat.add_zero] at h0
  rw [h0, h1, h2, h3]
  exact decode32_encode32 value

end ByteMem
