import UartBridge.Crc8
import UartBridge.Lib.ByteMem
import UartBridge.Lib.CyclicCode
import Mathlib.Data.ZMod.Basic
import Mathlib.Algebra.Field.ZMod
import Mathlib.Tactic.LinearCombination

/-!
# What the checksum is, and which errors it finds

The tables of `CRC8` are compared with the division by `x^8 + x^5 + x^4 + 1`,
first bit by bit on the register, then as polynomials over the field with two
elements. A block with its checksum, the register's start value taken into
account, is a multiple of the generator.

* `checksum_eq_division` — both programs compute the remainder, whatever the
  length of the block;
* `dvd_of_accepted` — what a receiver accepts is such a multiple;
* `error_detected` — so no error goes unnoticed that flips an odd number of bits
  or lies within eight consecutive ones.
-/

namespace UartBridge.Checksum

open Polynomial CyclicCode

/-! ## Bit by bit -/

/-- One step of the division: the bit shifted out of the register subtracts the
generator. -/
def bitStep (crc : UInt8) : UInt8 :=
  if crc &&& 0x80 = 0x80 then (crc <<< 1) ^^^ 0x31 else crc <<< 1

/-- The eight steps for one byte of the source. -/
def byteStep (crc b : UInt8) : UInt8 := bitStep^[8] (crc ^^^ b)

/-- The division of a source, most significant bit first, with the register started
at `0xFF`. -/
def bitwise (source : List UInt8) : UInt8 := source.foldl byteStep 0xFF

theorem crc8Table_getD : ∀ i, i < 256 →
    Client.crc8Table.getD i 0 = bitStep^[8] (UInt8.ofNat i) := by
  decide +kernel

/-- An entry of the table is eight steps of the division. -/
theorem table_step (b : UInt8) : Client.crc8Table.getD b.toNat 0 = bitStep^[8] b := by
  have h := crc8Table_getD b.toNat b.toNat_lt
  rwa [UInt8.ofNat_toNat] at h

/-- The loop over the table is the division. -/
theorem crc8_eq_bitwise (source : List UInt8) : Client.crc8 source = bitwise source := by
  unfold Client.crc8 crc8With bitwise
  refine congrArg (fun f => List.foldl f 0xFF source) ?_
  funext crc b
  exact table_step (crc ^^^ b)

/-! ## Bits and words -/

/-- The bits of a byte, the most significant first. -/
def bits (b : UInt8) : List Bool :=
  [b.toBitVec.getLsbD 7, b.toBitVec.getLsbD 6, b.toBitVec.getLsbD 5, b.toBitVec.getLsbD 4,
    b.toBitVec.getLsbD 3, b.toBitVec.getLsbD 2, b.toBitVec.getLsbD 1, b.toBitVec.getLsbD 0]

/-- The bits of a block. -/
def bitsOf (source : List UInt8) : List Bool := source.flatMap bits

def digit (b : Bool) : ZMod 2 := if b then 1 else 0

/-- The polynomial of some bits. -/
noncomputable def word (bs : List Bool) : (ZMod 2)[X] := ofDigits (bs.map digit)

/-- `x^8 + x^5 + x^4 + 1`. -/
noncomputable def generator : (ZMod 2)[X] := X ^ 8 + X ^ 5 + X ^ 4 + 1

@[simp] theorem length_bits (b : UInt8) : (bits b).length = 8 := rfl

@[simp] theorem bitsOf_nil : bitsOf [] = [] := rfl

@[simp] theorem bitsOf_cons (b : UInt8) (source : List UInt8) :
    bitsOf (b :: source) = bits b ++ bitsOf source := rfl

@[simp] theorem length_bitsOf (source : List UInt8) :
    (bitsOf source).length = 8 * source.length := by
  induction source with
  | nil => rfl
  | cons b source ih =>
    rw [bitsOf_cons, List.length_append, length_bits, ih, List.length_cons]
    omega

theorem digit_xor (a b : Bool) : digit (a ^^ b) = digit a + digit b := by
  revert a b
  decide

theorem digit_eq_zero {b : Bool} : digit b = 0 ↔ b = false := by
  revert b
  decide

theorem word_append (xs ys : List Bool) :
    word (xs ++ ys) = X ^ ys.length * word xs + word ys := by
  unfold word
  rw [List.map_append, ofDigits_append, List.length_map]

/-- Flipping bits adds a word. -/
theorem word_xor {xs ys : List Bool} (hlen : xs.length = ys.length) :
    word (List.zipWith (· ^^ ·) xs ys) = word xs + word ys := by
  have hmap : (List.zipWith (· ^^ ·) xs ys).map digit =
      List.zipWith (· + ·) (xs.map digit) (ys.map digit) := by
    rw [List.map_zipWith, List.zipWith_map]
    refine congrArg (fun f => List.zipWith f xs ys) ?_
    funext a b
    exact digit_xor a b
  unfold word
  rw [hmap, ofDigits_zipWith_add (by simpa using hlen)]

theorem bits_xor (a b : UInt8) : bits (a ^^^ b) = List.zipWith (· ^^ ·) (bits a) (bits b) := by
  simp [bits]

/-- In characteristic two what is added twice is gone. -/
theorem add_self (p : (ZMod 2)[X]) : p + p = 0 := CharTwo.add_self_eq_zero p

/-! ## The register as a remainder -/

theorem monic_generator : generator.Monic := by
  unfold generator
  monicity!

theorem natDegree_generator : generator.natDegree = 8 := by
  unfold generator
  compute_degree!

theorem coeff_generator : generator.coeff 0 ≠ 0 := by
  simp [generator]

theorem eval_generator : generator.eval 1 = 0 := by
  simp only [generator, eval_add, eval_pow, eval_X, eval_one, one_pow]
  decide

/-- Where the bits of the register go in one step. -/
theorem bits_bitStep (c : UInt8) : bits (bitStep c) =
    [c.toBitVec.getLsbD 6, c.toBitVec.getLsbD 5,
      c.toBitVec.getLsbD 4 ^^ c.toBitVec.getLsbD 7, c.toBitVec.getLsbD 3 ^^ c.toBitVec.getLsbD 7,
      c.toBitVec.getLsbD 2, c.toBitVec.getLsbD 1, c.toBitVec.getLsbD 0, c.toBitVec.getLsbD 7] := by
  have hall : ∀ i, i < 256 → bits (bitStep (UInt8.ofNat i)) =
      [(UInt8.ofNat i).toBitVec.getLsbD 6, (UInt8.ofNat i).toBitVec.getLsbD 5,
        (UInt8.ofNat i).toBitVec.getLsbD 4 ^^ (UInt8.ofNat i).toBitVec.getLsbD 7,
        (UInt8.ofNat i).toBitVec.getLsbD 3 ^^ (UInt8.ofNat i).toBitVec.getLsbD 7,
        (UInt8.ofNat i).toBitVec.getLsbD 2, (UInt8.ofNat i).toBitVec.getLsbD 1,
        (UInt8.ofNat i).toBitVec.getLsbD 0, (UInt8.ofNat i).toBitVec.getLsbD 7] := by
    decide +kernel
  have h := hall c.toNat c.toNat_lt
  rwa [UInt8.ofNat_toNat] at h

/-- One step multiplies by `X` and takes the generator off. -/
theorem bitStep_dvd (c : UInt8) : generator ∣ X * word (bits c) + word (bits (bitStep c)) := by
  refine ⟨C (digit (c.toBitVec.getLsbD 7)), ?_⟩
  have htwo : (2 : (ZMod 2)[X]) = 0 := CharTwo.two_eq_zero
  rw [bits_bitStep]
  simp only [word, bits, generator, List.map_cons, List.map_nil, ofDigits_cons, ofDigits_nil,
    List.length_cons, List.length_nil, digit_xor, C_add]
  generalize C (digit (c.toBitVec.getLsbD 0)) = b0
  generalize C (digit (c.toBitVec.getLsbD 1)) = b1
  generalize C (digit (c.toBitVec.getLsbD 2)) = b2
  generalize C (digit (c.toBitVec.getLsbD 3)) = b3
  generalize C (digit (c.toBitVec.getLsbD 4)) = b4
  generalize C (digit (c.toBitVec.getLsbD 5)) = b5
  generalize C (digit (c.toBitVec.getLsbD 6)) = b6
  generalize C (digit (c.toBitVec.getLsbD 7)) = b7
  linear_combination (b6 * X ^ 7 + b5 * X ^ 6 + b4 * X ^ 5 + b3 * X ^ 4 + b2 * X ^ 3 +
    b1 * X ^ 2 + b0 * X) * htwo

theorem iterate_dvd (c : UInt8) (n : Nat) :
    generator ∣ X ^ n * word (bits c) + word (bits (bitStep^[n] c)) := by
  induction n with
  | zero =>
    rw [pow_zero, one_mul, Function.iterate_zero_apply, add_self]
    exact dvd_zero _
  | succ n ih =>
    have hstep := bitStep_dvd (bitStep^[n] c)
    rw [Function.iterate_succ_apply']
    -- the register between the two steps cancels
    have hsum := dvd_add (Dvd.dvd.mul_left ih X) hstep
    have heq : X * (X ^ n * word (bits c) + word (bits (bitStep^[n] c))) +
        (X * word (bits (bitStep^[n] c)) + word (bits (bitStep (bitStep^[n] c)))) =
        X ^ (n + 1) * word (bits c) + word (bits (bitStep (bitStep^[n] c))) := by
      linear_combination add_self (X * word (bits (bitStep^[n] c)))
    rwa [heq] at hsum

/-- A byte goes through the register. -/
theorem byteStep_dvd (crc b : UInt8) :
    generator ∣ X ^ 8 * (word (bits crc) + word (bits b)) + word (bits (byteStep crc b)) := by
  rw [← word_xor (by rw [length_bits, length_bits]), ← bits_xor]
  exact iterate_dvd (crc ^^^ b) 8

/-- **The register is the remainder**: of the start value in front of the source, shifted
by the length of the checksum. -/
theorem fold_dvd (source : List UInt8) (crc : UInt8) :
    generator ∣ X ^ (8 * source.length) * word (bits crc) + X ^ 8 * word (bitsOf source) +
      word (bits (source.foldl byteStep crc)) := by
  induction source generalizing crc with
  | nil =>
    have hzero : word (bitsOf []) = 0 := rfl
    rw [List.foldl_nil, List.length_nil, hzero, Nat.mul_zero, pow_zero, one_mul, mul_zero, add_zero,
      add_self]
    exact dvd_zero _
  | cons b source ih =>
    have hstep := Dvd.dvd.mul_left (byteStep_dvd crc b) (X ^ (8 * source.length))
    rw [List.foldl_cons, bitsOf_cons, word_append, length_bitsOf, List.length_cons, Nat.mul_succ,
      pow_add]
    have hsum := dvd_add hstep (ih (byteStep crc b))
    have heq : X ^ (8 * source.length) * (X ^ 8 * (word (bits crc) + word (bits b)) +
          word (bits (byteStep crc b))) +
        (X ^ (8 * source.length) * word (bits (byteStep crc b)) + X ^ 8 * word (bitsOf source) +
          word (bits (source.foldl byteStep (byteStep crc b)))) =
        X ^ (8 * source.length) * X ^ 8 * word (bits crc) +
          X ^ 8 * (X ^ (8 * source.length) * word (bits b) + word (bitsOf source)) +
          word (bits (source.foldl byteStep (byteStep crc b))) := by
      linear_combination add_self (X ^ (8 * source.length) * word (bits (byteStep crc b)))
    rwa [heq] at hsum

/-- The polynomial that is divided for a source: the start value in front of it, and room
for the checksum behind it. -/
noncomputable def dividend (source : List UInt8) : (ZMod 2)[X] :=
  X ^ (8 * source.length) * word (bits 0xFF) + X ^ 8 * word (bitsOf source)

/-- **The checksum is a remainder.** Both tables, read in either way, give the division by
the generator, bit by bit and as polynomials. -/
theorem checksum_eq_division (source : List UInt8) :
    Client.crc8 source = bitwise source ∧ Firmware.crc8 source = bitwise source ∧
      Firmware.crc8Progmem source = bitwise source ∧
      word (bits (bitwise source)) = dividend source %ₘ generator := by
  have hclient := crc8_eq_bitwise source
  refine ⟨hclient, (crc8_eq source).trans hclient, hclient, ?_⟩
  have hdegree : (word (bits (bitwise source))).degree < generator.degree := by
    rw [Polynomial.degree_eq_natDegree monic_generator.ne_zero, natDegree_generator]
    exact degree_ofDigits_lt _
  have hdvd : generator ∣ dividend source - word (bits (bitwise source)) := by
    rw [sub_eq_add_neg, neg_eq_of_add_eq_zero_right (add_self _)]
    exact fold_dvd source 0xFF
  rw [modByMonic_eq_of_dvd_sub monic_generator hdvd]
  exact ((modByMonic_eq_self_iff monic_generator).mpr hdegree).symm

/-! ## Errors -/

/-- A block as it arrives, with the bits flipped that are set in `error`. -/
def corrupt (block error : List UInt8) : List UInt8 := List.zipWith (· ^^^ ·) block error

/-- The set bits lie within eight consecutive ones. -/
def Burst (bs : List Bool) : Prop :=
  ∃ first, ∀ k, bs[k]? = some true → first ≤ k ∧ k < first + 8

/-- An accepted block and its checksum make a multiple of the generator. -/
theorem dvd_of_accepted {source : List UInt8} {checksum : UInt8}
    (accepted : bitwise source = checksum) :
    generator ∣ X ^ (8 * source.length) * word (bits 0xFF) +
      word (bitsOf (source ++ [checksum])) := by
  have hsplit : bitsOf (source ++ [checksum]) = bitsOf source ++ bits checksum := by
    simp [bitsOf]
  rw [hsplit, word_append, length_bits, ← add_assoc, ← accepted]
  exact fold_dvd source 0xFF

theorem bitsOf_corrupt {block error : List UInt8} (hlen : block.length = error.length) :
    bitsOf (corrupt block error) = List.zipWith (· ^^ ·) (bitsOf block) (bitsOf error) := by
  induction block generalizing error with
  | nil => rfl
  | cons b block ih =>
    cases error with
    | nil => cases hlen
    | cons e error =>
      have hrest := ih (Nat.succ.inj hlen)
      unfold corrupt at hrest ⊢
      rw [List.zipWith_cons_cons, bitsOf_cons, hrest, bits_xor, bitsOf_cons, bitsOf_cons,
        List.zipWith_append (by rw [length_bits, length_bits])]

/-- If a block and what became of it are both accepted, the error is a multiple of the
generator. -/
theorem dvd_error {source received : List UInt8} {checksum checksum' : UInt8} {error : List UInt8}
    (hlen : error.length = source.length + 1)
    (hreceived : received ++ [checksum'] = corrupt (source ++ [checksum]) error)
    (sent : bitwise source = checksum) (accepted : bitwise received = checksum') :
    generator ∣ word (bitsOf error) := by
  have hblock : (source ++ [checksum]).length = error.length := by
    rw [List.length_append, List.length_singleton, hlen]
  have hsame : received.length = source.length := by
    have := congrArg List.length hreceived
    simp only [corrupt, List.length_append, List.length_singleton, List.length_zipWith, hlen]
      at this
    omega
  have hbefore := dvd_of_accepted sent
  have hafter := dvd_of_accepted accepted
  rw [hreceived, bitsOf_corrupt hblock, hsame,
    word_xor (by rw [length_bitsOf, length_bitsOf, hblock])] at hafter
  have hsum := dvd_add hbefore hafter
  have heq : X ^ (8 * source.length) * word (bits 0xFF) + word (bitsOf (source ++ [checksum])) +
      (X ^ (8 * source.length) * word (bits 0xFF) +
        (word (bitsOf (source ++ [checksum])) + word (bitsOf error))) = word (bitsOf error) := by
    linear_combination add_self (X ^ (8 * source.length) * word (bits 0xFF) +
      word (bitsOf (source ++ [checksum])))
  rwa [heq] at hsum

/-- An odd number of set bits. -/
theorem not_dvd_of_odd {bs : List Bool} (hodd : Odd (bs.count true)) : ¬ generator ∣ word bs := by
  have hsum : (bs.map digit).sum = (bs.count true : ZMod 2) := by
    clear hodd
    induction bs with
    | nil => rfl
    | cons b bs ih =>
      rw [List.map_cons, List.sum_cons, ih, List.count_cons]
      cases b with
      | false => simp [digit]
      | true => simp [digit, add_comm]
  refine not_dvd_of_sum eval_generator ?_
  rw [hsum, ZMod.natCast_eq_one_iff_odd.mpr hodd]
  exact one_ne_zero

/-- A burst: before it and behind it there are only zeros. -/
theorem not_dvd_of_short {bs : List Bool} (hset : true ∈ bs) (hburst : Burst bs) :
    ¬ generator ∣ word bs := by
  obtain ⟨first, hburst⟩ := hburst
  have hclear {xs : List Bool} (h : true ∉ xs) : xs.map digit = List.replicate xs.length 0 := by
    rw [List.eq_replicate_iff, List.length_map]
    refine ⟨rfl, ?_⟩
    intro d hd
    obtain ⟨b, hb, rfl⟩ := List.mem_map.mp hd
    refine digit_eq_zero.mpr (Bool.eq_false_iff.mpr ?_)
    rintro rfl
    exact h hb
  have hbefore : true ∉ bs.take first := by
    intro hmem
    obtain ⟨k, hk⟩ := List.mem_iff_getElem?.mp hmem
    have hlt : k < first := by
      have := (List.getElem?_eq_some_iff.mp hk).1
      rw [List.length_take] at this
      omega
    rw [List.getElem?_take_of_lt hlt] at hk
    exact absurd (hburst k hk).1 (Nat.not_le_of_lt hlt)
  have hafter : true ∉ (bs.drop first).drop 8 := by
    intro hmem
    obtain ⟨k, hk⟩ := List.mem_iff_getElem?.mp hmem
    rw [List.getElem?_drop, List.getElem?_drop] at hk
    have := (hburst _ hk).2
    omega
  have hsplit : bs = bs.take first ++ (bs.drop first).take 8 ++ (bs.drop first).drop 8 := by
    rw [List.append_assoc, List.take_append_drop, List.take_append_drop]
  have hmid : true ∈ (bs.drop first).take 8 := by
    rw [hsplit, List.mem_append, List.mem_append] at hset
    rcases hset with (hfirst | hmid) | hlast
    · exact absurd hfirst hbefore
    · exact hmid
    · exact absurd hlast hafter
  unfold word
  rw [hsplit, List.map_append, List.map_append, hclear hbefore, hclear hafter]
  refine not_dvd_of_burst coeff_generator ?_
    ⟨1, List.mem_map.mpr ⟨true, hmid, rfl⟩, one_ne_zero⟩ _ _
  rw [natDegree_generator, List.length_map]
  exact List.length_take_le _ _

/-- **Errors are found.** A block and its checksum, in which an odd number of bits was
flipped or some within eight consecutive ones, do not pass the check of the receivers. -/
theorem error_detected (source error : List UInt8) (hlen : error.length = source.length + 1)
    (hfound : Odd ((bitsOf error).count true) ∨
      true ∈ bitsOf error ∧ Burst (bitsOf error))
    (rxBuff : Nat → UInt8)
    (received : ByteMem.read rxBuff 0 (source.length + 1) =
      corrupt (source ++ [Client.crc8 source]) error) :
    Client.crc8 (ByteMem.read rxBuff 0 source.length) ≠ rxBuff source.length ∧
      Firmware.crc8 (ByteMem.read rxBuff 0 source.length) ≠ rxBuff source.length := by
  have hmissed : ¬ generator ∣ word (bitsOf error) := by
    rcases hfound with hodd | ⟨hset, hburst⟩
    · exact not_dvd_of_odd hodd
    · exact not_dvd_of_short hset hburst
  have hlast : ByteMem.read rxBuff source.length 1 = [rxBuff source.length] := rfl
  rw [ByteMem.read_add, Nat.zero_add, hlast] at received
  have hclient : Client.crc8 (ByteMem.read rxBuff 0 source.length) ≠ rxBuff source.length := by
    intro accepted
    rw [crc8_eq_bitwise] at accepted received
    exact hmissed (dvd_error hlen received rfl accepted)
  exact ⟨hclient, fun accepted => hclient ((crc8_eq _).symm.trans accepted)⟩

/-- A receive buffer with two bytes of metadata and their checksum, in which these bits are
flipped. -/
def flipped (error : List UInt8) : Nat → UInt8 :=
  ByteMem.write (fun _ => 0) 0 (corrupt ([0x12, 0x34] ++ [Client.crc8 [0x12, 0x34]]) error)

/-- Four bits next to each other, of the last byte and the checksum. -/
theorem burst_acrossBytes : Burst (bitsOf [0, 0x07, 0x80]) := by
  refine ⟨13, fun k hk => ?_⟩
  have hlt : k < 24 := (List.getElem?_eq_some_iff.mp hk).1
  have hset : ∀ k < 24, (bitsOf [0, 0x07, 0x80])[k]? = some true → 13 ≤ k ∧ k < 13 + 8 := by
    decide
  exact hset k hlt hk

/-- Three bits of the second byte; and a burst of even weight over the end of the metadata. -/
theorem error_detected_flipped :
    (Client.crc8 (ByteMem.read (flipped [0, 0x07, 0]) 0 2) ≠ flipped [0, 0x07, 0] 2 ∧
      Firmware.crc8 (ByteMem.read (flipped [0, 0x07, 0]) 0 2) ≠ flipped [0, 0x07, 0] 2) ∧
    (Client.crc8 (ByteMem.read (flipped [0, 0x07, 0x80]) 0 2) ≠ flipped [0, 0x07, 0x80] 2 ∧
      Firmware.crc8 (ByteMem.read (flipped [0, 0x07, 0x80]) 0 2) ≠ flipped [0, 0x07, 0x80] 2) :=
  ⟨error_detected [0x12, 0x34] [0, 0x07, 0] rfl (Or.inl (by decide)) (flipped [0, 0x07, 0])
      (ByteMem.read_write_same _ _ _),
    error_detected [0x12, 0x34] [0, 0x07, 0x80] rfl (Or.inr ⟨by decide, burst_acrossBytes⟩)
      (flipped [0, 0x07, 0x80]) (ByteMem.read_write_same _ _ _)⟩

end UartBridge.Checksum
