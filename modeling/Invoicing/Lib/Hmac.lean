/-
**Keyed digests, and the ways to write them by hand.**

* `hmac` — the standard: the key hashed when it is longer than a block and filled with zeros, and the digest
  of the outer pad and the digest of the inner pad and the message.
* `lowerHex` — two lowercase digits a byte.
* `Hasher` — a hasher that is fed piece by piece; `fillPads` — the two pads filled by index; `hexWith` — hex
  digits looked up in an alphabet. The last two stop where an index is out of bounds.
* **`fillPads_eq`**, **`hexWith_eq`** — a key of one block fills both pads with its bytes, and the alphabet of
  lowercase hex digits gives `lowerHex`.
-/

import Invoicing.Lib.DigitText

namespace Hmac

/-! ### The standard -/

section Standard

variable (H : List UInt8 → List UInt8) (block : ℕ)

/-- The key of one block: hashed when it is longer, then filled with zeros. -/
def blockKey (key : List UInt8) : List UInt8 :=
  let short := if block < key.length then H key else key
  short ++ List.replicate (block - short.length) 0

/-- `H((K ⊕ opad) ‖ H((K ⊕ ipad) ‖ message))`. -/
def hmac (key message : List UInt8) : List UInt8 :=
  H ((blockKey H block key).map (· ^^^ 0x5c) ++ H ((blockKey H block key).map (· ^^^ 0x36) ++ message))

/-- A digest of at most a block makes every key one block long. -/
theorem length_blockKey {key : List UInt8} (digest : (H key).length ≤ block) :
    (blockKey H block key).length = block := by
  unfold blockKey
  rw [List.length_append, List.length_replicate]
  split
  · omega
  · omega

end Standard

/-- Two lowercase hex digits for each byte. -/
def lowerHex (bytes : List UInt8) : List Char :=
  bytes.flatMap fun byte => DigitText.fixedDigits 16 Nat.digitChar 2 byte.toNat

/-! ### By hand -/

/-- A hasher, by what it was fed. -/
structure Hasher where
  fed : List UInt8

namespace Hasher

def new : Hasher := ⟨[]⟩

def update (hasher : Hasher) (bytes : List UInt8) : Hasher := ⟨hasher.fed ++ bytes⟩

def finalize (hasher : Hasher) {size : ℕ} (H : List UInt8 → Vector UInt8 size) : List UInt8 :=
  (H hasher.fed).toList

end Hasher

/-- A vector cut or filled to a length. -/
def resize (bytes : List UInt8) (length : ℕ) (value : UInt8) : List UInt8 :=
  bytes.take length ++ List.replicate (length - bytes.length) value

/-- One round of the loop over the pads. -/
def fillAt (key : List UInt8) (inner outer : UInt8) (pads : List UInt8 × List UInt8) (i : ℕ) :
    Option (List UInt8 × List UInt8) :=
  key[i]?.map fun byte => (pads.1.set i (byte ^^^ inner), pads.2.set i (byte ^^^ outer))

/-- Two arrays of zeros, filled by index with the key and a constant each. -/
def fillPads (block : ℕ) (key : List UInt8) (inner outer : UInt8) : Option (List UInt8 × List UInt8) :=
  (List.range block).foldlM (fillAt key inner outer) (List.replicate block 0, List.replicate block 0)

/-- The two digits of a byte, the high half first. -/
def pushHex (alphabet : List Char) (out : List Char) (byte : UInt8) : Option (List Char) :=
  alphabet[(byte >>> 4).toNat]?.bind fun high =>
    alphabet[(byte &&& 0x0f).toNat]?.map fun low => out ++ [high] ++ [low]

/-- Hex digits looked up in an alphabet. -/
def hexWith (alphabet : List Char) (bytes : List UInt8) : Option (List Char) :=
  bytes.foldlM (pushHex alphabet) []

/-! ### The pads -/

/-- A pad of which the first bytes are filled. -/
theorem set_pad (key : List UInt8) (block n : ℕ) (inside : n < block) (long : n < key.length)
    (f : UInt8 → UInt8) :
    ((key.take n).map f ++ List.replicate (block - n) 0).set n (f (key.get ⟨n, long⟩)) =
      (key.take (n + 1)).map f ++ List.replicate (block - (n + 1)) 0 := by
  have filled : ((key.take n).map f).length = n := by
    rw [List.length_map, List.length_take, Nat.min_eq_left long.le]
  obtain ⟨more, rest⟩ := Nat.exists_eq_add_of_lt inside
  have zeros : block - n = (block - (n + 1)) + 1 := by omega
  rw [List.set_append_right _ _ filled.le, filled, Nat.sub_self, zeros, List.replicate_succ, List.set_cons_zero,
    List.take_succ_eq_append_getElem long, List.map_append, List.append_assoc]
  rfl

/-- **A key of one block fills both pads.** -/
theorem fillPads_eq {block : ℕ} {key : List UInt8} (length : key.length = block) (inner outer : UInt8) :
    fillPads block key inner outer = some (key.map (· ^^^ inner), key.map (· ^^^ outer)) := by
  -- after `n` rounds the first `n` bytes of the pads are filled
  have filled : ∀ n ≤ block, (List.range n).foldlM (fillAt key inner outer)
      (List.replicate block 0, List.replicate block 0) =
        some ((key.take n).map (· ^^^ inner) ++ List.replicate (block - n) 0,
          (key.take n).map (· ^^^ outer) ++ List.replicate (block - n) 0) := by
    intro n
    induction n with
    | zero => exact fun _ => rfl
    | succ n ih =>
      intro room
      have long : n < key.length := by omega
      rw [List.range_succ, List.foldlM_append, ih (by omega)]
      show (fillAt key inner outer _ n).bind some = _
      unfold fillAt
      rw [List.getElem?_eq_getElem long]
      exact congrArg some (Prod.ext (set_pad key block n room long (· ^^^ inner))
        (set_pad key block n room long (· ^^^ outer)))
  have all := filled block le_rfl
  rw [Nat.sub_self, ← length, List.take_length, length] at all
  unfold fillPads
  rw [all]
  simp

/-! ### Hex -/

/-- The two halves of a byte. -/
theorem high_half (byte : UInt8) : (byte >>> 4).toNat = byte.toNat / 16 := by
  rw [UInt8.toNat_shiftRight]
  exact Nat.shiftRight_eq_div_pow byte.toNat 4

theorem low_half (byte : UInt8) : (byte &&& 0x0f).toNat = byte.toNat % 16 := by
  rw [UInt8.toNat_and]
  exact Nat.and_two_pow_sub_one_eq_mod byte.toNat 4

/-- The digits of one byte. -/
theorem pushHex_eq {alphabet : List Char} (digits : ∀ d < 16, alphabet[d]? = some (Nat.digitChar d))
    (out : List Char) (byte : UInt8) :
    pushHex alphabet out byte = some (out ++ DigitText.fixedDigits 16 Nat.digitChar 2 byte.toNat) := by
  have bound : byte.toNat < 256 := byte.toNat_lt
  have pair : DigitText.fixedDigits 16 Nat.digitChar 2 byte.toNat =
      [(byte.toNat / 16).digitChar, (byte.toNat % 16).digitChar] := by
    show [(byte.toNat / 16 ^ 1 % 16).digitChar, (byte.toNat / 16 ^ 0 % 16).digitChar] = _
    rw [pow_one, pow_zero, Nat.div_one, Nat.mod_eq_of_lt (by omega : byte.toNat / 16 < 16)]
  unfold pushHex
  rw [high_half, low_half, digits _ (by omega), digits _ (by omega), pair]
  simp

/-- **The lowercase alphabet gives lowercase hex.** -/
theorem hexWith_eq {alphabet : List Char} (digits : ∀ d < 16, alphabet[d]? = some (Nat.digitChar d))
    (bytes : List UInt8) : hexWith alphabet bytes = some (lowerHex bytes) := by
  have onto : ∀ out, bytes.foldlM (pushHex alphabet) out = some (out ++ lowerHex bytes) := by
    induction bytes with
    | nil => exact fun out => congrArg some (List.append_nil out).symm
    | cons byte rest ih =>
      intro out
      rw [List.foldlM_cons, pushHex_eq digits]
      show rest.foldlM (pushHex alphabet) _ = _
      rw [ih, List.append_assoc]
      rfl
  exact onto []

end Hmac
