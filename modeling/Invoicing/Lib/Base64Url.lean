/-
**Base64 for URLs, without padding.**

* `sextets`, `octets` — three bytes as four numbers of six bits and back; at the end one or two bytes as two
  or three numbers, whose spare bits must be zero.
* `encode`, `decode` — the same with the alphabet of URLs. **`decode_encode`** — what was encoded is decoded.
-/

import Mathlib.Data.List.Basic

namespace Base64Url

/-! ### Six bits at a time -/

/-- Bytes as numbers of six bits. -/
def sextets : List ℕ → List ℕ
  | a :: b :: c :: rest =>
      (a * 65536 + b * 256 + c) / 262144 :: (a * 65536 + b * 256 + c) / 4096 % 64 ::
        (a * 65536 + b * 256 + c) / 64 % 64 :: (a * 65536 + b * 256 + c) % 64 :: sextets rest
  | [a, b] => [(a * 256 + b) / 1024, (a * 256 + b) / 16 % 64, (a * 256 + b) % 16 * 4]
  | [a] => [a / 4, a % 4 * 16]
  | [] => []

/-- Numbers of six bits as bytes; spare bits that are not zero are refused. -/
def octets : List ℕ → Option (List ℕ)
  | p :: q :: r :: s :: rest =>
      (octets rest).map fun bytes => (((p * 64 + q) * 64 + r) * 64 + s) / 65536 ::
        (((p * 64 + q) * 64 + r) * 64 + s) / 256 % 256 :: (((p * 64 + q) * 64 + r) * 64 + s) % 256 :: bytes
  | [p, q, r] =>
      if ((p * 64 + q) * 64 + r) % 4 = 0 then
        some [((p * 64 + q) * 64 + r) / 1024, ((p * 64 + q) * 64 + r) / 4 % 256]
      else none
  | [p, q] => if (p * 64 + q) % 16 = 0 then some [(p * 64 + q) / 16] else none
  | [_] => none
  | [] => some []

theorem sextets_lt {bytes : List ℕ} (small : ∀ b ∈ bytes, b < 256) : ∀ n ∈ sextets bytes, n < 64 := by
  induction bytes using sextets.induct with
  | case1 a b c rest ih =>
    have ha := small a (by simp)
    have hb := small b (by simp)
    have hc := small c (by simp)
    have later := ih fun d member => small d (by simp [member])
    intro n member
    simp only [sextets, List.mem_cons] at member
    rcases member with rfl | rfl | rfl | rfl | member
    · omega
    · omega
    · omega
    · omega
    · exact later n member
  | case2 a b =>
    have ha := small a (by simp)
    have hb := small b (by simp)
    intro n member
    simp only [sextets, List.mem_cons, List.not_mem_nil, or_false] at member
    omega
  | case3 a =>
    have ha := small a (by simp)
    intro n member
    simp only [sextets, List.mem_cons, List.not_mem_nil, or_false] at member
    omega
  | case4 => exact fun n member => absurd member List.not_mem_nil

/-- The bytes come back. -/
theorem octets_sextets {bytes : List ℕ} (small : ∀ b ∈ bytes, b < 256) :
    octets (sextets bytes) = some bytes := by
  induction bytes using sextets.induct with
  | case1 a b c rest ih =>
    have ha := small a (by simp)
    have hb := small b (by simp)
    have hc := small c (by simp)
    have later := ih fun d member => small d (by simp [member])
    simp only [sextets, octets, later, Option.map_some, Option.some.injEq, List.cons.injEq, and_true]
    omega
  | case2 a b =>
    have ha := small a (by simp)
    have hb := small b (by simp)
    have spare : (((a * 256 + b) / 1024 * 64 + (a * 256 + b) / 16 % 64) * 64 + (a * 256 + b) % 16 * 4) % 4 = 0 := by
      omega
    simp only [sextets, octets, spare, if_true, Option.some.injEq, List.cons.injEq, and_true]
    omega
  | case3 a =>
    have ha := small a (by simp)
    have spare : (a / 4 * 64 + a % 4 * 16) % 16 = 0 := by omega
    simp only [sextets, octets, spare, if_true, Option.some.injEq, List.cons.injEq, and_true]
    omega
  | case4 => rfl

/-! ### The alphabet -/

def alphabet : List Char := "ABCDEFGHIJKLMNOPQRSTUVWXYZabcdefghijklmnopqrstuvwxyz0123456789-_".toList

def symbol (n : ℕ) : Char := alphabet.getD n 'A'

def value (c : Char) : Option ℕ := alphabet.findIdx? (· == c)

theorem value_symbol : ∀ n < 64, value (symbol n) = some n := by decide

theorem mapM_value {numbers : List ℕ} (small : ∀ n ∈ numbers, n < 64) :
    (numbers.map symbol).mapM value = some numbers := by
  induction numbers with
  | nil => rfl
  | cons n rest ih =>
    rw [List.map_cons, List.mapM_cons, value_symbol n (small n List.mem_cons_self),
      ih fun m member => small m (List.mem_cons_of_mem _ member)]
    rfl

/-- The text of some bytes. -/
def encode (bytes : List UInt8) : String :=
  String.ofList ((sextets (bytes.map UInt8.toNat)).map symbol)

/-- The bytes of a text. -/
def decode (text : String) : Option (List UInt8) :=
  ((text.toList.mapM value).bind octets).map fun bytes => bytes.map UInt8.ofNat

/-- **What was encoded is decoded.** -/
theorem decode_encode (bytes : List UInt8) : decode (encode bytes) = some bytes := by
  have small : ∀ b ∈ bytes.map UInt8.toNat, b < 256 := by
    intro b member
    obtain ⟨byte, _, rfl⟩ := List.mem_map.mp member
    exact byte.toNat_lt
  unfold decode encode
  rw [String.toList_ofList, mapM_value (sextets_lt small), Option.bind_some, octets_sextets small,
    Option.map_some, List.map_map]
  have same : UInt8.ofNat ∘ UInt8.toNat = id := by
    funext byte
    exact UInt8.ofNat_toNat
  rw [same, List.map_id]

end Base64Url
