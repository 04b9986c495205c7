/-
**Signed links.**

* `sign` — `id:exp`, the keyed digest of it in hex, and base64url of the three. `verifyAt` — the way back:
  the signature after the last colon, compared in constant time; the id before the first one; the expiry.
* `Engine` — base64url as the library has it; that what was encoded is decoded is the one thing assumed.
* `hmacSha256Hex` — the keyed digest as it is written out here. **`hmacSha256Hex_eq`** — it is the standard
  one.
* **`signed_links_exact`** — a link that was signed names its id and expiry until that time; whatever is
  accepted carries a payload `id:exp` and its signature; one payload names one id and one expiry.
-/

import Invoicing.Commands.Ctx
import Invoicing.Domain.CadenceText
import Invoicing.Lib.Base64Url
import Invoicing.Lib.Hmac

namespace Invoicing

open DigitText Hmac
open SplitText (toList_joined)

namespace SignedLink

/-! ### The keyed digest -/

def block : ℕ := 64

def alphabet : List Char := "0123456789abcdef".toList

def hexLower (bytes : List UInt8) : Option String := (hexWith alphabet bytes).map String.ofList

section Digest

variable (H : List UInt8 → Vector UInt8 32)

def hmacSha256Hex (key msg : List UInt8) : Option String :=
  let k := if block < key.length then (Hasher.new.update key).finalize H else key
  let k := if k.length < block then resize k block 0 else k
  (fillPads block k 0x36 0x5c).bind fun pads =>
    let innerDigest := ((Hasher.new.update pads.1).update msg).finalize H
    hexLower (((Hasher.new.update pads.2).update innerDigest).finalize H)

/-- The digest as a list of bytes. -/
def digest (bytes : List UInt8) : List UInt8 := (H bytes).toList

theorem hexLower_eq (bytes : List UInt8) : hexLower bytes = some (String.ofList (lowerHex bytes)) := by
  unfold hexLower
  rw [hexWith_eq (by decide)]
  rfl

/-- Hashing and filling make the key of one block. -/
theorem key_eq_blockKey (key : List UInt8) :
    (let k := if block < key.length then (Hasher.new.update key).finalize H else key
      if k.length < block then resize k block 0 else k) = blockKey (digest H) block key := by
  have fed : (Hasher.new.update key).finalize H = digest H key := rfl
  have short : ∀ k : List UInt8, k.length ≤ block →
      (if k.length < block then resize k block 0 else k) = k ++ List.replicate (block - k.length) 0 := by
    intro k atMost
    by_cases less : k.length < block
    · rw [if_pos less, resize, List.take_of_length_le atMost]
    · rw [if_neg less, Nat.sub_eq_zero_of_le (Nat.not_lt.mp less), List.replicate_zero, List.append_nil]
  unfold blockKey
  by_cases long : block < key.length
  · simp only [if_pos long]
    rw [fed]
    exact short _ (by rw [digest, Vector.length_toList]; decide)
  · simp only [if_neg long]
    exact short key (Nat.not_lt.mp long)

/-- **The keyed digest is the standard one, in lowercase hex.** -/
theorem hmacSha256Hex_eq (key msg : List UInt8) :
    hmacSha256Hex H key msg = some (String.ofList (lowerHex (hmac (digest H) 64 key msg))) := by
  have length : (blockKey (digest H) block key).length = block :=
    length_blockKey _ _ (by rw [digest, Vector.length_toList]; decide)
  have prepared := key_eq_blockKey H key
  unfold hmacSha256Hex
  dsimp only at prepared ⊢
  rw [prepared, fillPads_eq length, Option.bind_some, hexLower_eq]
  rfl

end Digest

/-! ### Texts and bytes -/

/-- The bytes of a text. -/
def asBytes (text : String) : List UInt8 := text.toByteArray.data.toList

/-- The text of some bytes, when they are UTF-8. -/
def fromUtf8 (bytes : List UInt8) : Option String := String.fromUTF8? ⟨bytes.toArray⟩

theorem fromUtf8_eq_some_iff {bytes : List UInt8} {text : String} :
    fromUtf8 bytes = some text ↔ bytes = asBytes text := by
  unfold fromUtf8 asBytes String.fromUTF8?
  constructor
  · intro read
    split at read
    · obtain rfl := Option.some.inj read
      rfl
    · cases read
  · rintro rfl
    exact dif_pos text.isValidUTF8

theorem asBytes_inj {first second : String} : asBytes first = asBytes second ↔ first = second := by
  constructor
  · intro same
    have read := fromUtf8_eq_some_iff.mpr same.symm
    rw [fromUtf8_eq_some_iff.mpr rfl] at read
    exact (Option.some.inj read).symm
  · rintro rfl
    rfl

def constantTimeEq (a b : List UInt8) : Bool :=
  if a.length ≠ b.length then false
  else (a.zip b).foldl (fun diff pair => diff ||| (pair.1 ^^^ pair.2)) 0 == 0

/-- The differences add up to zero only where there are none. -/
theorem foldl_diff_eq_zero {a b : List UInt8} (length : a.length = b.length) (diff : UInt8) :
    (a.zip b).foldl (fun diff pair => diff ||| (pair.1 ^^^ pair.2)) diff = 0 ↔ diff = 0 ∧ a = b := by
  induction a generalizing b diff with
  | nil =>
    obtain rfl := List.length_eq_zero_iff.mp length.symm
    simp
  | cons x rest ih =>
    cases b with
    | nil => cases length
    | cons y others =>
      rw [List.zip_cons_cons, List.foldl_cons, ih (by simpa using length), UInt8.or_eq_zero_iff,
        UInt8.xor_eq_zero_iff, List.cons.injEq, and_assoc]

/-- **The constant-time comparison is equality.** -/
theorem constantTimeEq_iff (a b : List UInt8) : constantTimeEq a b = true ↔ a = b := by
  unfold constantTimeEq
  by_cases length : a.length = b.length
  · rw [if_neg (not_not_intro length), beq_iff_eq, foldl_diff_eq_zero length]
    simp
  · rw [if_pos length]
    exact iff_of_false Bool.false_ne_true fun same => length (congrArg List.length same)

/-- The text after the last separator, and what is before it. -/
def rsplitTwo (c : Char) (text : List Char) : List Char × Option (List Char) :=
  match splitOnce c text.reverse with
  | none => (text, none)
  | some (last, rest) => (last.reverse, some rest.reverse)

theorem rsplitTwo_append {c : Char} {last : List Char} (absent : c ∉ last) (rest : List Char) :
    rsplitTwo c (rest ++ c :: last) = (last, some rest) := by
  have turned : (rest ++ c :: last).reverse = last.reverse ++ c :: rest.reverse := by simp
  unfold rsplitTwo
  rw [turned, splitOnce_append (by simpa using absent)]
  dsimp only
  rw [List.reverse_reverse, List.reverse_reverse]

theorem rsplitTwo_some {c : Char} {text last rest : List Char} (split : rsplitTwo c text = (last, some rest)) :
    text = rest ++ c :: last ∧ c ∉ last := by
  unfold rsplitTwo at split
  cases turned : splitOnce c text.reverse with
  | none =>
    rw [turned] at split
    cases split
  | some parts =>
    obtain ⟨first, others⟩ := parts
    rw [turned] at split
    cases split
    obtain ⟨whole, absent⟩ := splitOnce_eq_some_iff.mp turned
    refine ⟨?_, by simpa using absent⟩
    rw [← List.reverse_reverse text, whole]
    simp

/-! ### Signing and verifying -/

/-- Base64url without padding, as the library has it. -/
structure Engine where
  encode : List UInt8 → String
  decode : String → Option (List UInt8)
  decode_encode : ∀ bytes, decode (encode bytes) = some bytes

/-- The largest `u64`. -/
def maxU64 : ℕ := 2 ^ 64 - 1

structure VerifiedToken where
  invoiceId : String
  expiryUnix : ℕ
  deriving DecidableEq

inductive VerifyError
  | base64
  | payload
  | expired
  | mismatch
  deriving DecidableEq

/-- Nothing there is an error. -/
def orReject {α : Type} (found : Option α) (e : VerifyError) : Except (Stop VerifyError) α :=
  match found with
  | none => .error (.error e)
  | some a => .ok a

/-- Nothing there is a panic. -/
def orPanic {α : Type} (found : Option α) : Except (Stop VerifyError) α :=
  match found with
  | none => .error .panic
  | some a => .ok a

theorem orReject_bind {α β : Type} (a : α) (e : VerifyError) (rest : α → Except (Stop VerifyError) β) :
    (orReject (some a) e >>= rest) = rest a := rfl

theorem orPanic_bind {α β : Type} (a : α) (rest : α → Except (Stop VerifyError) β) :
    (orPanic (some a) >>= rest) = rest a := rfl

/-- What is signed. -/
def payloadOf (invoiceId : String) (exp : ℕ) : String := invoiceId ++ ":" ++ natText exp

section Links

variable (engine : Engine) (H : List UInt8 → Vector UInt8 32)

/-- **`sign`** at a second of the clock; nothing where the expiry overflows. -/
def sign (now : ℕ) (invoiceId : String) (ttlSecs : ℕ) (signingKey : List UInt8) : Option String :=
  if now + ttlSecs ≤ maxU64 then
    let payload := payloadOf invoiceId (now + ttlSecs)
    (hmacSha256Hex H signingKey (asBytes payload)).map fun sig =>
      engine.encode (asBytes (payload ++ ":" ++ sig))
  else none

/-- The check of a payload against the clock, once its signature is right. -/
def readPayload (payload : List Char) (nowUnix : ℕ) : Except (Stop VerifyError) VerifiedToken := do
  let parts ← orReject (splitOnce ':' payload) .payload
  let expiryUnix ← orReject (readUnsigned maxU64 parts.2) .payload
  if expiryUnix ≤ nowUnix then .error (.error .expired)
  else return ⟨String.ofList parts.1, expiryUnix⟩

/-- **`verify_at`.** -/
def verifyAt (token : String) (signingKey : List UInt8) (nowUnix : ℕ) :
    Except (Stop VerifyError) VerifiedToken := do
  let raw ← orReject (engine.decode token) .base64
  let composed ← orReject (fromUtf8 raw) .payload
  let parts := rsplitTwo ':' composed.toList
  let sig := String.ofList parts.1
  let payload ← orReject parts.2 .payload
  let expectedSig ← orPanic (hmacSha256Hex H signingKey (asBytes (String.ofList payload)))
  if constantTimeEq (asBytes sig) (asBytes expectedSig) then readPayload payload nowUnix
  else .error (.error .mismatch)

/-- The signature of a payload: the standard keyed digest in lowercase hex. -/
def signature (signingKey : List UInt8) (payload : String) : String :=
  String.ofList (lowerHex (hmac (digest H) 64 signingKey (asBytes payload)))

/-- The token decodes to a payload, a colon and a signature without one. -/
def Carries (token payload sig : String) : Prop :=
  engine.decode token = some (asBytes (payload ++ ":" ++ sig)) ∧ ':' ∉ sig.toList

variable {engine H}

/-! ### What the check reads -/

theorem readPayload_ok_iff {payload : List Char} {nowUnix : ℕ} {verified : VerifiedToken} :
    readPayload payload nowUnix = .ok verified ↔
      ∃ e, payload = verified.invoiceId.toList ++ ':' :: e ∧ ':' ∉ verified.invoiceId.toList ∧
        readUnsigned maxU64 e = some verified.expiryUnix ∧ nowUnix < verified.expiryUnix := by
  constructor
  · intro read
    obtain ⟨⟨id, e⟩, split, read⟩ := bind_ok read
    obtain ⟨exp, number, read⟩ := bind_ok read
    by_cases past : exp ≤ nowUnix
    · rw [if_pos past] at read
      cases read
    · rw [if_neg past] at read
      cases read
      cases there : splitOnce ':' payload with
      | none =>
        rw [there] at split
        cases split
      | some parts =>
        rw [there] at split
        cases split
        obtain ⟨whole, absent⟩ := splitOnce_eq_some_iff.mp there
        cases digits : readUnsigned maxU64 e with
        | none =>
          rw [digits] at number
          cases number
        | some n =>
          rw [digits] at number
          cases number
          refine ⟨e, ?_, ?_, digits, not_le.mp past⟩
          · rw [String.toList_ofList]
            exact whole
          · rw [String.toList_ofList]
            exact absent
  · rintro ⟨e, rfl, absent, number, future⟩
    unfold readPayload
    rw [splitOnce_append absent, orReject_bind, number, orReject_bind, if_neg (not_le.mpr future),
      String.ofList_toList]
    rfl

/-- The payload of an id without a colon is read as that id and expiry. -/
theorem readPayload_payloadOf {invoiceId : String} (absent : ':' ∉ invoiceId.toList) {exp : ℕ}
    (room : exp ≤ maxU64) (nowUnix : ℕ) :
    readPayload (payloadOf invoiceId exp).toList nowUnix =
      if nowUnix < exp then .ok ⟨invoiceId, exp⟩ else .error (.error .expired) := by
  have text : (payloadOf invoiceId exp).toList = invoiceId.toList ++ ':' :: Nat.toDigits 10 exp := by
    rw [payloadOf, toList_joined ':' rfl, natText, String.toList_ofList]
  have number : readUnsigned maxU64 (Nat.toDigits 10 exp) = some exp :=
    readUnsigned_eq_some_iff.mpr ⟨room, false, 0, rfl⟩
  by_cases future : nowUnix < exp
  · rw [if_pos future, readPayload_ok_iff]
    exact ⟨_, text, absent, number, future⟩
  · rw [if_neg future]
    unfold readPayload
    rw [text, splitOnce_append absent, orReject_bind, number, orReject_bind, if_pos (not_lt.mp future)]

theorem colon_not_mem_lowerHex (bytes : List UInt8) : ':' ∉ lowerHex bytes := by
  intro member
  obtain ⟨byte, _, digit⟩ := List.mem_flatMap.mp member
  have glyph : ∀ d < 16, ':' ≠ Nat.digitChar d := by decide
  rcases List.mem_cons.mp digit with same | digit
  · exact glyph _ (Nat.mod_lt _ (by norm_num)) same
  · exact glyph _ (Nat.mod_lt _ (by norm_num)) (List.mem_singleton.mp digit)

theorem colon_not_mem_signature (key : List UInt8) (payload : String) :
    ':' ∉ (signature H key payload).toList := by
  rw [signature, String.toList_ofList]
  exact colon_not_mem_lowerHex _

/-- The check of a token, by what it carries. -/
theorem Carries.verifyAt_eq {token payload sig : String} (carries : Carries engine token payload sig)
    (key : List UInt8) (nowUnix : ℕ) :
    verifyAt engine H token key nowUnix =
      if sig = signature H key payload then readPayload payload.toList nowUnix
      else .error (.error .mismatch) := by
  obtain ⟨decoded, absent⟩ := carries
  have text : (payload ++ ":" ++ sig).toList = payload.toList ++ ':' :: sig.toList :=
    toList_joined ':' rfl payload sig
  have expected : hmacSha256Hex H key (asBytes payload) = some (signature H key payload) :=
    hmacSha256Hex_eq H key _
  unfold verifyAt
  rw [decoded, orReject_bind, fromUtf8_eq_some_iff.mpr rfl, orReject_bind, text, rsplitTwo_append absent]
  dsimp only
  rw [orReject_bind, String.ofList_toList, String.ofList_toList, expected, orPanic_bind]
  have equal : constantTimeEq (asBytes sig) (asBytes (signature H key payload)) = true ↔
      sig = signature H key payload := by
    rw [constantTimeEq_iff, asBytes_inj]
  by_cases same : sig = signature H key payload
  · rw [if_pos (equal.mpr same), if_pos same]
  · rw [if_neg fun matched => same (equal.mp matched), if_neg same]

theorem orReject_ok {α : Type} {found : Option α} {e : VerifyError} {a : α}
    (there : orReject found e = .ok a) : found = some a := by
  cases found with
  | none => cases there
  | some b =>
    cases there
    rfl

/-- What is accepted carries a payload and its signature, and the payload is read. -/
theorem carries_of_verifyAt {token : String} {key : List UInt8} {nowUnix : ℕ} {verified : VerifiedToken}
    (accepted : verifyAt engine H token key nowUnix = .ok verified) :
    ∃ payload, Carries engine token payload (signature H key payload) ∧
      readPayload payload.toList nowUnix = .ok verified := by
  obtain ⟨raw, decoded, rest⟩ := bind_ok accepted
  obtain ⟨composed, utf8, rest⟩ := bind_ok rest
  obtain ⟨payload, present, _⟩ := bind_ok rest
  obtain ⟨sig, split⟩ : ∃ sig, rsplitTwo ':' composed.toList = (sig, some payload) :=
    ⟨_, Prod.ext rfl (orReject_ok present)⟩
  obtain ⟨text, absent⟩ := rsplitTwo_some split
  have whole : String.ofList payload ++ ":" ++ String.ofList sig = composed := by
    apply String.toList_injective
    rw [text, toList_joined ':' rfl, String.toList_ofList, String.toList_ofList]
  have carries : Carries engine token (String.ofList payload) (String.ofList sig) := by
    refine ⟨?_, by rwa [String.toList_ofList]⟩
    rw [whole, ← fromUtf8_eq_some_iff.mp (orReject_ok utf8)]
    exact orReject_ok decoded
  rw [carries.verifyAt_eq] at accepted
  split at accepted
  · rename_i genuine
    rw [genuine] at carries
    exact ⟨_, carries, accepted⟩
  · cases accepted

/-- A token carries one payload. -/
theorem Carries.unique {token payload payload' sig sig' : String} (first : Carries engine token payload sig)
    (second : Carries engine token payload' sig') : payload = payload' ∧ sig = sig' := by
  obtain ⟨decoded, absent⟩ := first
  obtain ⟨decoded', absent'⟩ := second
  rw [decoded, Option.some.injEq, asBytes_inj] at decoded'
  have chars : ∀ p s : String, (p ++ ":" ++ s).toList = p.toList ++ ':' :: s.toList := toList_joined ':' rfl
  have split := rsplitTwo_append absent payload.toList
  rw [← chars, decoded', chars, rsplitTwo_append absent', Prod.mk.injEq, Option.some.injEq] at split
  exact ⟨String.toList_injective split.2.symm, String.toList_injective split.1.symm⟩

/-! ### Exact links -/

/-- A signed token carries the payload of its id and expiry. -/
theorem sign_carries {now ttlSecs : ℕ} {invoiceId : String} (room : now + ttlSecs ≤ maxU64)
    (key : List UInt8) :
    ∃ token, sign engine H now invoiceId ttlSecs key = some token ∧
      Carries engine token (payloadOf invoiceId (now + ttlSecs))
        (signature H key (payloadOf invoiceId (now + ttlSecs))) := by
  refine ⟨_, ?_, engine.decode_encode _, colon_not_mem_signature key _⟩
  unfold sign
  rw [if_pos room]
  dsimp only
  rw [hmacSha256Hex_eq]
  rfl

variable (engine H)

/-- **Signed links are exact.** A token signed for an id without a colon names the id and the expiry just
until the expiry, and is expired from then on. Whatever is accepted decodes to a payload, a colon and the
payload's signature, and the payload is the id named, a colon and a number that is the expiry named. Two
accepted tokens that name different ids or expiries carry different payloads. -/
theorem signed_links_exact :
    (∀ (invoiceId : String) (now ttlSecs : ℕ) (key : List UInt8), ':' ∉ invoiceId.toList →
        now + ttlSecs ≤ maxU64 →
        ∃ token, sign engine H now invoiceId ttlSecs key = some token ∧
          ∀ nowUnix, verifyAt engine H token key nowUnix =
            if nowUnix < now + ttlSecs then .ok ⟨invoiceId, now + ttlSecs⟩ else .error (.error .expired)) ∧
      (∀ token key nowUnix verified, verifyAt engine H token key nowUnix = .ok verified →
        ∃ payload sig e, engine.decode token = some (asBytes (payload ++ ":" ++ sig)) ∧
          sig = signature H key payload ∧ hmacSha256Hex H key (asBytes payload) = some sig ∧
          payload = verified.invoiceId ++ ":" ++ e ∧
          readUnsigned maxU64 e.toList = some verified.expiryUnix ∧ ':' ∉ verified.invoiceId.toList ∧
          nowUnix < verified.expiryUnix) ∧
      ∀ token token' key key' nowUnix nowUnix' verified verified' payload sig sig',
        verifyAt engine H token key nowUnix = .ok verified →
        verifyAt engine H token' key' nowUnix' = .ok verified' → verified ≠ verified' →
        Carries engine token payload sig → ¬ Carries engine token' payload sig' := by
  refine ⟨?_, ?_, ?_⟩
  · intro invoiceId now ttlSecs key absent room
    obtain ⟨token, signed, carries⟩ : ∃ token, sign engine H now invoiceId ttlSecs key = some token ∧ _ :=
      sign_carries room key
    refine ⟨token, signed, fun nowUnix => ?_⟩
    rw [carries.verifyAt_eq, if_pos rfl]
    exact readPayload_payloadOf absent room nowUnix
  · intro token key nowUnix verified accepted
    obtain ⟨payload, carries, read⟩ := carries_of_verifyAt accepted
    obtain ⟨e, text, absent, number, future⟩ := readPayload_ok_iff.mp read
    refine ⟨payload, _, String.ofList e, carries.1, rfl, hmacSha256Hex_eq H key _, ?_, ?_, absent, future⟩
    · apply String.toList_injective
      rw [text, toList_joined ':' rfl, String.toList_ofList]
    · rw [String.toList_ofList]
      exact number
  · intro token token' key key' nowUnix nowUnix' verified verified' payload sig sig' accepted accepted' differ
      carries carries'
    obtain ⟨p, carried, read⟩ := carries_of_verifyAt accepted
    obtain ⟨p', carried', read'⟩ := carries_of_verifyAt accepted'
    obtain rfl := (carries.unique carried).1
    obtain rfl := (carries'.unique carried').1
    -- one payload splits at its first colon in one way
    obtain ⟨e, text, absent, number, _⟩ := readPayload_ok_iff.mp read
    obtain ⟨e', text', absent', number', _⟩ := readPayload_ok_iff.mp read'
    have split := splitOnce_append absent e
    rw [← text, text', splitOnce_append absent', Option.some.injEq, Prod.mk.injEq] at split
    obtain ⟨ids, rfl⟩ := split
    rw [number, Option.some.injEq] at number'
    apply differ
    cases verified
    cases verified'
    cases number'
    cases String.toList_injective ids
    rfl

end Links

/-- Base64url itself. -/
def urlSafeNoPad : Engine := ⟨Base64Url.encode, Base64Url.decode, Base64Url.decode_encode⟩

/-- A link of one hour: good in its last second, expired after it. -/
theorem signed_links_exact_hour :
    (∀ H, ∃ token, sign urlSafeNoPad H 1000 "invoice_1" 3600 [7] = some token ∧
        verifyAt urlSafeNoPad H token [7] 4599 = .ok ⟨"invoice_1", 4600⟩ ∧
        verifyAt urlSafeNoPad H token [7] 4600 = .error (.error .expired)) ∧
      urlSafeNoPad.encode [105, 110, 118, 255] = "aW52_w" := by
  refine ⟨fun H => ?_, by decide +kernel⟩
  obtain ⟨token, signed, verified⟩ :=
    (signed_links_exact urlSafeNoPad H).1 "invoice_1" 1000 3600 [7] (by decide) (by decide)
  exact ⟨token, signed, verified 4599, verified 4600⟩

end SignedLink

end Invoicing
