/-
**Signatures of webhooks, and the three keyed digests.**

* `Webhook.signatureHeader` — the header a receiver checks: the keyed digest of the body, written out here a
  third time.
* **`hmac_copies_standard`** — signed links, webhooks and the local blob store give the same digest, and it is
  the standard one.
-/

import Invoicing.Api.SignedLink
import Invoicing.Store.Blob

namespace Invoicing

open Hmac

namespace Webhook

def block : ℕ := 64

def alphabet : List Char := "0123456789abcdef".toList

def hexLower (bytes : List UInt8) : Option String := (hexWith alphabet bytes).map String.ofList

section Digest

variable (H : List UInt8 → Vector UInt8 32)

def hmacSha256Hex (key msg : List UInt8) : Option String :=
  let k := if block < key.length then (Hasher.new.update key).finalize H else key
  let k := if k.length < block then resize k block 0 else k
  (fillPads block k 0x36 0x5c).bind fun pads =>
    let innerDigest := ((Hasher.new.update pads.1).update msg).finalize H
    hexLower (((Hasher.new.update pads.2).update innerDigest).finalize H)

/-- The value of the signature header. -/
def signatureHeader (body signingKey : List UInt8) : Option String :=
  (hmacSha256Hex H signingKey body).map fun sig => "sha256=" ++ sig

end Digest

end Webhook

/-! ### One digest -/

/-- The copies have the same steps. -/
theorem webhook_hmac_eq (H : List UInt8 → Vector UInt8 32) (key msg : List UInt8) :
    Webhook.hmacSha256Hex H key msg = SignedLink.hmacSha256Hex H key msg := rfl

theorem blob_hmac_eq (H : List UInt8 → Vector UInt8 32) (store : LocalBlobStore) (msg : List UInt8) :
    store.hmacHex H msg = SignedLink.hmacSha256Hex H store.signingKey msg := rfl

/-- **The three copies are the standard keyed digest**, in lowercase hex: whatever the hash function, the key
and the message, none of them stops, and a webhook's header is the standard digest of its body. -/
theorem hmac_copies_standard (H : List UInt8 → Vector UInt8 32) (key msg : List UInt8) :
    SignedLink.hmacSha256Hex H key msg =
        some (String.ofList (lowerHex (hmac (fun bytes => (H bytes).toList) 64 key msg))) ∧
      Webhook.hmacSha256Hex H key msg =
        some (String.ofList (lowerHex (hmac (fun bytes => (H bytes).toList) 64 key msg))) ∧
      (∀ store : LocalBlobStore, store.signingKey = key → store.hmacHex H msg =
        some (String.ofList (lowerHex (hmac (fun bytes => (H bytes).toList) 64 key msg)))) ∧
      Webhook.signatureHeader H msg key =
        some ("sha256=" ++ String.ofList (lowerHex (hmac (fun bytes => (H bytes).toList) 64 key msg))) := by
  have link := SignedLink.hmacSha256Hex_eq H key msg
  have webhook := (webhook_hmac_eq H key msg).trans link
  refine ⟨link, webhook, ?_, ?_⟩
  · rintro store rfl
    exact (blob_hmac_eq H store msg).trans link
  · unfold Webhook.signatureHeader
    rw [webhook]
    rfl

end Invoicing
