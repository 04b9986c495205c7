/-
**The local blob store.**

* `LocalBlobStore` — a directory and a signing key. `resolve` — the file of a reference, by a scan of the
  components of its path.
* **`resolve_inside`** — a file that a reference leads to lies in the directory: its path is that of the
  directory with names of the reference's own path behind it.
* `hmacHex` — the keyed digest of a message under the store's own key, as it is written out here.
-/

import Invoicing.Lib.Hmac
import Invoicing.Lib.UnixPath
import Invoicing.Lib.Utf8Text
import Invoicing.Store.BlobRef

namespace Invoicing

open Hmac UnixPath
open Utf8Text (bytes)

/-- The bytes of a path. -/
abbrev PathBuf := List UInt8

structure LocalBlobStore where
  root : PathBuf
  signingKey : List UInt8

namespace LocalBlobStore

/-! ### Files of references -/

/-- The tag of this store. -/
def backend : String := "local"

/-- The byte between the components of a path. -/
def slash : UInt8 := 47

def dot : UInt8 := 46

def resolve (store : LocalBlobStore) (r : BlobRef) : Except BlobError PathBuf :=
  if r.backend ≠ backend then .error (.otherBackend r.backend)
  else
    let candidate := join slash store.root (bytes r.path)
    if (components slash dot (bytes r.path)).all Component.stays then .ok candidate
    else .error (.disallowedComponent r.path)

/-- A reference leads to a file exactly when it is of this store and its path does not lead out. -/
theorem resolve_ok_iff {store : LocalBlobStore} {r : BlobRef} {file : PathBuf} :
    store.resolve r = .ok file ↔ r.backend = backend ∧
      (∀ c ∈ components slash dot (bytes r.path), c.stays) ∧ file = join slash store.root (bytes r.path) := by
  unfold resolve
  by_cases mine : r.backend = backend
  · rw [if_neg (not_not_intro mine)]
    by_cases stays : (components slash dot (bytes r.path)).all Component.stays
    · rw [if_pos stays, Except.ok.injEq, eq_comm]
      exact ⟨fun same => ⟨mine, List.all_eq_true.mp stays, same⟩, fun holds => holds.2.2⟩
    · rw [if_neg stays]
      exact iff_of_false nofun fun holds => stays (List.all_eq_true.mpr holds.2.1)
  · rw [if_pos mine]
    exact iff_of_false nofun fun holds => mine holds.1

/-- **The store cannot be escaped.** When a reference leads to a file, its path has names and `.` only; the
file's path is that of the directory, at most one slash and the reference's path; its components are those
of the directory and then some of these names, so that they lead below the directory. -/
theorem resolve_inside (store : LocalBlobStore) (r : BlobRef) (file : PathBuf)
    (resolved : store.resolve r = .ok file) :
    (∀ c ∈ components slash dot (bytes r.path), c = .curDir ∨ ∃ name, c = .normal name) ∧
      (∃ between, (between = [] ∨ between = [slash]) ∧ file = store.root ++ between ++ bytes r.path) ∧
      (∃ below, components slash dot file = components slash dot store.root ++ below ∧
        below.Sublist (components slash dot (bytes r.path)) ∧
        ∀ c ∈ below, c = .curDir ∨ ∃ name, c = .normal name) ∧
      place (components slash dot store.root) <+: place (components slash dot file) := by
  obtain ⟨_, stays, rfl⟩ := resolve_ok_iff.mp resolved
  have relative := relative_of_stays stays
  obtain ⟨below, joined, own⟩ : ∃ below, components slash dot (join slash store.root (bytes r.path)) =
      components slash dot store.root ++ below ∧ below.Sublist (components slash dot (bytes r.path)) :=
    components_join store.root relative
  have belowStays : ∀ c ∈ below, c.stays := fun c member => stays c (own.subset member)
  refine ⟨fun c member => Component.stays_iff.mp (stays c member), join_text relative,
    ⟨below, joined, own, fun c member => Component.stays_iff.mp (belowStays c member)⟩, ?_⟩
  rw [joined]
  exact place_below belowStays

/-- The directory `/blobs`. -/
def sampleStore : LocalBlobStore := ⟨bytes "/blobs", []⟩

/-- The reference to `./a/./b`. -/
def sampleRef : BlobRef where
  text := "blob://local/./a/./b"
  formed := ⟨backend.toList, "./a/./b".toList, by decide, by decide +kernel⟩

/-- A reference through `.` is the file in the directory; through `..`, or with a root, it is none. -/
theorem resolve_inside_blobs :
    (∃ r, BlobRef.parse "blob://local/./a/./b" = .ok r ∧ sampleStore.resolve r = .ok (bytes "/blobs/./a/./b") ∧
        place (components slash dot sampleStore.root) <+:
          place (components slash dot (bytes "/blobs/./a/./b"))) ∧
      (∃ r, BlobRef.parse "blob://local/a/../../b" = .ok r ∧
        sampleStore.resolve r = .error (.disallowedComponent "a/../../b")) ∧
      ∃ r, BlobRef.parse "blob://local///etc" = .ok r ∧
        sampleStore.resolve r = .error (.disallowedComponent "/etc") := by
  have found : sampleStore.resolve sampleRef = .ok (bytes "/blobs/./a/./b") := by decide +kernel
  have inside := (resolve_inside sampleStore _ _ found).2.2.2
  refine ⟨⟨sampleRef, ?_, found, inside⟩, ⟨_, rfl, ?_⟩, ⟨_, rfl, ?_⟩⟩
  · decide +kernel
  · decide +kernel
  · decide +kernel

/-! ### Signatures -/

def block : ℕ := 64

def alphabet : List Char := "0123456789abcdef".toList

def hexLower (bytes : List UInt8) : Option String := (hexWith alphabet bytes).map String.ofList

def hmacHex (H : List UInt8 → Vector UInt8 32) (store : LocalBlobStore) (msg : List UInt8) : Option String :=
  let key := store.signingKey
  let key := if block < key.length then (Hasher.new.update key).finalize H else key
  let key := if key.length < block then resize key block 0 else key
  (fillPads block key 0x36 0x5c).bind fun pads =>
    let innerDigest := ((Hasher.new.update pads.1).update msg).finalize H
    let finalDigest := ((Hasher.new.update pads.2).update innerDigest).finalize H
    hexLower finalDigest

end LocalBlobStore

end Invoicing
