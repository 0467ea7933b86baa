import MolidoVpn.Worker.Brand

/-!
`nodeFingerprint` with the memo of one isolate: whatever has been hashed before, a line has the
fingerprint of its own core.
-/

namespace MolidoVpn.Worker

open Eviction (evict total evict_suffix evict_total evict_fits total_append)
open JavaScript (utf16Length)
open Sha256 (digest hexText)

/-- The first eight bytes of the digest. -/
def fingerprintOf (core : List Char) : List Char := hexText ((digest (Utf8.encode core)).take 8)

def memoCount : Nat := 4096

def memoChars : Int := 1000000

def memoLongest : Nat := 4096

/-- What an entry adds to `fingerprintChars`. -/
def entryChars (entry : List Char × List Char) : Nat := utf16Length entry.1

/-- `fingerprintMemo`, oldest first, and `fingerprintChars`. -/
structure FingerprintMemo where
  entries : List (List Char × List Char)
  chars : Int
  sound : ∀ entry ∈ entries, entry.2 = fingerprintOf entry.1
  counted : chars = total entryChars entries
  bounded : entries.length ≤ memoCount ∧ chars ≤ memoChars

namespace FingerprintMemo

def empty : FingerprintMemo where
  entries := []
  chars := 0
  sound := fun _ member => absurd member List.not_mem_nil
  counted := rfl
  bounded := by decide

/-- The core is put last, if nobody has put it since it was missed. -/
def put (memo : FingerprintMemo) (core : List Char) : List (List Char × List Char) × Int :=
  if (memo.entries.lookup core).isSome then (memo.entries, memo.chars)
  else (memo.entries ++ [(core, fingerprintOf core)], memo.chars + utf16Length core)

theorem put_sound (memo : FingerprintMemo) (core : List Char) :
    ∀ entry ∈ (memo.put core).1, entry.2 = fingerprintOf entry.1 := by
  intro entry member
  unfold put at member
  split at member
  · exact memo.sound entry member
  · rcases List.mem_append.mp member with old | new
    · exact memo.sound entry old
    · rw [List.mem_singleton.mp new]

theorem put_counted (memo : FingerprintMemo) (core : List Char) :
    (memo.put core).2 = total entryChars (memo.put core).1 := by
  unfold put
  split
  · exact memo.counted
  · rw [total_append, ← memo.counted, Int.add_right_inj, total, List.map_singleton,
      List.sum_singleton]
    rfl

/-- After the digest; then the oldest go. -/
def remember (memo : FingerprintMemo) (core : List Char) : FingerprintMemo :=
  if utf16Length core ≤ memoLongest then
    let kept := evict entryChars memoCount memoChars (memo.put core).1 (memo.put core).2
    { entries := kept.1
      chars := kept.2
      sound := fun entry member =>
        memo.put_sound core entry ((evict_suffix _ _ _ _).subset member)
      counted := by
        simp only [kept, put_counted]
        exact evict_total _ _ _
      bounded := by
        simp only [kept, put_counted]
        exact evict_fits _ _ (by decide) _ }
  else memo

/-- What is in the memo under a core is its fingerprint. -/
theorem lookup_sound {memo : FingerprintMemo} {core found : List Char}
    (hit : memo.entries.lookup core = some found) : found = fingerprintOf core := by
  obtain ⟨before, after, same, _⟩ := List.lookup_eq_some_iff.mp hit
  apply memo.sound (core, found)
  rw [same]
  exact List.mem_append_right before List.mem_cons_self

end FingerprintMemo

/-- With the memo at the call and, for a core that is not in it, the memo that is there once the
digest is. -/
def nodeFingerprint (memo later : FingerprintMemo) (line : List Char) :
    List Char × FingerprintMemo :=
  let core := lineCore line
  match memo.entries.lookup core with
  | some hit => (hit, memo)
  | none => (fingerprintOf core, later.remember core)

theorem nodeFingerprint_eq (memo later : FingerprintMemo) (line : List Char) :
    (nodeFingerprint memo later line).1 = fingerprintOf (lineCore line) := by
  unfold nodeFingerprint
  dsimp only
  cases hit : memo.entries.lookup (lineCore line) with
  | none => rfl
  | some found => exact FingerprintMemo.lookup_sound hit

end MolidoVpn.Worker
