import Mathlib.Data.List.Basic

/-!
Self-delimiting frames in a stream of bytes. A splitter takes one frame off the
front of a buffer and is not disturbed by more bytes behind it; draining a
buffer after each chunk then gives the same frames as draining the whole stream
at once, however the stream is cut.
-/

namespace MolidoVpn.Framing

universe u v

/-- Takes the next frame off the front of a buffer, once the buffer holds all of it. -/
structure Splitter (Byte : Type u) (Frame : Type v) where
  next : List Byte → Option (Frame × List Byte)
  stable : ∀ bytes frame rest more, next bytes = some (frame, rest) →
    next (bytes ++ more) = some (frame, rest ++ more)
  advances : ∀ bytes frame rest, next bytes = some (frame, rest) → rest.length < bytes.length

namespace Splitter

variable {Byte : Type u} {Frame : Type v} (splitter : Splitter Byte Frame)

/-- At most `fuel` frames, and what is left. -/
def drainFor : Nat → List Byte → List Frame × List Byte
  | 0, bytes => ([], bytes)
  | fuel + 1, bytes =>
      match splitter.next bytes with
      | none => ([], bytes)
      | some (frame, rest) =>
          (frame :: (drainFor fuel rest).1, (drainFor fuel rest).2)

/-- Every frame that the buffer holds, and what is left. -/
def drain (bytes : List Byte) : List Frame × List Byte := splitter.drainFor bytes.length bytes

variable {splitter} {bytes : List Byte}

private theorem drainFor_enough {fuel : Nat} (enough : bytes.length ≤ fuel) :
    splitter.drainFor fuel bytes = splitter.drainFor bytes.length bytes := by
  induction fuel using Nat.strongRecOn generalizing bytes with
  | ind fuel ih =>
      cases fuel with
      | zero => rw [Nat.le_zero.mp enough]
      | succ fuel =>
          cases length : bytes.length with
          | zero =>
              have none_ : splitter.next bytes = none := by
                cases next : splitter.next bytes with
                | none => rfl
                | some taken =>
                    have shorter := splitter.advances bytes taken.1 taken.2 next
                    omega
              simp only [drainFor, none_]
          | succ count =>
              simp only [drainFor]
              cases next : splitter.next bytes with
              | none => rfl
              | some taken =>
                  have shorter := splitter.advances bytes taken.1 taken.2 next
                  simp only
                  rw [ih fuel (Nat.lt_succ_self fuel) (by omega),
                    ih count (by omega) (by omega)]

theorem drain_of_none (incomplete : splitter.next bytes = none) :
    splitter.drain bytes = ([], bytes) := by
  unfold drain
  cases bytes.length with
  | zero => rfl
  | succ count => simp only [drainFor, incomplete]

theorem drain_of_some {frame : Frame} {rest : List Byte}
    (complete : splitter.next bytes = some (frame, rest)) :
    splitter.drain bytes = (frame :: (splitter.drain rest).1, (splitter.drain rest).2) := by
  have shorter := splitter.advances bytes frame rest complete
  unfold drain
  cases length : bytes.length with
  | zero => omega
  | succ count =>
      simp only [drainFor, complete]
      rw [drainFor_enough (by omega : rest.length ≤ count)]

theorem next_nil : splitter.next [] = none := by
  cases next : splitter.next [] with
  | none => rfl
  | some taken => exact absurd (splitter.advances [] taken.1 taken.2 next) (Nat.not_lt_zero _)

/-- Nothing complete is left behind. -/
theorem next_residue (bytes : List Byte) : splitter.next (splitter.drain bytes).2 = none := by
  induction length : bytes.length using Nat.strongRecOn generalizing bytes with
  | ind count ih =>
      cases next : splitter.next bytes with
      | none => rw [drain_of_none next]; exact next
      | some taken =>
          have shorter := splitter.advances bytes taken.1 taken.2 next
          rw [drain_of_some next]
          exact ih taken.2.length (by omega) taken.2 rfl

/-- Draining early loses nothing. -/
theorem drain_append (bytes more : List Byte) :
    splitter.drain (bytes ++ more) =
      ((splitter.drain bytes).1 ++ (splitter.drain ((splitter.drain bytes).2 ++ more)).1,
        (splitter.drain ((splitter.drain bytes).2 ++ more)).2) := by
  induction length : bytes.length using Nat.strongRecOn generalizing bytes with
  | ind count ih =>
      cases next : splitter.next bytes with
      | none =>
          rw [drain_of_none next]
          rfl
      | some taken =>
          have shorter := splitter.advances bytes taken.1 taken.2 next
          have later := splitter.stable bytes taken.1 taken.2 more next
          rw [drain_of_some later, drain_of_some next,
            ih taken.2.length (by omega) taken.2 rfl]
          rfl

end Splitter

end MolidoVpn.Framing
