import MolidoVpn.Lib.History
import MolidoVpn.Lib.Transition
import MolidoVpn.Noize.Config

/-!
The stream that splits what is written until the first read (`fragment.rs`), and its runs: polls
in any order, at times that do not go back. Times are in milliseconds.
-/

namespace MolidoVpn.Fragment

open History (Every every_nil)
open Noize (Draw randomRange)
open Transition (Run ofNext execute run_of_execute)

structure FragmentConfig where
  enabled : Bool
  sizeMin : Nat
  sizeMax : Nat
  delayMinMs : Nat
  delayMaxMs : Nat

namespace FragmentConfig

def pickChunkLen (cfg : FragmentConfig) (remaining : Nat) (draw : Draw) : Nat :=
  let hi := min (max cfg.sizeMax 1) remaining
  let lo := min (max cfg.sizeMin 1) hi
  if lo ≥ hi then hi else randomRange lo hi draw

def pickDelay (cfg : FragmentConfig) (draw : Draw) : Nat :=
  if cfg.delayMaxMs = 0 then 0
  else if cfg.delayMaxMs ≤ cfg.delayMinMs then cfg.delayMinMs
  else randomRange cfg.delayMinMs cfg.delayMaxMs draw

/-- The shortest pause there is. -/
def least (cfg : FragmentConfig) : Nat := if cfg.delayMaxMs = 0 then 0 else cfg.delayMinMs

variable (cfg : FragmentConfig)

theorem pickChunkLen_between (remaining : Nat) (draw : Draw) :
    min 1 remaining ≤ cfg.pickChunkLen remaining draw ∧
      cfg.pickChunkLen remaining draw ≤ max cfg.sizeMax 1 := by
  unfold pickChunkLen randomRange
  dsimp only
  split
  · omega
  · omega

theorem pickDelay_between (draw : Draw) :
    cfg.least ≤ cfg.pickDelay draw ∧
      cfg.pickDelay draw ≤ max cfg.delayMinMs cfg.delayMaxMs := by
  unfold least pickDelay randomRange
  split
  · omega
  · split
    · omega
    · omega

end FragmentConfig

structure FragmentingStream where
  cfg : FragmentConfig
  fragmenting : Bool
  pendingDelay : Option Nat

/-- What a write poll is answered. -/
inductive Polled where
  | pending
  | failed
  | took (count : Nat)

def Polled.count : Polled → Nat
  | .took count => count
  | .pending | .failed => 0

namespace FragmentingStream

def new (cfg : FragmentConfig) : FragmentingStream :=
  { cfg := cfg
    fragmenting := cfg.enabled
    pendingDelay := none }

def pollRead (stream : FragmentingStream) : FragmentingStream :=
  { stream with fragmenting := false }

/-- What is given to the stream inside stands before what the caller is answered. -/
def pollWrite (stream : FragmentingStream) (now : Nat) (buf : List UInt8) (chunk delay : Draw)
    (inner : Polled) : FragmentingStream × List UInt8 × Polled :=
  if buf = [] ∨ stream.fragmenting = false then (stream, buf, inner)
  else if stream.pendingDelay.any (now < ·) then (stream, [], .pending)
  else
    let pause := stream.cfg.pickDelay delay
    let until_ := if inner.count = 0 ∨ pause = 0 then none else some (now + pause)
    ({ stream with pendingDelay := until_ },
      buf.take (stream.cfg.pickChunkLen buf.length chunk), inner)

/-- A poll that is not held back gives at least a byte, if there is one. -/
theorem pollWrite_offers (stream : FragmentingStream) (now : Nat) {buf : List UInt8}
    (chunk delay : Draw) (inner : Polled) (some_ : buf ≠ [])
    (free : ∀ until_ ∈ stream.pendingDelay, until_ ≤ now) :
    (stream.pollWrite now buf chunk delay inner).2.1 ≠ [] := by
  unfold pollWrite
  split
  · exact some_
  · split
    · rename_i waits
      obtain ⟨until_, waiting, less⟩ := (Option.any_eq_true _ _).mp waits
      exact absurd (free until_ waiting) (Nat.not_le_of_lt (of_decide_eq_true less))
    · have full := List.length_pos_of_ne_nil some_
      have size := (stream.cfg.pickChunkLen_between buf.length chunk).1
      refine List.ne_nil_of_length_pos ?_
      rw [List.length_take]
      omega

end FragmentingStream

/-- What the stream inside took in one poll, and whether writes were being split. -/
structure Piece where
  time : Nat
  bytes : List UInt8
  split : Bool

/-- The stream with the time of its last poll, and what its callers were told is written. -/
structure Watched where
  stream : FragmentingStream
  clock : Nat
  pieces : List Piece
  reported : List UInt8

def Watched.new (cfg : FragmentConfig) : Watched :=
  { stream := .new cfg
    clock := 0
    pieces := []
    reported := [] }

inductive Call where
  | read (now : Nat)
  | write (now : Nat) (buf : List UInt8) (chunk delay : Draw) (inner : Polled)

def Call.now : Call → Nat
  | .read now => now
  | .write now _ _ _ _ => now

/-- The stream inside takes no more than it is given. -/
def next (w : Watched) (call : Call) : Option Watched :=
  if call.now < w.clock then none
  else
    match call with
    | .read now => some { w with stream := w.stream.pollRead, clock := now }
    | .write now buf chunk delay inner =>
        let (after, given, answer) := w.stream.pollWrite now buf chunk delay inner
        if given.length < answer.count then none
        else some
          { stream := after
            clock := now
            pieces := w.pieces ++ [⟨now, given.take answer.count, w.stream.fragmenting⟩]
            reported := w.reported ++ buf.take answer.count }

section Runs

variable {cfg : FragmentConfig} {w w' : Watched}

/-- A split piece comes behind split ones only, and the pauses behind them are over. -/
def Apart (cfg : FragmentConfig) (before : List Piece) (piece : Piece) : Prop :=
  piece.split = true → ∀ earlier ∈ before, earlier.split = true ∧
    (earlier.bytes ≠ [] → piece.bytes ≠ [] → earlier.time + cfg.least ≤ piece.time)

/-- What the stream inside took is what is reported, in pieces that are small and apart. A poll is
not held back for longer than a pause, and then gives something. -/
structure Split (cfg : FragmentConfig) (w : Watched) : Prop where
  whole : w.pieces.flatMap Piece.bytes = w.reported
  small : ∀ piece ∈ w.pieces, piece.split = true → piece.bytes.length ≤ max cfg.sizeMax 1
  apart : Every (Apart cfg) w.pieces
  held : ∀ until_ ∈ w.stream.pendingDelay, ∃ piece ∈ w.pieces,
    until_ ≤ piece.time + max cfg.delayMinMs cfg.delayMaxMs
  offers : ∀ now buf chunk delay inner, buf ≠ [] →
    (∀ until_ ∈ w.stream.pendingDelay, until_ ≤ now) →
      (w.stream.pollWrite now buf chunk delay inner).2.1 ≠ []

/-- While writes are split, all pieces are, and their pauses end with the one that is waited for. -/
structure Sound (cfg : FragmentConfig) (w : Watched) : Prop extends Split cfg w where
  same : w.stream.cfg = cfg
  rests : w.stream.fragmenting = true → ∀ earlier ∈ w.pieces, earlier.split = true ∧
    (earlier.bytes ≠ [] → earlier.time + cfg.least ≤ w.stream.pendingDelay.getD w.clock)

/-- A poll that writes a piece, or nothing. -/
theorem Sound.push (before : Sound cfg w) (stream : FragmentingStream) (now : Nat)
    (bytes : List UInt8) (same : stream.cfg = w.stream.cfg)
    (on : stream.fragmenting = w.stream.fragmenting)
    (small : w.stream.fragmenting = true → bytes.length ≤ max cfg.sizeMax 1)
    (due : w.stream.fragmenting = true → bytes ≠ [] → w.stream.pendingDelay.getD w.clock ≤ now)
    (held : ∀ until_ ∈ stream.pendingDelay, until_ ∈ w.stream.pendingDelay ∨
      until_ ≤ now + max cfg.delayMinMs cfg.delayMaxMs)
    (rests : w.stream.fragmenting = true →
      w.stream.pendingDelay.getD w.clock ≤ stream.pendingDelay.getD now ∧
        (bytes ≠ [] → now + cfg.least ≤ stream.pendingDelay.getD now)) :
    Sound cfg
      { stream := stream
        clock := now
        pieces := w.pieces ++ [⟨now, bytes, w.stream.fragmenting⟩]
        reported := w.reported ++ bytes } where
  whole := by rw [List.flatMap_append, before.whole, List.flatMap_singleton]
  small := by
    intro piece member
    rcases List.mem_append.mp member with old | new
    · exact before.small piece old
    · cases List.mem_singleton.mp new
      exact small
  apart := by
    apply before.apart.snoc
    intro split earlier member
    obtain ⟨was, ended⟩ := before.rests split earlier member
    exact ⟨was, fun some_ more => (ended some_).trans (due split more)⟩
  held := by
    intro until_ waiting
    rcases held until_ waiting with old | short
    · obtain ⟨piece, member, near⟩ := before.held until_ old
      exact ⟨piece, List.mem_append_left _ member, near⟩
    · exact ⟨_, List.mem_append_right _ List.mem_cons_self, short⟩
  offers now _ chunk delay inner := stream.pollWrite_offers now chunk delay inner
  same := same.trans before.same
  rests := by
    intro still earlier member
    rw [on] at still
    rcases List.mem_append.mp member with old | new
    · obtain ⟨split, ended⟩ := before.rests still earlier old
      exact ⟨split, fun some_ => (ended some_).trans (rests still).1⟩
    · cases List.mem_singleton.mp new
      exact ⟨still, (rests still).2⟩

theorem Sound.next (before : Sound cfg w) {call : Call} (taken : next w call = some w') :
    Sound cfg w' := by
  unfold Fragment.next at taken
  split at taken
  · cases taken
  rename_i early
  have later : w.stream.pendingDelay.getD w.clock ≤ w.stream.pendingDelay.getD call.now := by
    cases w.stream.pendingDelay with
    | none => exact Nat.le_of_not_lt early
    | some until_ => exact Nat.le_refl _
  cases call with
  | read now =>
      cases taken
      exact
        { before with
          offers := fun now _ => w.stream.pollRead.pollWrite_offers now
          rests := fun on => by cases on }
  | write now buf chunk delay inner =>
      -- a stream that stays as it is while writes are split has written nothing
      have quiet (bytes : List UInt8) (none_ : w.stream.fragmenting = true → bytes = []) :=
        before.push w.stream now bytes rfl rfl
          (fun on => by rw [none_ on]; exact Nat.zero_le _)
          (fun on some_ => absurd (none_ on) some_) (fun _ => Or.inl)
          fun on => ⟨later, fun some_ => absurd (none_ on) some_⟩
      simp only [FragmentingStream.pollWrite] at taken
      split at taken
      · rename_i plain
        split at taken
        · cases taken
        · cases taken
          apply quiet
          intro on
          rw [plain.resolve_right (by rw [on]; exact Bool.false_ne_true.symm), List.take_nil]
      · split at taken
        · cases taken
          exact quiet [] fun _ => rfl
        · rename_i awake
          split at taken
          · cases taken
          rename_i fits
          cases taken
          simp only [List.length_take] at fits ⊢
          rw [List.take_take, Nat.min_eq_left (by omega)]
          have ended : w.stream.pendingDelay.getD w.clock ≤ now := by
            cases waits : w.stream.pendingDelay with
            | none => exact Nat.le_of_not_lt early
            | some until_ =>
                rw [waits] at awake
                exact Nat.le_of_not_lt fun less => awake (decide_eq_true less)
          have size := (w.stream.cfg.pickChunkLen_between buf.length chunk).2
          obtain ⟨least, most⟩ := w.stream.cfg.pickDelay_between delay
          rw [before.same] at fits size least most ⊢
          apply before.push ⟨cfg, _, _⟩ _ _ before.same.symm rfl
          · intro _
            rw [List.length_take]
            omega
          · exact fun _ _ => ended
          · intro until_ waiting
            simp only at waiting
            split at waiting
            · cases waiting
            · cases waiting
              exact Or.inr (Nat.add_le_add_left most now)
          · intro _
            simp only
            split
            · rename_i still
              refine ⟨ended, fun some_ => ?_⟩
              rcases still with nothing | zero
              · exact absurd (by rw [nothing, List.take_zero]) some_
              · exact Nat.add_le_add_left (least.trans zero.le) now
            · exact ⟨ended.trans (Nat.le_add_right _ _), fun _ => Nat.add_le_add_left least now⟩

def pausing : FragmentConfig := ⟨true, 2, 3, 5, 9⟩

/-- Two pieces, a poll that is too early between them, and the rest as a whole after a read. -/
def threePieces : List Call :=
  [.write 0 [1, 2, 3, 4, 5, 6] ⟨2, id⟩ ⟨7, id⟩ (.took 2),
    .write 3 [3, 4, 5, 6] ⟨3, id⟩ ⟨7, id⟩ (.took 3),
    .write 7 [3, 4, 5, 6] ⟨3, id⟩ ⟨7, id⟩ (.took 1), .read 8,
    .write 9 [4, 5, 6] ⟨2, id⟩ ⟨7, id⟩ (.took 3)]

end Runs

end MolidoVpn.Fragment
