import Mathlib.Data.List.Basic

/-!
A bounded multi-producer channel, as seen by one non-blocking sender and one
receiver. The queue never exceeds the capacity, by construction.
-/

namespace MolidoVpn

universe u

/-- The messages sent and not yet received, oldest first. -/
structure Channel (Message : Type u) where
  capacity : Nat
  queue : List Message
  receiverAlive : Bool
  fits : queue.length ≤ capacity

namespace Channel

variable {Message : Type u}

def empty (Message : Type u) (capacity : Nat) : Channel Message :=
  { capacity := capacity
    queue := []
    receiverAlive := true
    fits := Nat.zero_le capacity }

/-- Whether a non-blocking send or reservation would succeed now. -/
def hasRoom (channel : Channel Message) : Bool :=
  channel.receiverAlive && decide (channel.queue.length < channel.capacity)

/-- Sending on a reserved place. -/
def push (channel : Channel Message) (message : Message) (room : channel.hasRoom = true) :
    Channel Message :=
  { channel with
    queue := channel.queue ++ [message]
    fits := by
      simp only [hasRoom, Bool.and_eq_true, decide_eq_true_eq] at room
      simp only [List.length_append, List.length_cons, List.length_nil]
      omega }

/-- `try_send`: refuses when the channel is full or its receiver is gone. -/
def trySend (channel : Channel Message) (message : Message) : Option (Channel Message) :=
  if room : channel.hasRoom = true then some (channel.push message room) else none

/-- `recv` on a channel that holds a message. -/
def receive (channel : Channel Message) : Option (Message × Channel Message) :=
  match held : channel.queue with
  | [] => none
  | message :: rest =>
      some (message,
        { channel with
          queue := rest
          fits := by
            have fits := channel.fits
            rw [held, List.length_cons] at fits
            omega })

/-- Dropping the receiver: every later send is refused. -/
def dropReceiver (channel : Channel Message) : Channel Message :=
  { channel with receiverAlive := false }

theorem trySend_isSome_iff (channel : Channel Message) (message : Message) :
    (channel.trySend message).isSome = true ↔ channel.hasRoom = true := by
  unfold trySend
  split
  · rename_i room
    constructor
    · intro _
      exact room
    · intro _
      rfl
  · rename_i full
    constructor
    · intro impossible
      cases impossible
    · intro room
      exact absurd room full

theorem trySend_eq_none_iff (channel : Channel Message) (message : Message) :
    channel.trySend message = none ↔ channel.hasRoom = false := by
  rw [← Option.not_isSome_iff_eq_none, trySend_isSome_iff, Bool.not_eq_true]

@[simp]
theorem empty_queue (capacity : Nat) : (empty Message capacity).queue = [] := rfl

end Channel

end MolidoVpn
