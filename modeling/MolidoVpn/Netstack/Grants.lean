import MolidoVpn.Netstack.Passes

/-!
Ids and ports as they are handed out: what a step adds to the history when it
opens a socket, and which entries a step can add to the two maps.
-/

namespace MolidoVpn.Netstack

variable {net : Smoltcp}

/-- The record of an attempt to open a socket. -/
def Output.opening : Output → Bool
  | .listened _ _ => true
  | .connecting _ _ _ _ => true
  | .bound _ _ _ => true
  | .openFailed _ => true
  | _ => false

/-- The id that a record hands out. -/
def Output.opened : Output → Option Nat
  | .listened id _ => some id
  | .connecting id _ _ _ => some id
  | .bound id _ _ => some id
  | _ => none

/-- The ids handed out so far, in order. -/
def NetStack.openedIds (s : NetStack net) : List Nat := s.trace.filterMap Output.opened

/-- A step opens nothing, or it takes the next id, the next port, or both. -/
inductive Grants (s s' : NetStack net) : Prop where
  | idle (outputs : List Output) (routine : ∀ output ∈ outputs, output.opening = false)
      (trace : s'.trace = s.trace ++ outputs) (nextId : s'.nextId = s.nextId)
      (nextPort : s'.nextPort = s.nextPort) (opens : s'.opens = s.opens)
  | listened (endpoint : SocketAddr) (pkt : List UInt8) (accepting listening : Bool)
      (trace : s'.trace =
        s.trace ++ [.listened s.nextId endpoint, .ingested pkt accepting listening])
      (nextId : s'.nextId = s.nextId + 1) (nextPort : s'.nextPort = s.nextPort)
      (opens : s'.opens = s.opens)
  | connecting (remote : SocketAddr)
      (trace : s'.trace =
        s.trace ++ [.connecting s.nextId remote (allocPort s.nextPort).1 s.opens])
      (nextId : s'.nextId = s.nextId + 1) (nextPort : s'.nextPort = (allocPort s.nextPort).2)
      (opens : s'.opens = s.opens + 1)
  | bound
      (trace : s'.trace = s.trace ++ [.bound s.nextId (allocPort s.nextPort).1 s.opens])
      (nextId : s'.nextId = s.nextId + 1) (nextPort : s'.nextPort = (allocPort s.nextPort).2)
      (opens : s'.opens = s.opens + 1)
  | failed (trace : s'.trace = s.trace ++ [.openFailed s.opens])
      (nextId : s'.nextId = s.nextId) (nextPort : s'.nextPort = (allocPort s.nextPort).2)
      (opens : s'.opens = s.opens + 1)

private theorem routine_singleton {output : Output} (routine : output.opening = false) :
    ∀ other ∈ [output], other.opening = false := by
  intro other member
  rw [List.mem_singleton.mp member]
  exact routine

theorem Conn.head_routine {c : Conn net} {id : Nat} {owner : Report → Bool}
    {kept : Option (Conn net)} {outputs : List Output}
    (result : c.head id owner = (kept, outputs)) :
    ∀ output ∈ outputs, output.opening = false := by
  intro output member
  cases kept with
  | some c' =>
      rcases head_records result output member with rfl | rfl | rfl | ⟨_, rfl⟩ | rfl <;> rfl
  | none =>
      rw [head_of_failed (head_removed result), Prod.mk.injEq] at result
      obtain ⟨_, rfl⟩ := result
      simp only [List.mem_append, List.mem_singleton] at member
      rcases member with (rfl | refused) | rfl
      · rfl
      · split at refused
        · rw [List.mem_singleton.mp refused]
          rfl
        · cases refused
      · rfl

theorem Conn.finish_routine {c : Conn net} {id : Nat} {appGone : Bool}
    {kept : Option (Conn net)} {outputs : List Output}
    (result : c.finish id appGone = (kept, outputs)) :
    ∀ output ∈ outputs, output.opening = false := by
  intro output member
  rcases finish_records result output member with rfl | rfl <;> rfl

private theorem arrivals_routine {s : NetStack net} {input : NetStack.PollInput net} :
    ∀ output ∈ s.arrivals input, output.opening = false := by
  intro output member
  obtain ⟨entry, _, reported⟩ := List.mem_flatMap.mp member
  split at reported
  · rw [List.mem_singleton.mp reported]
    rfl
  · cases reported

theorem Shape.grants {s s' : NetStack net} {event : Event net} (shape : Shape s event s') :
    Grants s s' := by
  have quiet (t : NetStack net) (trace : t.trace = s.trace) (nextId : t.nextId = s.nextId)
      (nextPort : t.nextPort = s.nextPort) (opens : t.opens = s.opens) : Grants s t :=
    .idle [] (fun _ member => by cases member) (by rw [trace, List.append_nil]) nextId nextPort
      opens
  cases shape with
  | polled at_ order => exact .idle _ arrivals_routine rfl rfl rfl rfl
  | skipped at_ missing => exact quiet _ rfl rfl rfl rfl
  | headRemoved at_ found result => exact .idle _ (Conn.head_routine result) rfl rfl rfl rfl
  | headKept at_ found result => exact .idle _ (Conn.head_routine result) rfl rfl rfl rfl
  | delivered at_ found result => exact .idle _ (routine_singleton rfl) rfl rfl rfl rfl
  | stoppedReceiving at_ found result => exact quiet _ rfl rfl rfl rfl
  | finishRemoved at_ found result => exact .idle _ (Conn.finish_routine result) rfl rfl rfl rfl
  | finishKept at_ found result => exact .idle _ (Conn.finish_routine result) rfl rfl rfl rfl
  | listened at_ unused accepting syn parsed made =>
      exact .listened _ _ _ _ (List.append_assoc _ _ _) rfl rfl rfl
  | inbound at_ plain => exact .idle _ (routine_singleton rfl) rfl rfl rfl rfl
  | drained at_ room => exact .idle _ (routine_singleton rfl) rfl rfl rfl rfl
  | connecting at_ unused made => exact .connecting _ rfl rfl rfl rfl
  | openFailed at_ opening => exact .failed rfl rfl rfl rfl
  | bound at_ unused made => exact .bound rfl rfl rfl rfl
  | accepted arrives found at_ => exact .idle _ (routine_singleton rfl) rfl rfl rfl rfl
  | appClosed arrives found at_ => exact .idle _ (routine_singleton rfl) rfl rfl rfl rfl
  | appTook found handedOver took => exact quiet _ rfl rfl rfl rfl
  | appDropped found handedOver alive => exact .idle _ (routine_singleton rfl) rfl rfl rfl rfl
  | aside aside => exact quiet _ aside.trace aside.nextId aside.nextPort aside.opens
  | udpClosed found at_ => exact quiet _ rfl rfl rfl rfl

end MolidoVpn.Netstack
