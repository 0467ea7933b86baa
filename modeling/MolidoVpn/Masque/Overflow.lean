import MolidoVpn.Lib.Transition
import MolidoVpn.Masque.Chunking

/-!
Pushes that overflow the reassembly buffer. Everything buffered and the chunk
itself are dropped; the parser stays in step with the stream when the drop ends
where a capsule ends.
-/

namespace MolidoVpn.Masque

open Transition (Run Restrict ofNext)
open Varint (getBytes putVarint)

/-- A parser in use, with the bytes pushed so far and what `next` has yielded. -/
structure Session where
  parser : CapsuleParser
  pushed : List UInt8
  yielded : List (Except CapsuleError Capsule)

inductive ParserEvent where
  | push (data : List UInt8)
  | next

namespace Session

def start : Session := { parser := CapsuleParser.new, pushed := [], yielded := [] }

def step (s : Session) : ParserEvent → Option Session
  | .push data => some { s with parser := s.parser.push data, pushed := s.pushed ++ data }
  | .next =>
      match s.parser.next with
      | (.ok none, parser) => some { s with parser := parser }
      | (.ok (some capsule), parser) =>
          some { s with parser := parser, yielded := s.yielded ++ [.ok capsule] }
      | (.error error, parser) =>
          some { s with parser := parser, yielded := s.yielded ++ [.error error] }

/-- Everything yielded is what a capsule of the stream means. -/
def YieldsSent (capsules : List (Nat × List UInt8)) (s : Session) : Prop :=
  ∀ result ∈ s.yielded, ∃ capsule ∈ capsules, decodeCapsule capsule.1 capsule.2 = result

/-- A push that overflows ends where a capsule of the stream ends. -/
def DropsWhole (wire : List (List UInt8)) (s : Session) : ParserEvent → Prop
  | .push data =>
      s.parser.buf.length + data.length ≤ maxCapsuleBuf ∨
        ∃ count ≤ wire.length, s.pushed ++ data = (wire.take count).flatten
  | .next => True

/-- The buffer holds what follows some whole capsules of the stream. -/
def InStep (wire : List (List UInt8)) (s : Session) : Prop :=
  ∃ count, s.pushed = (wire.take count).flatten ++ s.parser.buf

theorem step_pushed {s s' : Session} {event : ParserEvent} (taken : s.step event = some s') :
    s.pushed <+: s'.pushed := by
  cases event with
  | push data =>
      cases taken
      exact List.prefix_append _ _
  | next =>
      simp only [step] at taken
      split at taken <;> cases taken <;> exact List.prefix_rfl

private theorem wire_next {capsules : List (Nat × List UInt8)} {wire : List (List UInt8)}
    (encoded : encodeCapsules capsules = some wire) {count : Nat} {buf future : List UInt8}
    {frame : Nat × List UInt8} {rest : List UInt8}
    (remaining : buf ++ future = (wire.drop count).flatten)
    (taken : nextFrame buf = some (frame, rest)) :
    frame ∈ capsules ∧
      (wire.take (count + 1)).flatten ++ rest = (wire.take count).flatten ++ buf := by
  have whole := nextFrame_stable buf frame rest future taken
  rw [remaining] at whole
  induction capsules generalizing wire count with
  | nil =>
      have empty : wire = [] := (Option.some.inj encoded).symm
      rw [empty, List.drop_nil] at whole
      cases whole
  | cons capsule capsules ih =>
      obtain ⟨bytes, later, first, others, rfl⟩ := encodeCapsules_cons encoded
      cases count with
      | zero =>
          rw [List.drop_zero, List.flatten_cons, nextFrame_encodeCapsule first,
            Option.some.injEq, Prod.mk.injEq] at whole
          obtain ⟨rfl, after⟩ := whole
          refine ⟨List.mem_cons_self, ?_⟩
          have split : buf ++ future = (bytes ++ rest) ++ future := by
            rw [remaining, List.append_assoc, ← after]
            rfl
          have same := List.append_cancel_right split
          rw [same]
          simp only [List.take_succ_cons, List.take_zero, List.flatten_cons, List.flatten_nil,
            List.append_nil, List.nil_append]
      | succ count =>
          rw [List.drop_succ_cons] at whole remaining
          obtain ⟨member, before⟩ := ih others remaining whole
          refine ⟨List.mem_cons_of_mem _ member, ?_⟩
          simp only [List.take_succ_cons, List.flatten_cons, List.append_assoc] at before ⊢
          rw [before]

theorem step_inStep {capsules : List (Nat × List UInt8)} {wire : List (List UInt8)}
    (encoded : encodeCapsules capsules = some wire) {s s' : Session} {event : ParserEvent}
    (taken : s.step event = some s') (whole : s.DropsWhole wire event)
    (sent : s'.pushed <+: wire.flatten) (before : s.InStep wire ∧ s.YieldsSent capsules) :
    s'.InStep wire ∧ s'.YieldsSent capsules := by
  obtain ⟨⟨count, inStep⟩, yields⟩ := before
  cases event with
  | push data =>
      cases taken
      refine ⟨?_, yields⟩
      by_cases room : s.parser.buf.length + data.length ≤ maxCapsuleBuf
      · refine ⟨count, ?_⟩
        simp only [CapsuleParser.push_of_room room]
        rw [inStep, List.append_assoc]
      · obtain ⟨last, _, ends⟩ := whole.resolve_left room
        refine ⟨last, ?_⟩
        simp only [CapsuleParser.push, if_pos (Nat.lt_of_not_le room), List.append_nil]
        exact ends
  | next =>
      have yielded {result : Except CapsuleError Capsule} {frame : Nat × List UInt8}
          (member : frame ∈ capsules) (decoded : decodeCapsule frame.1 frame.2 = result) :
          YieldsSent capsules
            { s with parser := s.parser, yielded := s.yielded ++ [result] } := by
        intro other there
        rcases List.mem_append.mp there with old | new
        · exact yields other old
        · rw [List.mem_singleton.mp new]
          exact ⟨frame, member, decoded⟩
      simp only [step, CapsuleParser.next] at taken
      cases frame : nextFrame s.parser.buf with
      | none =>
          simp only [frame] at taken
          cases taken
          exact ⟨⟨count, inStep⟩, yields⟩
      | some front =>
          obtain ⟨frame', rest⟩ := front
          have pushed : s'.pushed = s.pushed := by
            simp only [frame] at taken
            split at taken <;> cases taken <;> rfl
          obtain ⟨future, ahead⟩ := sent
          have remaining : s.parser.buf ++ future = (wire.drop count).flatten := by
            have parts : (wire.take count).flatten ++ (s.parser.buf ++ future) =
                (wire.take count).flatten ++ (wire.drop count).flatten := by
              rw [← List.append_assoc, ← inStep, ← pushed, ahead, ← List.flatten_append,
                List.take_append_drop]
            exact List.append_cancel_left parts
          obtain ⟨member, moved⟩ := wire_next encoded remaining frame
          have next : s.pushed = (wire.take (count + 1)).flatten ++ rest := by
            rw [inStep, moved]
          simp only [frame] at taken
          cases decoded : decodeCapsule frame'.1 frame'.2 with
          | ok capsule =>
              simp only [decoded, Except.map] at taken
              cases taken
              exact ⟨⟨count + 1, next⟩, yielded member decoded⟩
          | error error =>
              simp only [decoded, Except.map] at taken
              cases taken
              exact ⟨⟨count + 1, next⟩, yielded member decoded⟩

end Session

/-- As long as every drop ends where a capsule ends, the parser yields only what was sent. -/
theorem yields_sent {capsules : List (Nat × List UInt8)} {wire : List (List UInt8)}
    (encoded : encodeCapsules capsules = some wire) {events : List ParserEvent} {s : Session}
    (run : Run (Restrict (ofNext Session.step) (Session.DropsWhole wire)) Session.start events s)
    (sent : s.pushed <+: wire.flatten) : s.YieldsSent capsules := by
  have kept : s.pushed <+: wire.flatten → s.InStep wire ∧ s.YieldsSent capsules :=
    run.invariant (fun s => s.pushed <+: wire.flatten → s.InStep wire ∧ s.YieldsSent capsules)
      (fun _ _ _ taken before sent =>
        Session.step_inStep encoded taken.1 taken.2 sent
          (before ((Session.step_pushed taken.1).trans sent)))
      (fun _ => ⟨⟨0, rfl⟩, fun _ none_ => by cases none_⟩)
  exact (kept sent).2

/-- A capsule of one byte, pushed into an empty buffer and taken off it. -/
private theorem short_capsule (pushed : List UInt8) (yielded : List (Except CapsuleError Capsule))
    (byte : UInt8) :
    Session.step { parser := CapsuleParser.new, pushed := pushed, yielded := yielded }
        (.push [0, 1, byte]) =
      some { parser := { buf := [0, 1, byte] }, pushed := pushed ++ [0, 1, byte],
             yielded := yielded } ∧
    Session.step { parser := { buf := [0, 1, byte] }, pushed := pushed, yielded := yielded } .next =
      some { parser := CapsuleParser.new, pushed := pushed,
             yielded := yielded ++ [.ok (.datagram [byte])] } :=
  ⟨rfl, rfl⟩

/-- A DATAGRAM of 300000 bytes is pushed at once and dropped; the next one is yielded. -/
theorem yields_sent_after_drop :
    ∃ events s, Run (Restrict (ofNext Session.step)
        (Session.DropsWhole [putVarint 0 ++ putVarint 300000 ++ List.replicate 300000 0, [0, 1, 9]]))
        Session.start events s ∧ s.yielded = [.ok (.datagram [9])] ∧
      s.YieldsSent [(0, List.replicate 300000 0), (0, [9])] := by
  have long : encodeCapsule 0 (List.replicate 300000 0) =
      some (putVarint 0 ++ putVarint 300000 ++ List.replicate 300000 0) := by
    have fits : 0 < 2 ^ 62 ∧ (List.replicate 300000 (0 : UInt8)).length < 2 ^ 62 := by
      rw [List.length_replicate]
      decide
    rw [encodeCapsule, if_pos fits, List.length_replicate]
  have encoded : encodeCapsules [(0, List.replicate 300000 0), (0, [9])] =
      some [putVarint 0 ++ putVarint 300000 ++ List.replicate 300000 0, [0, 1, 9]] := by
    simp only [encodeCapsules, List.mapM_cons, List.mapM_nil, long]
    rfl
  have overflows : Session.start.parser.buf.length +
      (putVarint 0 ++ putVarint 300000 ++ List.replicate 300000 (0 : UInt8)).length >
        maxCapsuleBuf := by
    rw [List.length_append, List.length_replicate]
    exact Nat.lt_of_lt_of_le (by decide : maxCapsuleBuf < 300000)
      ((Nat.le_add_left _ _).trans (Nat.le_add_left _ _))
  have dropped : Session.start.step
      (.push (putVarint 0 ++ putVarint 300000 ++ List.replicate 300000 0)) =
      some { Session.start with
        pushed := putVarint 0 ++ putVarint 300000 ++ List.replicate 300000 0 } := by
    rw [Session.step, CapsuleParser.push, if_pos overflows]
    rfl
  have first : Run (Restrict (ofNext Session.step)
      (Session.DropsWhole
        [putVarint 0 ++ putVarint 300000 ++ List.replicate 300000 0, [0, 1, 9]]))
      Session.start _ _ := Run.single ⟨dropped, Or.inr ⟨1, by decide, (List.append_nil _).symm⟩⟩
  have pushed := (short_capsule (putVarint 0 ++ putVarint 300000 ++ List.replicate 300000 0) [] 9).1
  have taken := (short_capsule
    (putVarint 0 ++ putVarint 300000 ++ List.replicate 300000 0 ++ [0, 1, 9]) [] 9).2
  have run := (first.snoc ⟨pushed, Or.inl (by decide)⟩).snoc ⟨taken, trivial⟩
  refine ⟨_, _, run, rfl, ?_⟩
  apply yields_sent encoded run
  exact List.prefix_rfl

section LongCapsule

/-- The payload of a DATAGRAM of 400000 bytes; what stands at offset 327670 reads like a capsule. -/
def longPayload : List UInt8 :=
  List.replicate 327670 0 ++ ([0, 1, 69] ++ List.replicate 72327 0)

private theorem longPayload_length : longPayload.length = 400000 := by
  have three : ([0, 1, 69] : List UInt8).length = 3 := rfl
  rw [longPayload, List.length_append, List.length_append, List.length_replicate, three,
    List.length_replicate]

private theorem long_encoded :
    encodeCapsules [(0, longPayload)] =
      some [putVarint 0 ++ putVarint 400000 ++ longPayload] := by
  have fits : 0 < 2 ^ 62 ∧ longPayload.length < 2 ^ 62 := by
    rw [longPayload_length]
    decide
  have one : encodeCapsule 0 longPayload =
      some (putVarint 0 ++ putVarint 400000 ++ longPayload) := by
    rw [encodeCapsule, if_pos fits, longPayload_length]
  simp only [encodeCapsules, List.mapM_cons, List.mapM_nil, one]
  rfl

/-- The header and `zeros` bytes of the payload are buffered. -/
def longWaiting (zeros : Nat) : Session :=
  { parser := { buf := putVarint 0 ++ putVarint 400000 ++ List.replicate zeros 0 }
    pushed := putVarint 0 ++ putVarint 400000 ++ List.replicate zeros 0
    yielded := [] }

private theorem longWaiting_length (zeros : Nat) :
    (longWaiting zeros).parser.buf.length = 5 + zeros := by
  rw [longWaiting, List.length_append, List.length_replicate]
  rfl

private theorem longWaiting_next {zeros : Nat} (short : zeros < 400000) :
    (longWaiting zeros).step .next = some (longWaiting zeros) := by
  have incomplete : nextFrame (longWaiting zeros).parser.buf = none := by
    rw [longWaiting, nextFrame_header (by decide) (by decide), getBytes,
      if_pos (by rw [List.length_replicate]; exact short), Option.map_none]
  simp only [Session.step, CapsuleParser.next, incomplete]

private theorem longWaiting_push {zeros : Nat} (room : 5 + zeros + 65535 ≤ maxCapsuleBuf) :
    (longWaiting zeros).step (.push (List.replicate 65535 0)) =
      some (longWaiting (zeros + 65535)) := by
  have fits : (longWaiting zeros).parser.buf.length +
      (List.replicate 65535 (0 : UInt8)).length ≤ maxCapsuleBuf := by
    rw [longWaiting_length, List.length_replicate]
    exact room
  rw [Session.step, CapsuleParser.push_of_room fits]
  simp only [longWaiting, List.append_assoc, List.replicate_append_replicate]

/-- Four reads of 65535 bytes, each followed by `next`, with the fifth still to come. -/
private theorem longWaiting_reached :
    ∃ events, Run (ofNext Session.step) Session.start events (longWaiting 262135) := by
  have first : Session.start.step
      (.push (putVarint 0 ++ putVarint 400000 ++ List.replicate 65530 0)) =
      some (longWaiting 65530) := by
    have length : (putVarint 0 ++ putVarint 400000 ++ List.replicate 65530 (0 : UInt8)).length =
        65535 := longWaiting_length 65530
    have fits : Session.start.parser.buf.length +
        (putVarint 0 ++ putVarint 400000 ++ List.replicate 65530 (0 : UInt8)).length ≤
          maxCapsuleBuf := by
      rw [length]
      decide
    rw [Session.step, CapsuleParser.push_of_room fits]
    rfl
  have read (zeros : Nat) (room : 5 + zeros + 65535 ≤ maxCapsuleBuf) :
      Run (ofNext Session.step) (longWaiting zeros) [.push (List.replicate 65535 0), .next]
        (longWaiting (zeros + 65535)) := by
    have short : 5 + zeros + 65535 ≤ 262144 := room
    exact (Run.single (longWaiting_push room)).snoc (longWaiting_next (by omega))
  have read_first : Run (ofNext Session.step) Session.start _ (longWaiting 65530) :=
    Run.single first
  have start := read_first.snoc (longWaiting_next (by decide))
  exact ⟨_, ((start.trans (read 65530 (by decide))).trans (read 131065 (by decide))).trans
    (read 196600 (by decide))⟩

/-- The fifth read overflows the buffer, and the sixth is parsed from the middle of the payload. -/
theorem overflow_yields_payload :
    ¬∀ capsules wire events s, encodeCapsules capsules = some wire →
      Run (ofNext Session.step) Session.start events s → s.pushed <+: wire.flatten →
      s.YieldsSent capsules := by
  intro claim
  obtain ⟨events, run⟩ := longWaiting_reached
  have overflows : (longWaiting 262135).parser.buf.length +
      (List.replicate 65535 (0 : UInt8)).length > maxCapsuleBuf := by
    rw [longWaiting_length, List.length_replicate]
    decide
  have zeros : (longWaiting 262135).pushed ++ List.replicate 65535 0 =
      (longWaiting 327670).pushed := by
    simp only [longWaiting, List.append_assoc, List.replicate_append_replicate]
  have dropped : (longWaiting 262135).step (.push (List.replicate 65535 0)) =
      some { longWaiting 327670 with parser := CapsuleParser.new } := by
    rw [Session.step, CapsuleParser.push, if_pos overflows, zeros]
    rfl
  have last := ((run.snoc dropped).snoc (short_capsule _ _ 69).1).snoc (short_capsule _ _ 69).2
  have sent := claim [(0, longPayload)] _ _ _ long_encoded last
    ⟨List.replicate 72327 0, by
      simp only [longWaiting, longPayload, List.append_assoc, List.flatten_cons, List.flatten_nil,
        List.append_nil]⟩
  obtain ⟨capsule, member, decoded⟩ := sent (.ok (.datagram [69])) List.mem_cons_self
  rw [List.mem_singleton.mp member] at decoded
  have same : longPayload = [69] := Capsule.datagram.inj (Except.ok.inj decoded)
  have length := congrArg List.length same
  rw [longPayload_length] at length
  cases length

end LongCapsule

end MolidoVpn.Masque
