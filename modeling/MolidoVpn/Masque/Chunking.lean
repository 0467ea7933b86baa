import MolidoVpn.Masque.Capsule

/-!
What a parser yields when it is drained after every chunk: the capsules of the
stream, however the stream is cut, as long as no push overflows the buffer.
-/

namespace MolidoVpn.Masque

open Varint (getU8 getBytes getVarint putVarint)

namespace CapsuleParser

/-- `next` until it gives `Ok(None)`; a bad payload does not end this. -/
def drainNextFor : Nat → CapsuleParser → List (Except CapsuleError Capsule) × CapsuleParser
  | 0, parser => ([], parser)
  | turns + 1, parser =>
      match parser.next with
      | (.ok none, parser) => ([], parser)
      | (.ok (some capsule), parser) =>
          (.ok capsule :: (drainNextFor turns parser).1, (drainNextFor turns parser).2)
      | (.error error, parser) =>
          (.error error :: (drainNextFor turns parser).1, (drainNextFor turns parser).2)

/-- Every turn takes a byte from the buffer. -/
def drainNext (parser : CapsuleParser) : List (Except CapsuleError Capsule) × CapsuleParser :=
  drainNextFor parser.buf.length parser

/-- A chunk is pushed and the parser drained. -/
def feed (parser : CapsuleParser) (chunk : List UInt8) :
    List (Except CapsuleError Capsule) × CapsuleParser :=
  (parser.push chunk).drainNext

def feedAll (parser : CapsuleParser) :
    List (List UInt8) → List (Except CapsuleError Capsule) × CapsuleParser
  | [] => ([], parser)
  | chunk :: chunks =>
      ((parser.feed chunk).1 ++ (feedAll (parser.feed chunk).2 chunks).1,
        (feedAll (parser.feed chunk).2 chunks).2)

/-- No push overflows the buffer. -/
def Fits (parser : CapsuleParser) : List (List UInt8) → Prop
  | [] => True
  | chunk :: chunks =>
      parser.buf.length + chunk.length ≤ maxCapsuleBuf ∧ (parser.feed chunk).2.Fits chunks

instance : (parser : CapsuleParser) → (chunks : List (List UInt8)) → Decidable (parser.Fits chunks)
  | _, [] => isTrue trivial
  | parser, chunk :: chunks =>
      have := instDecidableFits (parser.feed chunk).2 chunks
      inferInstanceAs (Decidable (_ ∧ _))

theorem next_eq (parser : CapsuleParser) :
    parser.next =
      match frames.next parser.buf with
      | none => (.ok none, parser)
      | some (frame, rest) => ((decodeCapsule frame.1 frame.2).map some, { buf := rest }) := by
  change parser.next = match nextFrame parser.buf with
    | none => _
    | some (frame, rest) => _
  unfold next
  cases nextFrame parser.buf <;> rfl

private theorem drainNextFor_eq (turns : Nat) (parser : CapsuleParser) :
    drainNextFor turns parser =
      ((frames.drainFor turns parser.buf).1.map fun frame => decodeCapsule frame.1 frame.2,
        { buf := (frames.drainFor turns parser.buf).2 }) := by
  induction turns generalizing parser with
  | zero => rfl
  | succ turns ih =>
      rw [drainNextFor, next_eq, Framing.Splitter.drainFor]
      cases frames.next parser.buf with
      | none => rfl
      | some taken =>
          obtain ⟨frame, rest⟩ := taken
          simp only
          cases decoded : decodeCapsule frame.1 frame.2 with
          | ok capsule =>
              simp only [Except.map, ih, List.map_cons, decoded]
          | error error =>
              simp only [Except.map, ih, List.map_cons, decoded]

theorem drainNext_eq (parser : CapsuleParser) :
    parser.drainNext =
      ((frames.drain parser.buf).1.map fun frame => decodeCapsule frame.1 frame.2,
        { buf := (frames.drain parser.buf).2 }) := drainNextFor_eq _ _

theorem push_of_room {parser : CapsuleParser} {data : List UInt8}
    (room : parser.buf.length + data.length ≤ maxCapsuleBuf) :
    parser.push data = { buf := parser.buf ++ data } := by
  rw [push, if_neg (Nat.not_lt.mpr room)]

/-- As long as everything fits, what was yielded and what is left depend on the bytes alone. -/
theorem feedAll_eq {parser : CapsuleParser} {chunks : List (List UInt8)}
    (drained : frames.next parser.buf = none) (fits : parser.Fits chunks) :
    parser.feedAll chunks = drainNext { buf := parser.buf ++ chunks.flatten } := by
  induction chunks generalizing parser with
  | nil =>
      rw [List.flatten_nil, List.append_nil, drainNext_eq, Framing.Splitter.drain_of_none drained]
      rfl
  | cons chunk chunks ih =>
      obtain ⟨room, later⟩ := fits
      have fed : parser.feed chunk = drainNext { buf := parser.buf ++ chunk } := by
        rw [feed, push_of_room room]
      rw [feedAll, fed]
      rw [fed] at later
      have residue : frames.next (drainNext { buf := parser.buf ++ chunk }).2.buf = none := by
        rw [drainNext_eq]
        exact Framing.Splitter.next_residue _
      rw [ih residue later, List.flatten_cons, ← List.append_assoc, drainNext_eq, drainNext_eq,
        drainNext_eq]
      have joined := @Framing.Splitter.drain_append _ _ frames (parser.buf ++ chunk) chunks.flatten
      simp only [joined, List.map_append]

end CapsuleParser

/-- The capsules on the wire, one piece each. -/
def encodeCapsules (capsules : List (Nat × List UInt8)) : Option (List (List UInt8)) :=
  capsules.mapM fun capsule => encodeCapsule capsule.1 capsule.2

theorem encodeCapsules_cons {capsule : Nat × List UInt8} {capsules : List (Nat × List UInt8)}
    {wire : List (List UInt8)} (encoded : encodeCapsules (capsule :: capsules) = some wire) :
    ∃ bytes rest, encodeCapsule capsule.1 capsule.2 = some bytes ∧
      encodeCapsules capsules = some rest ∧ wire = bytes :: rest := by
  simp only [encodeCapsules, List.mapM_cons, Option.bind_eq_bind, Option.bind_eq_some_iff,
    Option.pure_def, Option.some.injEq] at encoded
  obtain ⟨bytes, first, rest, later, same⟩ := encoded
  exact ⟨bytes, rest, first, later, same.symm⟩

theorem drain_wire {capsules : List (Nat × List UInt8)} {wire : List (List UInt8)}
    (encoded : encodeCapsules capsules = some wire) :
    frames.drain wire.flatten = (capsules, []) := by
  induction capsules generalizing wire with
  | nil =>
      cases encoded
      exact Framing.Splitter.drain_of_none Framing.Splitter.next_nil
  | cons capsule rest ih =>
      obtain ⟨bytes, later, first, remaining, rfl⟩ := encodeCapsules_cons encoded
      have taken : frames.next (bytes ++ later.flatten) = some (capsule, later.flatten) :=
        nextFrame_encodeCapsule first later.flatten
      rw [List.flatten_cons, Framing.Splitter.drain_of_some taken, ih remaining]

/-- However the stream is cut, each capsule gives the meaning of its payload, in order, and nothing
is left; the entries of an ADDRESS_ASSIGN or a ROUTE_ADVERTISEMENT are those it was built from. -/
theorem capsules_rechunked (capsules : List (Nat × List UInt8)) (wire chunks : List (List UInt8))
    (encoded : encodeCapsules capsules = some wire) (cut : chunks.flatten = wire.flatten)
    (fits : CapsuleParser.new.Fits chunks) :
    CapsuleParser.new.feedAll chunks =
        (capsules.map fun capsule => decodeCapsule capsule.1 capsule.2, CapsuleParser.new) ∧
      (∀ payload, decodeCapsule capsuleDatagram payload = .ok (.datagram payload)) ∧
      (∀ payload, decodeCapsule capsuleAddressRequest payload = .ok .addressRequest) ∧
      (∀ kind payload, capsuleRouteAdvertisement < kind →
        decodeCapsule kind payload = .ok (.unknown kind payload)) ∧
      (∀ entries, (∀ entry ∈ entries,
          entry.requestId < 2 ^ 62 ∧ AddressFits entry.ipVersion entry.address) →
        decodeCapsule capsuleAddressAssign (entries.flatMap encodeAssignedAddress) =
          .ok (.addressAssign entries)) ∧
      ∀ routes, (∀ route ∈ routes,
          AddressFits route.ipVersion route.start ∧ AddressFits route.ipVersion route.stop) →
        decodeCapsule capsuleRouteAdvertisement (routes.flatMap encodeRoute) =
          .ok (.routeAdvertisement routes) := by
  refine ⟨?_, fun _ => rfl, fun _ => rfl, ?_, fun _ => decodeCapsule_addressAssign,
    fun _ => decodeCapsule_routeAdvertisement⟩
  · have start : frames.next CapsuleParser.new.buf = none := Framing.Splitter.next_nil
    have whole : CapsuleParser.new.buf ++ chunks.flatten = wire.flatten := cut
    rw [CapsuleParser.feedAll_eq start fits, CapsuleParser.drainNext_eq, whole,
      drain_wire encoded]
    rfl
  · intro kind payload other
    have above : 3 < kind := other
    rw [decodeCapsule, if_neg (by simp only [capsuleAddressAssign]; omega),
      if_neg (by simp only [capsuleAddressRequest]; omega),
      if_neg (by simp only [capsuleRouteAdvertisement]; omega),
      if_neg (by simp only [capsuleDatagram]; omega)]

/-- A DATAGRAM and an unknown capsule, cut inside the header of the second. -/
theorem capsules_rechunked_two :
    CapsuleParser.new.feedAll [[0, 2, 69], [0, 64, 100], [1, 7]] =
      ([.ok (.datagram [69, 0]), .ok (.unknown 100 [7])], CapsuleParser.new) :=
  (capsules_rechunked [(0, [69, 0]), (100, [7])] [[0, 2, 69, 0], [64, 100, 1, 7]]
    [[0, 2, 69], [0, 64, 100], [1, 7]] rfl rfl (by decide)).1

/-- An ADDRESS_ASSIGN whose entry has version 5 yields no capsule. -/
theorem bad_payload_yields_no_capsule :
    ¬∀ (capsules : List (Nat × List UInt8)) (wire chunks : List (List UInt8)),
      (∀ capsule ∈ capsules, capsule.1 < 2 ^ 62) → encodeCapsules capsules = some wire →
      chunks.flatten = wire.flatten → CapsuleParser.new.Fits chunks →
      ∃ same : Nat × List UInt8 → Capsule,
        (CapsuleParser.new.feedAll chunks).1.filterMap Except.toOption = capsules.map same := by
  intro claim
  obtain ⟨same, yielded⟩ :=
    claim [(1, [0, 5])] [[1, 2, 0, 5]] [[1, 2, 0, 5]] (by decide) rfl rfl (by decide)
  have none_ : (CapsuleParser.new.feedAll [[1, 2, 0, 5]]).1.filterMap Except.toOption = [] := by
    decide
  rw [none_] at yielded
  cases yielded

end MolidoVpn.Masque
