import MolidoVpn.Lib.Delimited
import MolidoVpn.Socks.HttpClient

/-!
The two readers of a head: `read_head` for the clients, and the loop of `open_through_gateway` for
the answer of the gateway. Both split what comes at the first blank line.
-/

namespace MolidoVpn.Socks

open Delimited (Closes Collected collect endOf)
open Text (splitAround words trim parseU16 firstLine)
open Utf8 (fromUtf8Lossy)

/-- A reader hands on a head, what has come with it and the chunks not read yet. The head ends at
the first blank line and with what came is all that was read; wherever the chunks end, it is the
same head as long as it fits, and what is left is the rest of the stream. -/
structure SplitsAtHead (limit : Nat) (Chunk : List UInt8 → Prop)
    (split : List (List UInt8) → Option (List UInt8 × List UInt8 × List (List UInt8))) : Prop where
  exact : ∀ chunks head left later, split chunks = some (head, left, later) →
    ∃ used, chunks = used ++ later ∧ head ++ left = used.flatten ∧ Closes headMark head
  alike : ∀ head rest chunks, Closes headMark head → head.length ≤ limit →
    (∀ chunk ∈ chunks, Chunk chunk) → chunks.flatten = head ++ rest →
    ∃ left later, split chunks = some (head, left, later) ∧ left ++ later.flatten = rest

/-- What was collected, as a head and what is left. -/
def collectedHead : Collected UInt8 → Option (List UInt8 × List UInt8 × List (List UInt8))
  | .whole head left later => some (head, left, later)
  | .tooLong => none
  | .incomplete => none

theorem headMark_ne_nil : headMark ≠ [] := List.cons_ne_nil _ _

section Collecting

variable {limit : Nat} {head left : List UInt8} {chunks later : List (List UInt8)}

theorem findHeadEnd_eq (bytes : List UInt8) : findHeadEnd bytes = endOf headMark bytes := rfl

theorem collectedHead_some {collected : Collected UInt8}
    (split : collectedHead collected = some (head, left, later)) :
    collected = .whole head left later := by
  cases collected with
  | whole head left later =>
      cases split
      rfl
  | tooLong => cases split
  | incomplete => cases split

theorem splitsAtHead_collect (limit : Nat) :
    SplitsAtHead limit (fun _ => True) fun chunks =>
      collectedHead (collect headMark limit [] chunks) where
  exact chunks head left later split :=
    Delimited.collect_whole headMark_ne_nil (collectedHead_some split)
  alike head rest chunks closes fits _ stream := by
    obtain ⟨left, later, collected⟩ :=
      Delimited.collect_of_closes [] headMark_ne_nil closes fits rfl stream
    refine ⟨left, later, by rw [collected]; rfl, ?_⟩
    obtain ⟨used, parts, whole, _⟩ := Delimited.collect_whole headMark_ne_nil collected
    rw [parts, List.flatten_append, ← List.nil_append used.flatten, ← whole,
      List.append_assoc] at stream
    exact List.append_cancel_left stream

end Collecting

section Client

/-- The result of `read_head`, without the error. -/
def clientHead (reads : List (List UInt8)) :
    Option (List UInt8 × List UInt8 × List (List UInt8)) := (readHead reads).toOption

/-- Reads that bring something are collected as they are. -/
theorem readHeadFrom_eq {head : List UInt8} {reads : List (List UInt8)}
    (missing : findHeadEnd head = none) (nonempty : ∀ chunk ∈ reads, chunk ≠ []) :
    (readHeadFrom head head.length reads).toOption =
      collectedHead (collect headMark httpHeadLimit head reads) := by
  induction reads generalizing head with
  | nil => rfl
  | cons chunk reads ih =>
      rw [readHeadFrom_cons missing (nonempty chunk List.mem_cons_self), collect,
        ← findHeadEnd_eq]
      cases found : findHeadEnd (head ++ chunk) with
      | some mark => rfl
      | none =>
          simp only
          split
          · rfl
          · exact ih found fun later member => nonempty later (List.mem_cons_of_mem chunk member)

theorem splitsAtHead_client : SplitsAtHead httpHeadLimit (· ≠ []) clientHead where
  exact reads head left later split := by
    cases read : readHead reads with
    | error failure =>
        rw [clientHead, read] at split
        cases split
    | ok result =>
        rw [clientHead, read] at split
        cases split
        obtain ⟨used, parts, whole, ends⟩ := @readHeadFrom_ok [] _ _ _ _ rfl read
        rw [List.nil_append] at whole ends
        refine ⟨used, parts, whole, ?_⟩
        obtain ⟨front, rest, same, length, closes⟩ :=
          Delimited.closes_of_endOf headMark_ne_nil ends
        rw [← whole] at same
        rw [(List.append_inj same length.symm).1]
        exact closes
  alike head rest reads closes fits nonempty stream := by
    have law := (splitsAtHead_collect httpHeadLimit).alike head rest reads closes fits
      (fun _ _ => trivial) stream
    rw [← readHeadFrom_eq rfl nonempty] at law
    exact law

end Client

section Answer

variable {head left : List UInt8}

/-- What the loop of `open_through_gateway` has when it looks at the answer. -/
def gatewayHead (chunks : List (List UInt8)) :
    Option (List UInt8 × List UInt8 × List (List UInt8)) :=
  collectedHead (collect headMark gatewayHeadLimit [] chunks)

/-- A head says whether the gateway accepts; what came with it has no part in that. -/
def judged (head left : List UInt8) (later : List (List UInt8)) :
    Except GatewayError (List UInt8 × List (List UInt8)) :=
  match proxyConnectSucceeded head with
  | none => .error .malformed
  | some false => .error (.refused (trim (firstLine (fromUtf8Lossy head))))
  | some true => .ok (left, later)

theorem fromUtf8Lossy_headMark (front more : List UInt8) :
    fromUtf8Lossy (front ++ headMark ++ more) =
      (fromUtf8Lossy front ++ crlf) ++ '\r' :: '\n' :: fromUtf8Lossy more := by
  have return_ : (13 : UInt8).toNat < 128 := by decide
  have feed : (10 : UInt8).toNat < 128 := by decide
  have first := Utf8.fromUtf8Lossy_append_ascii front (10 :: 13 :: 10 :: more) return_
  have second := Utf8.fromUtf8Lossy_append_ascii [] (13 :: 10 :: more) feed
  have third := Utf8.fromUtf8Lossy_append_ascii [] (10 :: more) return_
  have fourth := Utf8.fromUtf8Lossy_append_ascii [] more feed
  rw [List.nil_append] at second third fourth
  rw [second, third, fourth] at first
  rw [List.append_assoc, List.append_assoc]
  exact first

theorem proxyConnectSucceeded_append (closes : Closes headMark head) (left : List UInt8) :
    proxyConnectSucceeded (head ++ left) = proxyConnectSucceeded head := by
  obtain ⟨front, rfl⟩ := closes.1
  obtain ⟨⟨line, rest⟩, split⟩ := Option.isSome_iff_exists.mp (Text.splitAround_isSome_iff.mpr
    (List.suffix_append (fromUtf8Lossy front) crlf).isInfix)
  have longer (more : List UInt8) := Text.splitAround_append_right split
    ('\r' :: '\n' :: fromUtf8Lossy more)
  have bare := fromUtf8Lossy_headMark front []
  rw [List.append_nil] at bare
  unfold proxyConnectSucceeded
  rw [fromUtf8Lossy_headMark front left, longer left, bare, longer []]

/-- The loop of `open_through_gateway` judges the head that it collects. -/
theorem awaitAnswer_eq (ending : GatewayEnding) (head : List UInt8) (chunks : List (List UInt8)) :
    awaitAnswer ending head chunks =
      match collect headMark gatewayHeadLimit head chunks with
      | .whole first left later => judged first left later
      | .tooLong => .error .oversized
      | .incomplete =>
          match ending with
          | .silent => .error .noAnswer
          | .closed => .error .closed := by
  induction chunks generalizing head with
  | nil => rfl
  | cons chunk chunks ih =>
      rw [awaitAnswer, collect]
      simp only [← findHeadEnd_eq]
      cases found : findHeadEnd (head ++ chunk) with
      | some mark =>
          obtain ⟨first, rest, same, length, closes⟩ :=
            Delimited.closes_of_endOf headMark_ne_nil found
          simp only
          rw [same, ← length, List.take_left, List.drop_left, proxyConnectSucceeded_append closes]
          rfl
      | none =>
          simp only
          split
          · rfl
          · exact ih (head ++ chunk)

end Answer

/-- Both readers split the stream at its first blank line, and the gateway is judged by the head
that its reader splits off. -/
theorem heads_split_at_blank_line :
    SplitsAtHead httpHeadLimit (· ≠ []) clientHead ∧
      SplitsAtHead gatewayHeadLimit (fun _ => True) gatewayHead ∧
      ∀ ending chunks,
        (∀ head left later, gatewayHead chunks = some (head, left, later) →
          awaitAnswer ending [] chunks = judged head left later) ∧
        (gatewayHead chunks = none → ∃ failure, awaitAnswer ending [] chunks = .error failure) := by
  refine ⟨splitsAtHead_client, splitsAtHead_collect gatewayHeadLimit, fun ending chunks => ?_⟩
  have loop := awaitAnswer_eq ending [] chunks
  refine ⟨fun head left later split => ?_, fun none_ => ?_⟩
  · rw [collectedHead_some split] at loop
    exact loop
  · unfold gatewayHead at none_
    cases collected : collect headMark gatewayHeadLimit [] chunks with
    | whole head left later =>
        rw [collected] at none_
        cases none_
    | tooLong =>
        rw [collected] at loop
        exact ⟨_, loop⟩
    | incomplete =>
        rw [collected] at loop
        cases ending <;> exact ⟨_, loop⟩

end MolidoVpn.Socks
