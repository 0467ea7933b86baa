import MolidoVpn.Socks.Heads
import MolidoVpn.Socks.KeepAlive

/-!
What the origin of a plain request is sent. The head is taken for text, its first line replaced by
the rewritten request line and the rest behind the first carriage return and line feed kept; for
which heads that is the request itself.
-/

namespace MolidoVpn.Socks

open Delimited (Closes)
open Routing (Action RuleSet)
open Text (splitAround firstLine)
open Utf8 (encode fromUtf8Lossy Valid)

/-- What follows the first line, whichever line ending it has. -/
def behindLine (head : List UInt8) : List UInt8 :=
  match splitAround [10] head with
  | some (_, rest) => rest
  | none => []

/-- The request line has a carriage return before its line feed, and the rest is UTF-8. -/
def PlainText (head : List UInt8) : Prop :=
  ∃ line rest, head = line ++ 13 :: 10 :: rest ∧ 10 ∉ line ∧ Valid rest

section Lines

private theorem ended_clear {Element : Type} {feed last : Element} {line : List Element}
    (clear : feed ∉ line) (other : feed ≠ last) : feed ∉ line ++ [last] := by
  intro member
  rcases List.mem_append.mp member with early | late
  · exact clear early
  · exact other (List.mem_singleton.mp late)

/-- A line without a line feed ends at the first carriage return that has one behind it. -/
theorem splitAround_crlf {before : List Char} (clear : '\n' ∉ before) (after : List Char) :
    splitAround crlf (before ++ '\r' :: '\n' :: after) = some (before, after) := by
  obtain ⟨⟨line, rest⟩, split⟩ := Option.isSome_iff_exists.mp (Text.splitAround_isSome_iff.mpr
    (List.suffix_append before crlf).isInfix)
  have whole : before ++ crlf = line ++ (crlf ++ rest) := Text.splitAround_eq_append split
  have counts := congrArg (List.count '\n') whole
  rw [List.count_append, List.count_append, List.count_append, List.count_eq_zero.mpr clear,
    show crlf.count '\n' = 1 from rfl] at counts
  have other : '\n' ≠ '\r' := by decide
  have clear' : '\n' ∉ line ++ ['\r'] := ended_clear (List.count_eq_zero.mp (by omega)) other
  have same : (line ++ ['\r']) ++ '\n' :: rest = (before ++ ['\r']) ++ '\n' :: [] := by
    rw [List.append_assoc, List.append_assoc]
    exact whole.symm
  obtain ⟨lines, rfl⟩ := Text.append_cons_inj clear' (ended_clear clear other) same
  rw [List.append_cancel_right lines] at split
  have longer := Text.splitAround_append_right split after
  rw [List.append_assoc] at longer
  exact longer

theorem behindLine_eq {line rest : List UInt8} (clear : 10 ∉ line) :
    behindLine (line ++ 10 :: rest) = rest := by
  have split : splitAround [10] (line ++ 10 :: rest) = some (line, rest) :=
    Text.splitAround_first clear rest
  rw [behindLine, split]

end Lines

section Forwarding

variable {head line rest : List UInt8} {request : HttpRequestLine} {rewritten : List Char}

private theorem feed_ascii : (10 : UInt8).toNat < 128 := by decide

private theorem return_ascii : (13 : UInt8).toNat < 128 := by decide

private theorem decoded_line (line rest : List UInt8) :
    fromUtf8Lossy (line ++ 10 :: rest) = fromUtf8Lossy line ++ '\n' :: fromUtf8Lossy rest :=
  Utf8.fromUtf8Lossy_append_ascii line rest feed_ascii

private theorem decoded_clear (clear : 10 ∉ line) : '\n' ∉ fromUtf8Lossy line :=
  fun member => clear (Utf8.mem_of_fromUtf8Lossy feed_ascii member)

/-- Behind a proper line ending the text of the rest is sent. -/
theorem preamble_crlf (plain : request.rewritten = some rewritten) (clear : 10 ∉ line) :
    preamble request (line ++ 13 :: 10 :: rest) =
      encode rewritten ++ encode (fromUtf8Lossy rest) := by
  have text : fromUtf8Lossy (line ++ 13 :: 10 :: rest) =
      fromUtf8Lossy line ++ '\r' :: '\n' :: fromUtf8Lossy rest := by
    have first := Utf8.fromUtf8Lossy_append_ascii line (10 :: rest) return_ascii
    have second := decoded_line [] rest
    rw [List.nil_append] at second
    rw [second] at first
    exact first
  unfold preamble
  rw [plain, text, splitAround_crlf (decoded_clear clear)]
  exact Utf8.encode_append rewritten _

/-- Behind a bare line feed, lines are left out up to the first proper line ending. -/
theorem preamble_feed (plain : request.rewritten = some rewritten) (clear : 10 ∉ line)
    (bare : ∀ front, line ≠ front ++ [13]) (closes : Closes headMark (line ++ 10 :: rest)) :
    preamble request (line ++ 10 :: rest) ≠ encode rewritten ++ rest := by
  intro same
  have occurs : crlf <:+: fromUtf8Lossy (line ++ 10 :: rest) := by
    obtain ⟨front, ends⟩ := closes.1
    have text := fromUtf8Lossy_headMark front []
    rw [List.append_nil, ends] at text
    rw [text]
    exact (List.suffix_append _ crlf).isInfix.trans (List.prefix_append _ _).isInfix
  obtain ⟨⟨before, tail⟩, split⟩ :=
    Option.isSome_iff_exists.mp (Text.splitAround_isSome_iff.mpr occurs)
  have whole := Text.splitAround_eq_append split
  unfold preamble at same
  rw [plain, split] at same
  simp only [Utf8.encode_append] at same
  have kept : encode tail = rest := List.append_cancel_left same
  have counts := congrArg (List.count '\n') whole
  have tailCount : tail.count '\n' = rest.count 10 := by
    rw [← kept]
    exact (Utf8.count_encode feed_ascii tail).symm
  have restCount : (fromUtf8Lossy rest).count '\n' = rest.count 10 :=
    Utf8.count_fromUtf8Lossy feed_ascii rest
  rw [decoded_line, List.count_append, List.count_cons_self, List.count_append,
    List.count_append, List.count_eq_zero.mpr (decoded_clear clear), restCount, tailCount,
    show crlf.count '\n' = 1 from rfl] at counts
  have clear' : '\n' ∉ before ++ ['\r'] :=
    ended_clear (List.count_eq_zero.mp (by omega)) (by decide)
  have text : (before ++ ['\r']) ++ '\n' :: tail =
      fromUtf8Lossy line ++ '\n' :: fromUtf8Lossy rest := by
    rw [← decoded_line, whole, List.append_assoc]
    rfl
  obtain ⟨ends, _⟩ := Text.append_cons_inj clear' (decoded_clear clear) text
  obtain ⟨front, same'⟩ := Utf8.ends_of_fromUtf8Lossy return_ascii ends.symm
  exact bare front same'

theorem preamble_iff (plain : request.rewritten = some rewritten) (closes : Closes headMark head) :
    preamble request head = encode rewritten ++ behindLine head ↔ PlainText head := by
  have occurs : (10 : UInt8) ∈ head := closes.1.subset (by decide)
  obtain ⟨line, rest, rfl, clear⟩ := List.eq_append_cons_of_mem occurs
  have parts : PlainText (line ++ 10 :: rest) ↔ (∃ front, line = front ++ [13]) ∧ Valid rest := by
    constructor
    · rintro ⟨front, rest', same, clear', valid⟩
      have clear'' : 10 ∉ front ++ [13] := ended_clear clear' (by decide)
      have whole : line ++ 10 :: rest = (front ++ [13]) ++ 10 :: rest' := by
        rw [same, List.append_assoc, List.singleton_append]
      obtain ⟨rfl, rfl⟩ := Text.append_cons_inj clear clear'' whole
      exact ⟨⟨front, rfl⟩, valid⟩
    · rintro ⟨⟨front, rfl⟩, valid⟩
      refine ⟨front, rest, ?_, fun member => clear (List.mem_append_left _ member), valid⟩
      rw [List.append_assoc, List.singleton_append]
  rw [behindLine_eq clear, parts]
  by_cases ends : ∃ front, line = front ++ [13]
  · rw [and_iff_right ends]
    obtain ⟨front, rfl⟩ := ends
    have whole : front ++ [13] ++ 10 :: rest = front ++ 13 :: 10 :: rest := by
      rw [List.append_assoc, List.singleton_append]
    rw [whole, preamble_crlf plain fun member => clear (List.mem_append_left _ member),
      List.append_cancel_left_eq, Utf8.encode_fromUtf8Lossy_iff]
  · exact iff_of_false (preamble_feed plain clear (not_exists.mp ends) closes)
      fun both => ends both.1

end Forwarding

/-- The origin of a plain request is sent the request with its first line replaced exactly when
the rest of the head is UTF-8 and stands behind a carriage return and a line feed. -/
theorem forwarded_unchanged_iff (toLowercase : List Char → List Char) (rules : RuleSet)
    (network : Network) (gateway : Gateway) (reads later : List (List UInt8))
    (head pipelined : List UInt8) (request : HttpRequestLine) (rewritten : List Char)
    (upstream : Upstream) (read : readHead reads = .ok (head, pipelined, later))
    (accepted : parseRequestLine (firstLine (fromUtf8Lossy head)) = some request)
    (plain : request.rewritten = some rewritten)
    (served : (handleHttpClient toLowercase rules network gateway reads).upstream =
      some upstream) :
    upstream.sent = encode rewritten ++ behindLine head ++ pipelined ++ copied later ↔
      PlainText head := by
  have closes : Closes headMark head := (splitsAtHead_client.exact reads head pipelined later
    (by rw [clientHead, read]; rfl)).elim fun _ found => found.2.2
  have sent : upstream.sent = preamble request head ++ pipelined ++ copied later := by
    unfold handleHttpClient at served
    simp only [read, accepted] at served
    split at served
    · cases served
    · unfold relayHttpDirect at served
      simp only at served
      split at served
      · cases served
        rfl
      · cases served
    · split at served
      · cases served
      · cases served
        rfl
  rw [sent, List.append_cancel_right_eq, List.append_cancel_right_eq]
  exact preamble_iff plain closes

theorem forwarded_unchanged_get :
    PlainText (getHead ['a']) :=
  (forwarded_unchanged_iff id ⟨[], []⟩ openNetwork ⟨none, true⟩ [getHead ['a'] ++ [1, 2]] []
    (getHead ['a']) [1, 2] (getLine ['a']) ("GET / HTTP/1.1".toList ++ crlf) _ (by rfl) (by rfl)
    rfl (by rfl)).mp (by rfl)

/-- `GET http://a/ HTTP/1.1`, ended by a line feed alone, and `Host: a` -/
def feedHead : List UInt8 :=
  encode ("GET http://a/ HTTP/1.1\nHost: a".toList ++ crlf ++ crlf)

/-- The header behind the line feed does not reach the origin. -/
theorem header_left_out :
    ¬∀ (toLowercase : List Char → List Char) (rules : RuleSet) (network : Network)
      (gateway : Gateway) (reads later : List (List UInt8)) (head pipelined : List UInt8)
      (request : HttpRequestLine) (rewritten : List Char) (upstream : Upstream),
      readHead reads = .ok (head, pipelined, later) →
      parseRequestLine (firstLine (fromUtf8Lossy head)) = some request →
      request.rewritten = some rewritten →
      (handleHttpClient toLowercase rules network gateway reads).upstream = some upstream →
      upstream.sent = encode rewritten ++ behindLine head ++ pipelined ++ copied later := by
  intro claim
  have sent := claim id ⟨[], []⟩ openNetwork ⟨none, true⟩ [feedHead] [] feedHead [] (getLine ['a'])
    ("GET / HTTP/1.1".toList ++ crlf) _ (by rfl) (by rfl) rfl (by rfl)
  exact absurd sent (by decide)

end MolidoVpn.Socks
