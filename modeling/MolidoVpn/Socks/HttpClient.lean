import MolidoVpn.Socks.Gateway

/-!
One client connection of the HTTP front end: its first head is read and routed,
and everything behind that head goes where the first request went. A connection
that was opened takes what it is given.
-/

namespace MolidoVpn.Socks

open Routing (Action RuleSet)
open Text (splitAround firstLine)
open Utf8 (encode fromUtf8Lossy)

def httpHeadLimit : Nat := 16384

inductive ReadHeadError where
  | closed
  | tooLarge
  deriving DecidableEq

/-- The loop of `read_head`: the head, what was pipelined behind it, and the reads not made yet.
An empty read is the end of the stream. -/
def readHeadFrom (head : List UInt8) (searched : Nat) :
    List (List UInt8) → Except ReadHeadError (List UInt8 × List UInt8 × List (List UInt8))
  | [] => .error .closed
  | chunk :: reads =>
      if chunk = [] then .error .closed
      else
        let head := head ++ chunk
        -- only the three bytes of overlap are searched again
        let start := searched - 3
        match findHeadEnd (head.drop start) with
        | some mark => .ok (head.take (start + mark), head.drop (start + mark), reads)
        | none =>
            if httpHeadLimit < head.length then .error .tooLarge
            else readHeadFrom head head.length reads

def readHead (reads : List (List UInt8)) :
    Except ReadHeadError (List UInt8 × List UInt8 × List (List UInt8)) :=
  readHeadFrom [] 0 reads

/-- The head for the origin; a CONNECT has none. -/
def preamble (request : HttpRequestLine) (head : List UInt8) : List UInt8 :=
  match request.rewritten with
  | none => []
  | some line =>
      match splitAround crlf (fromUtf8Lossy head) with
      | some (_, tail) => encode (line ++ tail)
      | none => encode line

/-- A connection on behalf of the client: how and for whom it was opened, and what it was given. -/
structure Upstream where
  way : Action
  target : Target
  port : UInt16
  dial : Dial
  sent : List UInt8
  deriving DecidableEq

structure HttpServed where
  written : List UInt8
  upstream : Option Upstream
  deriving DecidableEq

def closingReply (status : List Char) : List UInt8 :=
  encode ("HTTP/1.1 ".toList ++ status ++ crlf ++ "Connection: close".toList ++ crlf ++ crlf)

def badRequest : List UInt8 := closingReply "400 Bad Request".toList

def forbiddenReply : List UInt8 := closingReply "403 Forbidden".toList

def badGateway : List UInt8 := closingReply "502 Bad Gateway".toList

/-- A CONNECT is answered; a plain request waits for the answer of the origin. -/
def established (request : HttpRequestLine) : List UInt8 :=
  if request.rewritten = none then
    encode ("HTTP/1.1 200 Connection established".toList ++ crlf ++ crlf)
  else []

/-- The bytes that are copied from the client until its stream ends. -/
def copied (reads : List (List UInt8)) : List UInt8 :=
  (reads.takeWhile fun chunk => chunk ≠ []).flatten

/-- `relay_http_direct` -/
def relayHttpDirect (network : Network) (request : HttpRequestLine) (head pipelined : List UInt8)
    (reads : List (List UInt8)) : HttpServed :=
  let target := httpTarget request
  if network.connects target request.port then
    { written := established request
      upstream := some
        { way := .direct
          target := target
          port := request.port
          dial := .direct target request.port
          sent := preamble request head ++ pipelined ++ copied reads } }
  else { written := badGateway, upstream := none }

section Client

variable (toLowercase : List Char → List Char) (rules : RuleSet) (network : Network)
  (gateway : Gateway)

def handleHttpClient (reads : List (List UInt8)) : HttpServed :=
  match readHead reads with
  | .error _ => { written := [], upstream := none }
  | .ok (head, pipelined, reads) =>
      match parseRequestLine (firstLine (fromUtf8Lossy head)) with
      | none => { written := badRequest, upstream := none }
      | some request =>
          let target := httpTarget request
          match rules.decide toLowercase (hostOf target) request.port with
          | .block => { written := forbiddenReply, upstream := none }
          | .direct => relayHttpDirect network request head pipelined reads
          | .proxy =>
              match (openTunneled network gateway target request.port).channel with
              | none => { written := badGateway, upstream := none }
              | some channel =>
                  { written := established request ++ channel.leftover
                    upstream := some
                      { way := .proxy
                        target := target
                        port := request.port
                        dial := channel.dial
                        sent := preamble request head ++ pipelined ++ copied reads } }

end Client

section Reading

variable {bytes more head chunk : List UInt8} {mark : Nat}

theorem findHeadEnd_append (found : findHeadEnd bytes = some mark) (more : List UInt8) :
    findHeadEnd (bytes ++ more) = some mark := by
  rw [findHeadEnd, Option.map_eq_some_iff] at found ⊢
  obtain ⟨⟨before, after⟩, split, same⟩ := found
  exact ⟨_, Text.splitAround_append_right split more, same⟩

theorem findHeadEnd_le (found : findHeadEnd bytes = some mark) : mark ≤ bytes.length := by
  rw [findHeadEnd, Option.map_eq_some_iff] at found
  obtain ⟨⟨before, after⟩, split, same⟩ := found
  have whole := congrArg List.length (Text.splitAround_eq_append split)
  simp only [headMark, List.length_append, List.length_cons, List.length_nil] at whole same
  omega

/-- Searching the overlap finds what a search of the whole would. -/
private theorem findHeadEnd_overlap (missing : findHeadEnd head = none) :
    findHeadEnd (head ++ chunk) =
      (findHeadEnd ((head ++ chunk).drop (head.length - 3))).map fun mark =>
        head.length - 3 + mark := by
  rw [findHeadEnd, Option.map_eq_none_iff] at missing
  have clear : ∀ place < head.length - 3, ¬headMark <+: (head ++ chunk).drop place := by
    intro place before here
    apply Text.not_prefix_of_splitAround missing place
    rw [List.drop_append_of_le_length (by omega)] at here
    apply List.prefix_of_prefix_length_le here (List.prefix_append _ _)
    rw [List.length_drop]
    change 4 ≤ _
    omega
  rw [findHeadEnd, Text.splitAround_drop clear, findHeadEnd, Option.map_map, Option.map_map]
  congr 1
  funext parts
  simp only [Function.comp, List.length_append, List.length_take]
  omega

/-- One turn of the loop, with the search it amounts to. -/
theorem readHeadFrom_cons (missing : findHeadEnd head = none) (nonempty : chunk ≠ [])
    (reads : List (List UInt8)) :
    readHeadFrom head head.length (chunk :: reads) =
      match findHeadEnd (head ++ chunk) with
      | some mark => .ok ((head ++ chunk).take mark, (head ++ chunk).drop mark, reads)
      | none =>
          if httpHeadLimit < (head ++ chunk).length then .error .tooLarge
          else readHeadFrom (head ++ chunk) (head ++ chunk).length reads := by
  rw [readHeadFrom, if_neg nonempty, findHeadEnd_overlap missing]
  simp only
  cases findHeadEnd ((head ++ chunk).drop (head.length - 3)) <;> rfl

/-- Nothing is lost or moved, and the head ends where the bytes that were read say. -/
theorem readHeadFrom_ok {reads later : List (List UInt8)} {first pipelined : List UInt8}
    (missing : findHeadEnd head = none)
    (read : readHeadFrom head head.length reads = .ok (first, pipelined, later)) :
    ∃ used, reads = used ++ later ∧ first ++ pipelined = head ++ used.flatten ∧
      findHeadEnd (head ++ used.flatten) = some first.length := by
  induction reads generalizing head with
  | nil => cases read
  | cons chunk reads ih =>
      by_cases empty : chunk = []
      · rw [readHeadFrom, if_pos empty] at read
        cases read
      · rw [readHeadFrom_cons missing empty] at read
        cases found : findHeadEnd (head ++ chunk) with
        | some mark =>
            simp only [found] at read
            cases read
            have length : ((head ++ chunk).take mark).length = mark := by
              rw [List.length_take]
              exact Nat.min_eq_left (findHeadEnd_le found)
            refine ⟨[chunk], rfl, ?_, ?_⟩
            · rw [List.take_append_drop, List.flatten_singleton]
            · rw [List.flatten_singleton, found, length]
        | none =>
            simp only [found] at read
            split at read
            · cases read
            · obtain ⟨used, parts, whole, ends⟩ := ih found read
              refine ⟨chunk :: used, ?_, ?_, ?_⟩
              · rw [parts, List.cons_append]
              · rw [whole, List.flatten_cons, List.append_assoc]
              · rw [List.flatten_cons, ← List.append_assoc, ends]

/-- Whenever no head is complete yet, no more has been read than a head may have. -/
def HeadFits (head : List UInt8) (reads : List (List UInt8)) : Prop :=
  ∀ n, findHeadEnd (head ++ (reads.take n).flatten) = none →
    (head ++ (reads.take n).flatten).length ≤ httpHeadLimit

private theorem headFits_cons {reads : List (List UInt8)} (small : head.length ≤ httpHeadLimit) :
    HeadFits head (chunk :: reads) ↔ HeadFits (head ++ chunk) reads := by
  constructor
  · intro fits n
    rw [← take_succ_flatten]
    exact fits (n + 1)
  · intro fits n
    cases n with
    | zero =>
        rw [take_zero_flatten]
        exact fun _ => small
    | succ n =>
        rw [take_succ_flatten]
        exact fits n

/-- A stream with a head in it is read exactly when the head fits. -/
theorem readHeadFrom_ok_iff {reads : List (List UInt8)} (missing : findHeadEnd head = none)
    (small : head.length ≤ httpHeadLimit) (nonempty : ∀ chunk ∈ reads, chunk ≠ [])
    (complete : findHeadEnd (head ++ reads.flatten) ≠ none) :
    (∃ result, readHeadFrom head head.length reads = .ok result) ↔ HeadFits head reads := by
  induction reads generalizing head with
  | nil =>
      rw [List.flatten_nil, List.append_nil] at complete
      exact absurd missing complete
  | cons chunk reads ih =>
      rw [headFits_cons small, readHeadFrom_cons missing (nonempty chunk List.mem_cons_self)]
      cases found : findHeadEnd (head ++ chunk) with
      | some mark =>
          refine iff_of_true ⟨_, rfl⟩ ?_
          intro n absent
          rw [findHeadEnd_append found] at absent
          cases absent
      | none =>
          simp only
          by_cases long : httpHeadLimit < (head ++ chunk).length
          · rw [if_pos long]
            refine iff_of_false ?_ ?_
            · rintro ⟨result, same⟩
              cases same
            · intro fits
              have short := fits 0
              rw [take_zero_flatten] at short
              exact absurd (short found) (by omega)
          · rw [if_neg long]
            rw [List.flatten_cons, ← List.append_assoc] at complete
            exact ih found (by omega)
              (fun later member => nonempty later (List.mem_cons_of_mem chunk member)) complete

end Reading

end MolidoVpn.Socks
