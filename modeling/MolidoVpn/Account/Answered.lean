import MolidoVpn.Account.Chunked
import MolidoVpn.Lib.Json

/-!
What becomes of the bytes that the API front sends: the response is read, and one that is no
success is described. Which bytes the program gets through, in every build and for every width of
`usize`.
-/

namespace MolidoVpn.Account

open Checked (Panic Safe)
open Lowercase (CaseTables)
open Text (parseU16 splitAround splitEvery trim words)
open Utf8 (Valid encode fromUtf8Lossy isCharBoundary repaired)

/-- What is used of a JSON library. -/
structure SerdeJson where
  fromStr : List Char → Option Json
  asI64 : JsonNumber → Option Int

def errorText (serde : SerdeJson) (entry : Json) : List Char :=
  let message :=
    match entry.opt "message" with
    | some (.string message) => message
    | _ => "unknown".toList
  let code :=
    match entry.opt "code" with
    | some (.number code) => serde.asI64 code
    | _ => none
  match code with
  | some code => message ++ " (code ".toList ++ (toString code).toList ++ ")".toList
  | none => message

def extractApiError (serde : SerdeJson) (body : List Char) : Option (List Char) :=
  (serde.fromStr body).bind fun value =>
    match value.opt "errors" with
    | some (.array errors) =>
        let parts := errors.map (errorText serde)
        if parts.isEmpty then none else some ("; ".toList.intercalate parts)
    | _ => none

def rejectionHint (status : Nat) : List Char :=
  if status = 403 then
    (" (cloudflare refused this network; the address looks flagged, " ++
      "try again later, switch network, or import an existing identity)").toList
  else if status = 429 then
    (" (too many registrations from this address; wait a few minutes " ++
      "before trying again)").toList
  else []

/-- The length in bytes that a body is cut to. -/
def detailLimit : Nat := 220

section Describe

variable (serde : SerdeJson) (display : Nat → List Char)

/-- `describe_rejection`; how a status is displayed is left to the HTTP library. -/
def describeRejection (status : Nat) (body : Str) : Except Panic (List Char) := do
  let detail ←
    match extractApiError serde body.chars with
    | some detail => .ok detail
    | none =>
        let trimmed := Str.ofChars (trim body.chars)
        if trimmed.len = 0 then .ok "no details returned".toList
        else if detailLimit < trimmed.len then
          trimmed.slice 0 detailLimit >>= fun start => .ok (start.chars ++ ['…'])
        else .ok trimmed.chars
  return "status ".toList ++ display status ++ ": ".toList ++ detail ++ rejectionHint status

/-- The HTTP library knows the statuses of three digits. -/
def describeStatus (status : Nat) (body : Str) : Except Panic (List Char) :=
  if 100 ≤ status ∧ status < 1000 then describeRejection serde display status body
  else .ok ("status ".toList ++ Text.decimal status ++ ": ".toList ++ body.chars)

variable (decode : List Char → Except (List Char) AccountData) (label : List Char)

/-- `fallback_call` on the response that `fetch` settles on. -/
def settle (route : List Char) (status : Nat) (body : Str) : Except Panic Outcome :=
  if isSuccess status then
    .ok ((decode body.chars).mapError fun error =>
      .api (label ++ " decode over ".toList ++ route ++ ": ".toList ++ error ++
        "; body=".toList ++ body.chars))
  else
    describeStatus serde display status body >>= fun detail =>
      let described := label ++ " over ".toList ++ route ++ ": ".toList ++ detail
      if refusesIdentity status then .ok (.error (.identityRefused described))
      else .ok (.error (.api described))

/-- From the bytes of a response to the outcome of the call. -/
def answer (bits : Nat) (overflowChecks : Bool) (tables : CaseTables) (route : List Char)
    (raw : List UInt8) : Except Panic Outcome :=
  parseResponse bits overflowChecks tables raw >>= fun parsed =>
    match parsed with
    | .error error => .ok (.error error)
    | .ok (status, body) => settle serde display decode label route status.toNat body

end Describe

section Loop

variable {bits : Nat} {overflowChecks : Bool} {body out : Str} {cursor : Nat}

/-- The positions where the first line of a chunk is looked for, each with what the chunks before
it carry. -/
inductive Reached (bits : Nat) (body : List UInt8) : Nat → List UInt8 → Prop
  | start : Reached bits body 0 []
  | next {cursor start size : Nat} {taken : List UInt8} (reached : Reached bits body cursor taken)
      (header : Header bits body cursor start size) (inside : start + size ≤ body.length) :
      Reached bits body (start + size + 2) (taken ++ (body.take (start + size)).drop start)

/-- At this position the text can be cut, and where the chunk announced here ends as well; the end
is a value of `usize`. -/
def SoundAt (bits : Nat) (body : List UInt8) (cursor : Nat) : Prop :=
  (cursor < body.length → isCharBoundary body cursor = true) ∧
  ∀ start size, Header bits body cursor start size →
    start + size < 2 ^ bits ∧
    (start + size ≤ body.length → isCharBoundary body (start + size) = true)

def Sound (bits : Nat) (body : List UInt8) : Prop :=
  ∀ cursor taken, Reached bits body cursor taken → SoundAt bits body cursor

/-- No chunk begins here that lies in the text as a whole. -/
def EndsAt (bits : Nat) (body : List UInt8) (cursor : Nat) : Prop :=
  ∀ start size, Header bits body cursor start size → body.length < start + size

theorem Header.lt {bytes : List UInt8} {start size : Nat}
    (header : Header bits bytes cursor start size) : cursor < bytes.length := by
  obtain ⟨line, rest, cut, _, _, rfl⟩ := header
  have lengths := congrArg List.length (Text.splitAround_eq_append cut)
  have two : lineMark.bytes.length = 2 := rfl
  rw [List.length_drop, List.length_append, List.length_append, two] at lengths
  omega

variable (overflowChecks) in
/-- One turn at a sound position: the loop goes on behind the chunk, or ends. -/
private theorem takeChunk_of_sound (inside : cursor < body.len)
    (sound : SoundAt bits body.bytes cursor) :
    (EndsAt bits body.bytes cursor ∧ takeChunk bits overflowChecks body cursor = .ok none) ∨
    ∃ start size piece, Header bits body.bytes cursor start size ∧
      start + size ≤ body.bytes.length ∧
      piece.bytes = (body.bytes.take (start + size)).drop start ∧
      takeChunk bits overflowChecks body cursor = .ok (some (piece, start + size + 2)) := by
  obtain ⟨here, ends⟩ := sound
  have boundary : body.isBoundary cursor = true := here inside
  by_cases missing : ∀ start size, ¬Header bits body.bytes cursor start size
  · refine Or.inl ⟨?_, takeChunk_none overflowChecks boundary missing⟩
    intro start size header
    exact absurd header (missing start size)
  · simp only [not_forall, not_not] at missing
    obtain ⟨start, size, header⟩ := missing
    obtain ⟨fits, whole⟩ := ends start size header
    by_cases past : body.len < start + size
    · refine Or.inl ⟨?_, takeChunk_past boundary header fits past⟩
      intro start' size' header'
      obtain ⟨rfl, rfl⟩ := header.unique header'
      exact past
    · have within : start + size ≤ body.bytes.length := Nat.le_of_not_lt past
      obtain ⟨piece, turn, taken⟩ := takeChunk_inside overflowChecks boundary
        header fits (whole within)
      exact Or.inr ⟨start, size, piece, header, within, taken, turn⟩

/-- A turn that the program gets through was at a sound position. -/
private theorem soundAt_of_safe (short : body.len < 2 ^ bits)
    (safe : Safe (dechunkFrom bits overflowChecks body cursor out)) :
    SoundAt bits body.bytes cursor := by
  have going : cursor < body.len →
      ∀ panic, takeChunk bits overflowChecks body cursor ≠ .error panic := by
    intro inside panic stopped
    rw [dechunkFrom_error inside stopped] at safe
    exact Checked.not_safe_error panic safe
  have boundary (inside : cursor < body.len) : body.isBoundary cursor = true := by
    by_contra off
    exact going inside _ (takeChunk_off (Bool.eq_false_iff.mpr off))
  refine ⟨boundary, ?_⟩
  intro start size header
  have inside : cursor < body.len := header.lt
  have fits : start + size < 2 ^ bits := by
    by_contra large
    obtain ⟨panic, stopped⟩ := takeChunk_overflow overflowChecks
      (boundary inside) header short (Nat.le_of_not_lt large)
    exact going inside panic stopped
  refine ⟨fits, ?_⟩
  intro within
  by_contra off
  exact going inside _
    (takeChunk_within (boundary inside) header fits within (Bool.eq_false_iff.mpr off))

variable (overflowChecks) in
/-- In a sound text the loop gives what the chunks carry, up to where it ends. -/
private theorem dechunkFrom_of_sound (sound : Sound bits body.bytes)
    (reached : Reached bits body.bytes cursor out.bytes) :
    ∃ text stop, dechunkFrom bits overflowChecks body cursor out = .ok text ∧
      Reached bits body.bytes stop text.bytes ∧ EndsAt bits body.bytes stop := by
  induction cursor, out using dechunkFrom.induct bits overflowChecks body with
  | case1 cursor out inside panic turn =>
      rcases takeChunk_of_sound overflowChecks inside (sound _ _ reached) with
        ⟨_, other⟩ | ⟨_, _, _, _, _, _, other⟩ <;>
      · rw [turn] at other
        cases other
  | case2 cursor out inside turn =>
      rcases takeChunk_of_sound overflowChecks inside (sound _ _ reached) with
        ⟨ends, _⟩ | ⟨_, _, _, _, _, _, other⟩
      · exact ⟨out, cursor, dechunkFrom_none inside turn, reached, ends⟩
      · rw [turn] at other
        cases other
  | case3 cursor out inside piece next turn ih =>
      rcases takeChunk_of_sound overflowChecks inside (sound _ _ reached) with
        ⟨_, other⟩ | ⟨start, size, part, header, within, taken, other⟩
      · rw [turn] at other
        cases other
      · rw [turn] at other
        cases other
        rw [dechunkFrom_some inside turn]
        apply ih
        rw [Str.bytes_append, taken]
        exact reached.next header within
  | case4 cursor out past =>
      refine ⟨out, cursor, dechunkFrom_end (Nat.le_of_not_lt past), reached, ?_⟩
      intro start size header
      exact absurd header.lt past

/-- Where the loop gets to, it has what the chunks before carry. -/
private theorem dechunk_of_reached {taken : List UInt8} (short : body.len < 2 ^ bits)
    (safe : Safe (dechunk bits overflowChecks body))
    (reached : Reached bits body.bytes cursor taken) :
    ∃ out : Str, out.bytes = taken ∧
      dechunk bits overflowChecks body = dechunkFrom bits overflowChecks body cursor out := by
  induction reached with
  | start => exact ⟨.ofChars [], rfl, rfl⟩
  | next reached header within ih =>
      obtain ⟨out, rfl, same⟩ := ih
      rw [same] at safe
      have inside := header.lt
      rcases takeChunk_of_sound overflowChecks inside
        (soundAt_of_safe short safe) with ⟨ends, _⟩ | ⟨start, size, piece, header', _, taken, turn⟩
      · exact absurd (ends _ _ header) (Nat.not_lt.mpr within)
      · obtain ⟨rfl, rfl⟩ := header.unique header'
        refine ⟨out.append piece, ?_, ?_⟩
        · rw [Str.bytes_append, taken]
        · rw [same, dechunkFrom_some inside turn]

theorem dechunk_safe_iff (short : body.len < 2 ^ bits) :
    Safe (dechunk bits overflowChecks body) ↔ Sound bits body.bytes := by
  constructor
  · intro safe cursor taken reached
    obtain ⟨out, _, same⟩ := dechunk_of_reached short safe reached
    rw [same] at safe
    exact soundAt_of_safe short safe
  · intro sound
    have begun : Reached bits body.bytes 0 (Str.ofChars []).bytes := .start
    obtain ⟨text, _, done, _⟩ := dechunkFrom_of_sound overflowChecks sound begun
    exact ⟨text, done⟩

/-- What the chunks carry, from the first to the last that lies in the text. -/
def Carried (bits : Nat) (body payload : List UInt8) : Prop :=
  ∃ stop, Reached bits body stop payload ∧ EndsAt bits body stop

variable (overflowChecks) in
theorem dechunk_carried (short : body.len < 2 ^ bits) (sound : Sound bits body.bytes) :
    ∃ text : Str, dechunk bits overflowChecks body = .ok text ∧
      ∀ payload, Carried bits body.bytes payload ↔ text.bytes = payload := by
  have begun : Reached bits body.bytes 0 (Str.ofChars []).bytes := .start
  obtain ⟨text, stop, done, reached, ends⟩ := dechunkFrom_of_sound overflowChecks sound begun
  refine ⟨text, done, ?_⟩
  intro payload
  constructor
  · rintro ⟨stop', reached', ends'⟩
    have safe : Safe (dechunk bits overflowChecks body) := ⟨text, done⟩
    obtain ⟨out, rfl, same⟩ := dechunk_of_reached short safe reached'
    have finished : dechunkFrom bits overflowChecks body stop' out = .ok out := by
      by_cases inside : stop' < body.len
      · rcases takeChunk_of_sound overflowChecks inside
          (sound _ _ reached') with ⟨_, turn⟩ | ⟨_, _, _, header, within, _, _⟩
        · exact dechunkFrom_none inside turn
        · exact absurd (ends' _ _ header) (Nat.not_lt.mpr within)
      · exact dechunkFrom_end (Nat.le_of_not_lt inside)
    have both : dechunk bits overflowChecks body = .ok text := done
    rw [same, finished] at both
    cases both
    rfl
  · rintro rfl
    exact ⟨stop, reached, ends⟩

end Loop

section Answer

variable {serde : SerdeJson} {display : Nat → List Char}
  {decode : List Char → Except (List Char) AccountData} {label route : List Char} {bits : Nat}
  {overflowChecks : Bool} {tables : CaseTables} {raw : List UInt8} {status : Nat} {body : Str}

/-- If the body is to be cut for the description, the cut is between two characters. -/
def Describable (serde : SerdeJson) (status : Nat) (payload : List UInt8) : Prop :=
  isSuccess status = false → 100 ≤ status → status < 1000 →
    extractApiError serde (fromUtf8Lossy payload) = none →
      detailLimit < (encode (trim (fromUtf8Lossy payload))).length →
        isCharBoundary (encode (trim (fromUtf8Lossy payload))) detailLimit = true

theorem describeRejection_safe_iff :
    Safe (describeRejection serde display status body) ↔
      (extractApiError serde body.chars = none →
        detailLimit < (encode (trim body.chars)).length →
          isCharBoundary (encode (trim body.chars)) detailLimit = true) := by
  rw [describeRejection]
  cases detail : extractApiError serde body.chars with
  | some detail =>
      refine iff_of_true (Checked.safe_ok _) ?_
      intro impossible
      cases impossible
  | none =>
      have trimmed : (Str.ofChars (trim body.chars)).bytes = encode (trim body.chars) := rfl
      simp only [true_implies, Str.len, trimmed]
      by_cases empty : (encode (trim body.chars)).length = 0
      · rw [if_pos empty, empty]
        refine iff_of_true (Checked.safe_ok _) ?_
        intro impossible
        cases impossible
      · by_cases long : detailLimit < (encode (trim body.chars)).length
        · rw [if_neg empty, if_pos long]
          constructor
          · rintro ⟨text, done⟩ _
            by_contra off
            rw [Str.slice_error, Checked.error_bind, Checked.error_bind] at done
            · cases done
            · rintro ⟨_, _, boundary⟩
              exact off boundary
          · intro boundary
            have cut : (Str.ofChars (trim body.chars)).isBoundary detailLimit = true :=
              boundary long
            obtain ⟨part, sliced, _⟩ := Str.slice_ok (Nat.zero_le _) (Str.isBoundary_zero _) cut
            rw [sliced]
            exact Checked.safe_ok _
        · rw [if_neg empty, if_neg long]
          exact iff_of_true (Checked.safe_ok _) fun impossible => absurd impossible long

theorem settle_safe_iff :
    Safe (settle serde display decode label route status body) ↔
      Describable serde status body.bytes := by
  rw [settle, Describable]
  cases success : isSuccess status with
  | true =>
      refine iff_of_true (Checked.safe_ok _) ?_
      intro impossible
      cases impossible
  | false =>
      have wrapped : ∀ described : Except Panic (List Char),
          (Safe (described >>= fun detail =>
            let described := label ++ " over ".toList ++ route ++ ": ".toList ++ detail
            if refusesIdentity status then .ok (.error (.identityRefused described))
            else .ok (.error (.api described)) : Except Panic Outcome)) ↔ Safe described := by
        intro described
        cases described with
        | error panic =>
            exact iff_of_false (Checked.not_safe_error panic) (Checked.not_safe_error panic)
        | ok detail =>
            refine iff_of_true ?_ (Checked.safe_ok detail)
            rw [Checked.ok_bind]
            simp only
            split
            · exact Checked.safe_ok _
            · exact Checked.safe_ok _
      rw [if_neg Bool.false_ne_true, wrapped, describeStatus]
      by_cases known : 100 ≤ status ∧ status < 1000
      · rw [if_pos known, describeRejection_safe_iff]
        exact ⟨fun cut _ _ _ => cut, fun cut => cut rfl known.1 known.2⟩
      · rw [if_neg known]
        refine iff_of_true (Checked.safe_ok _) ?_
        intro _ above below
        exact absurd ⟨above, below⟩ known

/-- What `describe_status` and the account are given to read. -/
def Payload (bits : Nat) (chunked : Bool) (body payload : List UInt8) : Prop :=
  if chunked then Carried bits body payload else body = payload

/-- The program gets through the bytes of a response exactly when the chunks announce ends that are
in range and between characters, as are the places behind them, and a description that is cut is
cut between characters. -/
theorem answer_safe_iff (short : (repaired raw).length < 2 ^ bits) :
    Safe (answer serde display decode label bits overflowChecks tables route raw) ↔
      ∀ status chunked body, Parts tables raw status chunked body →
        (chunked = true → Sound bits body) ∧
        ∀ payload, Payload bits chunked body payload →
          Describable serde status.toNat payload := by
  by_cases missing : ∀ status chunked body, ¬Parts tables raw status chunked body
  · obtain ⟨error, parsed⟩ := parseResponse_of_none bits overflowChecks missing
    refine iff_of_true ⟨.error error, ?_⟩ ?_
    · rw [answer, parsed, Checked.ok_bind]
    · intro status chunked body parts
      exact absurd parts (missing status chunked body)
  · simp only [not_forall, not_not] at missing
    obtain ⟨status, chunked, body, parts⟩ := missing
    have only (condition : UInt16 → Bool → List UInt8 → Prop) :
        (∀ status chunked body, Parts tables raw status chunked body →
          condition status chunked body) ↔ condition status chunked body := by
      constructor
      · exact fun every => every status chunked body parts
      · intro holds status' chunked' body' parts'
        obtain ⟨rfl, rfl, rfl⟩ := parts.unique parts'
        exact holds
    rw [only fun status chunked body => (chunked = true → Sound bits body) ∧
      ∀ payload, Payload bits chunked body payload → Describable serde status.toNat payload]
    obtain ⟨text, rfl, parsed⟩ := parseResponse_of_parts bits overflowChecks parts
    cases chunked with
    | false =>
        rw [answer, parsed, if_neg Bool.false_ne_true, Checked.ok_bind]
        simp only [settle_safe_iff, Payload, Bool.false_eq_true, false_implies, true_and, if_false,
          forall_eq']
    | true =>
        have fits : text.len < 2 ^ bits := parts.length_lt short
        rw [answer, parsed, if_pos rfl]
        simp only [Payload, if_true, true_implies]
        by_cases sound : Sound bits text.bytes
        · obtain ⟨read, done, carried⟩ := dechunk_carried overflowChecks fits sound
          rw [done, Checked.ok_bind, Checked.ok_bind]
          simp only [settle_safe_iff, carried, forall_eq', sound, true_and]
        · refine iff_of_false ?_ fun both => sound both.1
          cases stopped : dechunk bits overflowChecks text with
          | error panic => exact Checked.not_safe_error panic
          | ok read => exact absurd ((dechunk_safe_iff fits).mp ⟨read, stopped⟩) sound

end Answer

/-- A JSON library that takes nothing. -/
def noJson : SerdeJson where
  fromStr _ := none
  asI64 _ := none

/-- The call with this library, in a build for 64 bits that does not check for overflow. -/
def plainAnswer (raw : List UInt8) : Except Panic Outcome :=
  answer noJson Text.decimal (fun _ => .error []) "device refresh".toList 64 false
    Lowercase.asciiTables [] raw

def notFound : List UInt8 := encode "HTTP/1.1 404 Not Found\r\n\r\n{}".toList

theorem notFound_described : Safe (plainAnswer notFound) := by
  have parts : Parts Lowercase.asciiTables notFound 404 false (encode "{}".toList) := by
    refine ⟨encode "HTTP/1.1 404 Not Found".toList, "HTTP/1.1 404 Not Found".toList, [],
      by decide +kernel, ?_, by decide +kernel, rfl⟩
    rw [Utf8.fromUtf8Lossy_encode]
    exact Text.splitEvery_none (by decide +kernel)
  refine (answer_safe_iff (by decide +kernel)).mpr ?_
  intro status chunked body parts'
  obtain ⟨rfl, rfl, rfl⟩ := parts.unique parts'
  refine ⟨fun impossible => absurd impossible Bool.false_ne_true, ?_⟩
  rintro payload rfl _ _ _ _ long
  exact absurd long (by decide +kernel)

/-- A chunk that ends within a character stops the program. -/
theorem accent_split_stops :
    ¬ ∀ raw : List UInt8, (repaired raw).length < 2 ^ 64 → Safe (plainAnswer raw) := by
  intro always
  have parts := (okResponse accentSplit).parts
  obtain ⟨text, same, parsed⟩ := parseResponse_of_parts 64 false parts
  have header : Header 64 text.bytes 0 3 1 := by
    have from_ : text.bytes.drop 0 = repaired (digitLine 1 '1' rfl).bytes ++
        (lineMark.bytes ++ text.bytes.drop 3) := by
      rw [same]
      decide +kernel
    exact (digitLine 1 '1' rfl).header from_ Nat.one_pos (by decide)
  have stopped : dechunk 64 false text = .error .slice := by
    refine dechunkFrom_error header.lt (takeChunk_within (Str.isBoundary_zero text) header
      (by decide) ?_ ?_)
    · rw [Str.len, same]
      decide +kernel
    · rw [Str.isBoundary, same]
      decide +kernel
  have safe := always (okResponse accentSplit).bytes (by decide +kernel)
  rw [plainAnswer, answer, parsed, if_pos rfl, stopped, Checked.error_bind, Checked.error_bind]
    at safe
  exact Checked.not_safe_error _ safe

end MolidoVpn.Account
