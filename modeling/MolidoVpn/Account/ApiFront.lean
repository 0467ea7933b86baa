import MolidoVpn.Account.Refusal
import MolidoVpn.Lib.Lowercase
import MolidoVpn.Lib.Radix
import MolidoVpn.Lib.Str

/-!
The response of the API front (`apifront.rs`): its head is read, and a chunked body is put
together. The bytes become a text before anything else, and what a chunk announces is counted in
the bytes of this text.
-/

namespace MolidoVpn.Account

open Checked (Panic Safe)
open Lowercase (CaseTables toLowercase)
open Radix (fromStrRadix16)
open Text (parseU16 splitAround splitEvery trim words)
open Utf8 (Valid fromUtf8Lossy repaired)

def lineMark : Str := .ofChars "\r\n".toList

def headEnd : Str := .ofChars "\r\n\r\n".toList

/-- Whether a line of the head says that the body is chunked. -/
def announcesChunked (tables : CaseTables) (line : List Char) : Bool :=
  let lowered := toLowercase tables line
  "transfer-encoding:".toList.isPrefixOf lowered && (splitAround "chunked".toList lowered).isSome

/-- What stands for the size in the first line of a chunk. -/
def chunkToken (line : List Char) : List Char := trim (line.takeWhile (· != ';'))

section Parse

variable (bits : Nat) (overflowChecks : Bool)

/-- The sum of two values of `usize`, a type of so many bits: it stops a build that checks for
overflow, and wraps around in one that does not. -/
def addUsize (left right : Nat) : Except Panic Nat :=
  if left + right < 2 ^ bits then .ok (left + right)
  else if overflowChecks then .error .overflow
  else .ok ((left + right) % 2 ^ bits)

/-- One turn of the loop of `dechunk`: what it takes, and where the next one starts. No position
in a text is large enough for the other sums to overflow. -/
def takeChunk (body : Str) (cursor : Nat) : Except Panic (Option (Str × Nat)) := do
  let rest ← body.sliceFrom cursor
  match rest.find lineMark with
  | none => return none
  | some offset =>
      let lineEnd := cursor + offset
      let line ← body.slice cursor lineEnd
      match fromStrRadix16 bits (chunkToken line.chars) with
      | none | some 0 => return none
      | some size =>
          let start := lineEnd + 2
          let stop ← addUsize bits overflowChecks start size
          if body.len < stop then return none
          else
            let piece ← body.slice start stop
            return some (piece, stop + 2)

section Chunk

variable {bits : Nat} {overflowChecks : Bool} {body piece : Str} {cursor next start size : Nat}

/-- A text is cut around the end of a line. -/
private theorem valid_around_line {line rest : List UInt8}
    (valid : Valid (line ++ (lineMark.bytes ++ rest))) : Valid line ∧ Valid rest := by
  have first : Valid (line ++ 13 :: (10 :: rest)) := valid
  obtain ⟨before, behind⟩ := first.around_ascii (by decide)
  have second : Valid ([] ++ 10 :: rest) := behind
  exact ⟨before, (second.around_ascii (by decide)).2⟩

theorem takeChunk_off (off : body.isBoundary cursor = false) :
    takeChunk bits overflowChecks body cursor = .error .slice := by
  rw [takeChunk, Str.sliceFrom_error off]
  rfl

private theorem takeChunk_no_line (boundary : body.isBoundary cursor = true)
    (missing : splitAround lineMark.bytes (body.bytes.drop cursor) = none) :
    takeChunk bits overflowChecks body cursor = .ok none := by
  obtain ⟨rest, taken, same⟩ := Str.sliceFrom_ok boundary
  have nowhere : rest.find lineMark = none := by
    rw [Str.find, same, missing]
    rfl
  rw [takeChunk, taken]
  simp only [Checked.ok_bind, nowhere]
  rfl

variable (bits overflowChecks) in
private theorem takeChunk_line {line rest : List UInt8} (boundary : body.isBoundary cursor = true)
    (cut : splitAround lineMark.bytes (body.bytes.drop cursor) = some (line, rest)) :
    body.isBoundary (cursor + line.length + 2) = true ∧
    takeChunk bits overflowChecks body cursor =
      match fromStrRadix16 bits (chunkToken (fromUtf8Lossy line)) with
      | none | some 0 => .ok none
      | some size =>
          addUsize bits overflowChecks (cursor + line.length + 2) size >>= fun stop =>
            if body.len < stop then .ok none
            else
              body.slice (cursor + line.length + 2) stop >>= fun piece =>
                .ok (some (piece, stop + 2)) := by
  have from_ := Text.splitAround_eq_append cut
  have valid := (body.valid.cut boundary).2.2
  rw [from_] at valid
  obtain ⟨before, behind⟩ := valid_around_line valid
  have lineEnd := Str.isBoundary_of_drop boundary from_ before (lineMark.valid.append behind)
  have dataStart : body.isBoundary (cursor + line.length + 2) = true := by
    rw [← List.append_assoc] at from_
    have place := Str.isBoundary_of_drop boundary from_ (before.append lineMark.valid) behind
    rw [List.length_append] at place
    exact place
  refine ⟨dataStart, ?_⟩
  obtain ⟨tail, taken, same⟩ := Str.sliceFrom_ok boundary
  obtain ⟨read, sliced, part⟩ := Str.slice_ok (Nat.le_add_right cursor line.length) boundary lineEnd
  have there : tail.find lineMark = some line.length := by
    rw [Str.find, same, cut]
    rfl
  have chars : read.chars = fromUtf8Lossy line := by
    rw [Str.chars, part, List.drop_take, Nat.add_sub_cancel_left, from_, List.take_left]
  rw [takeChunk, taken]
  simp only [Checked.ok_bind, there, sliced, chars]
  rfl

/-- At the position stands the first line of a chunk: it announces so many bytes from `start` on. -/
def Header (bits : Nat) (body : List UInt8) (cursor start size : Nat) : Prop :=
  ∃ line rest, splitAround lineMark.bytes (body.drop cursor) = some (line, rest) ∧
    fromStrRadix16 bits (chunkToken (fromUtf8Lossy line)) = some size ∧ 0 < size ∧
    start = cursor + line.length + 2

theorem Header.unique {bytes : List UInt8} {start' size' : Nat}
    (header : Header bits bytes cursor start size)
    (header' : Header bits bytes cursor start' size') : start = start' ∧ size = size' := by
  obtain ⟨line, rest, cut, announced, _, rfl⟩ := header
  obtain ⟨line', rest', cut', announced', _, rfl⟩ := header'
  rw [cut] at cut'
  cases cut'
  rw [announced] at announced'
  cases announced'
  exact ⟨rfl, rfl⟩

theorem Header.start_le {bytes : List UInt8} (header : Header bits bytes cursor start size)
    (inside : cursor ≤ bytes.length) : start ≤ bytes.length := by
  obtain ⟨line, rest, cut, _, _, rfl⟩ := header
  have lengths := congrArg List.length (Text.splitAround_eq_append cut)
  have two : lineMark.bytes.length = 2 := rfl
  rw [List.length_drop, List.length_append, List.length_append, two] at lengths
  omega

variable (overflowChecks) in
private theorem takeChunk_header (boundary : body.isBoundary cursor = true)
    (header : Header bits body.bytes cursor start size) :
    body.isBoundary start = true ∧
    takeChunk bits overflowChecks body cursor =
      addUsize bits overflowChecks start size >>= fun stop =>
        if body.len < stop then .ok none
        else body.slice start stop >>= fun piece => .ok (some (piece, stop + 2)) := by
  obtain ⟨line, rest, cut, announced, positive, rfl⟩ := header
  obtain ⟨dataStart, turn⟩ := takeChunk_line bits overflowChecks boundary cut
  obtain ⟨less, rfl⟩ := Nat.exists_eq_succ_of_ne_zero (Nat.ne_of_gt positive)
  rw [turn, announced]
  exact ⟨dataStart, rfl⟩

variable (overflowChecks) in
/-- Where no chunk begins, the loop ends. -/
theorem takeChunk_none (boundary : body.isBoundary cursor = true)
    (missing : ∀ start size, ¬Header bits body.bytes cursor start size) :
    takeChunk bits overflowChecks body cursor = .ok none := by
  cases cut : splitAround lineMark.bytes (body.bytes.drop cursor) with
  | none => exact takeChunk_no_line boundary cut
  | some parts =>
      obtain ⟨line, rest⟩ := parts
      rw [(takeChunk_line bits overflowChecks boundary cut).2]
      cases announced : fromStrRadix16 bits (chunkToken (fromUtf8Lossy line)) with
      | none => rfl
      | some size =>
          cases size with
          | zero => rfl
          | succ less =>
              exact absurd ⟨line, rest, cut, announced, Nat.succ_pos less, rfl⟩ (missing _ _)

/-- Announced bytes that do not fit into the text end the loop. -/
theorem takeChunk_past (boundary : body.isBoundary cursor = true)
    (header : Header bits body.bytes cursor start size) (fits : start + size < 2 ^ bits)
    (past : body.len < start + size) : takeChunk bits overflowChecks body cursor = .ok none := by
  rw [(takeChunk_header overflowChecks boundary header).2, addUsize, if_pos fits,
    Checked.ok_bind, if_pos past]

variable (overflowChecks) in
/-- Announced bytes that end inside of the text are taken, if they end on a boundary. -/
theorem takeChunk_inside (boundary : body.isBoundary cursor = true)
    (header : Header bits body.bytes cursor start size) (fits : start + size < 2 ^ bits)
    (whole : body.isBoundary (start + size) = true) :
    ∃ piece, takeChunk bits overflowChecks body cursor = .ok (some (piece, start + size + 2)) ∧
      piece.bytes = (body.bytes.take (start + size)).drop start := by
  obtain ⟨dataStart, turn⟩ := takeChunk_header overflowChecks boundary header
  obtain ⟨piece, sliced, same⟩ := Str.slice_ok (Nat.le_add_right start size) dataStart whole
  refine ⟨piece, ?_, same⟩
  rw [turn, addUsize, if_pos fits, Checked.ok_bind,
    if_neg (Nat.not_lt.mpr (Str.le_of_isBoundary whole)), sliced, Checked.ok_bind]

/-- Announced bytes that end within a character stop the program. -/
theorem takeChunk_within (boundary : body.isBoundary cursor = true)
    (header : Header bits body.bytes cursor start size) (fits : start + size < 2 ^ bits)
    (inside : start + size ≤ body.len) (within : body.isBoundary (start + size) = false) :
    takeChunk bits overflowChecks body cursor = .error .slice := by
  rw [(takeChunk_header overflowChecks boundary header).2, addUsize, if_pos fits, Checked.ok_bind,
    if_neg (Nat.not_lt.mpr inside), Str.slice_error]
  · rfl
  · rw [within]
    rintro ⟨_, _, impossible⟩
    cases impossible

variable (overflowChecks) in
/-- So does a size that takes the end out of range: the sum overflows, or wraps around to an end
in front of the start. -/
theorem takeChunk_overflow (boundary : body.isBoundary cursor = true)
    (header : Header bits body.bytes cursor start size) (short : body.len < 2 ^ bits)
    (large : 2 ^ bits ≤ start + size) :
    ∃ panic, takeChunk bits overflowChecks body cursor = .error panic := by
  have early := header.start_le (Str.le_of_isBoundary boundary)
  have bounded : size < 2 ^ bits := by
    obtain ⟨_, _, _, announced, _⟩ := header
    exact Radix.lt_of_fromStrRadix16 announced
  rw [(takeChunk_header overflowChecks boundary header).2, addUsize, if_neg (Nat.not_lt.mpr large)]
  cases overflowChecks with
  | true => exact ⟨_, rfl⟩
  | false =>
      have wrapped : (start + size) % 2 ^ bits = start + size - 2 ^ bits := by
        rw [Nat.mod_eq_sub_mod large, Nat.mod_eq_of_lt (by rw [Str.len] at short; omega)]
      rw [if_neg Bool.false_ne_true, Checked.ok_bind, wrapped,
        if_neg (by rw [Str.len]; omega), Str.slice_error]
      · exact ⟨_, rfl⟩
      · rintro ⟨ordered, _⟩
        rw [Str.len] at short
        omega

/-- What is taken lies behind the first line of a chunk. -/
theorem of_takeChunk (turn : takeChunk bits overflowChecks body cursor = .ok (some (piece, next))) :
    ∃ start size stop, Header bits body.bytes cursor start size ∧
      addUsize bits overflowChecks start size = .ok stop ∧ body.slice start stop = .ok piece ∧
      next = stop + 2 := by
  cases boundary : body.isBoundary cursor with
  | false =>
      rw [takeChunk_off boundary] at turn
      cases turn
  | true =>
      by_cases missing : ∀ start size, ¬Header bits body.bytes cursor start size
      · rw [takeChunk_none overflowChecks boundary missing] at turn
        cases turn
      · simp only [not_forall, not_not] at missing
        obtain ⟨start, size, header⟩ := missing
        rw [(takeChunk_header overflowChecks boundary header).2] at turn
        cases added : addUsize bits overflowChecks start size with
        | error panic =>
            rw [added, Checked.error_bind] at turn
            cases turn
        | ok stop =>
            rw [added, Checked.ok_bind] at turn
            split at turn
            · cases turn
            · cases sliced : body.slice start stop with
              | error panic =>
                  rw [sliced, Checked.error_bind] at turn
                  cases turn
              | ok part =>
                  rw [sliced, Checked.ok_bind] at turn
                  cases turn
                  exact ⟨start, size, stop, header, added, sliced, rfl⟩

/-- What is taken is what a chunk announced: in a text that is not too long no sum wraps around. -/
theorem announced_of_takeChunk (short : body.len < 2 ^ bits)
    (turn : takeChunk bits overflowChecks body cursor = .ok (some (piece, next))) :
    ∃ start size, Header bits body.bytes cursor start size ∧ start + size < 2 ^ bits ∧
      body.slice start (start + size) = .ok piece ∧ next = start + size + 2 := by
  have boundary : body.isBoundary cursor = true := by
    by_contra off
    rw [takeChunk_off (Bool.eq_false_iff.mpr off)] at turn
    cases turn
  obtain ⟨start, size, stop, header, added, sliced, rfl⟩ := of_takeChunk turn
  have fits : start + size < 2 ^ bits := by
    by_contra large
    obtain ⟨panic, stopped⟩ := takeChunk_overflow overflowChecks boundary header
      short (Nat.le_of_not_lt large)
    rw [turn] at stopped
    cases stopped
  rw [addUsize, if_pos fits] at added
  cases added
  exact ⟨start, size, header, fits, sliced, rfl⟩

theorem takeChunk_progress
    (turn : takeChunk bits overflowChecks body cursor = .ok (some (piece, next))) :
    cursor < next := by
  obtain ⟨start, size, stop, ⟨line, rest, _, _, _, rfl⟩, _, sliced, rfl⟩ := of_takeChunk turn
  have ordered := (Str.of_slice sliced).1
  omega

end Chunk

def dechunkFrom (body : Str) (cursor : Nat) (out : Str) : Except Panic Str :=
  if cursor < body.len then
    match _turn : takeChunk bits overflowChecks body cursor with
    | .error panic => .error panic
    | .ok none => .ok out
    | .ok (some (piece, next)) => dechunkFrom body next (out.append piece)
  else .ok out
termination_by body.len - cursor
decreasing_by exact Nat.sub_lt_sub_left ‹_› (takeChunk_progress _turn)

def dechunk (body : Str) : Except Panic Str :=
  dechunkFrom bits overflowChecks body 0 (.ofChars [])

def parseResponse (tables : CaseTables) (raw : List UInt8) :
    Except Panic (Except AetherError (UInt16 × Str)) := do
  let text := Str.ofChars (fromUtf8Lossy raw)
  match text.find headEnd with
  | none => return .error (.api "truncated response head".toList)
  | some split =>
      let head ← text.slice 0 split
      let body ← text.sliceFrom (split + 4)
      match splitEvery '\r' ['\n'] head.chars with
      | [] => return .error (.api "empty response".toList)
      | statusLine :: lines =>
          match (words statusLine)[1]?.bind parseU16 with
          | none => return .error (.api ("bad status line: ".toList ++ statusLine))
          | some status =>
              if lines.any (announcesChunked tables) then
                let body ← dechunk bits overflowChecks body
                return .ok (status, body)
              else return .ok (status, body)

end Parse

section Loop

variable {bits : Nat} {overflowChecks : Bool} {body out piece text : Str} {cursor next : Nat}

theorem dechunkFrom_end (past : body.len ≤ cursor) :
    dechunkFrom bits overflowChecks body cursor out = .ok out := by
  rw [dechunkFrom, if_neg (Nat.not_lt.mpr past)]

theorem dechunkFrom_none (inside : cursor < body.len)
    (turn : takeChunk bits overflowChecks body cursor = .ok none) :
    dechunkFrom bits overflowChecks body cursor out = .ok out := by
  rw [dechunkFrom, if_pos inside]
  split <;> rename_i other <;> rw [turn] at other <;> cases other

theorem dechunkFrom_error {panic : Panic} (inside : cursor < body.len)
    (turn : takeChunk bits overflowChecks body cursor = .error panic) :
    dechunkFrom bits overflowChecks body cursor out = .error panic := by
  rw [dechunkFrom, if_pos inside]
  split <;> rename_i other <;> rw [turn] at other <;> cases other
  rfl

theorem dechunkFrom_some (inside : cursor < body.len)
    (turn : takeChunk bits overflowChecks body cursor = .ok (some (piece, next))) :
    dechunkFrom bits overflowChecks body cursor out =
      dechunkFrom bits overflowChecks body next (out.append piece) := by
  rw [dechunkFrom, if_pos inside]
  split <;> rename_i other <;> rw [turn] at other <;> cases other
  rfl

/-- What was taken stays in front. -/
theorem dechunkFrom_prefix (done : dechunkFrom bits overflowChecks body cursor out = .ok text) :
    out.bytes <+: text.bytes := by
  induction cursor, out using dechunkFrom.induct bits overflowChecks body with
  | case1 cursor out inside panic turn =>
      rw [dechunkFrom_error inside turn] at done
      cases done
  | case2 cursor out inside turn =>
      rw [dechunkFrom_none inside turn] at done
      cases done
      exact List.prefix_rfl
  | case3 cursor out inside piece next turn ih =>
      rw [dechunkFrom_some inside turn] at done
      exact (List.prefix_append _ _).trans (ih done)
  | case4 cursor out past =>
      rw [dechunkFrom_end (Nat.le_of_not_lt past)] at done
      cases done
      exact List.prefix_rfl

end Loop

section Head

variable {bits : Nat} {overflowChecks chunked : Bool} {tables : CaseTables} {raw body : List UInt8}
  {status : UInt16}

/-- The bytes have a head that gives a status, and a body behind it that is chunked or not. -/
def Parts (tables : CaseTables) (raw : List UInt8) (status : UInt16) (chunked : Bool)
    (body : List UInt8) : Prop :=
  ∃ head statusLine lines, splitAround headEnd.bytes (repaired raw) = some (head, body) ∧
    splitEvery '\r' ['\n'] (fromUtf8Lossy head) = statusLine :: lines ∧
    (words statusLine)[1]?.bind parseU16 = some status ∧
    lines.any (announcesChunked tables) = chunked

theorem Parts.unique {status' : UInt16} {chunked' : Bool} {body' : List UInt8}
    (parts : Parts tables raw status chunked body)
    (parts' : Parts tables raw status' chunked' body') :
    status = status' ∧ chunked = chunked' ∧ body = body' := by
  obtain ⟨head, statusLine, lines, cut, split, read, rfl⟩ := parts
  obtain ⟨head', statusLine', lines', cut', split', read', rfl⟩ := parts'
  rw [cut] at cut'
  cases cut'
  rw [split] at split'
  cases split'
  rw [read] at read'
  cases read'
  exact ⟨rfl, rfl, rfl⟩

theorem Parts.length_lt (parts : Parts tables raw status chunked body)
    (short : (repaired raw).length < 2 ^ bits) : body.length < 2 ^ bits := by
  obtain ⟨head, _, _, cut, _⟩ := parts
  have lengths := congrArg List.length (Text.splitAround_eq_append cut)
  rw [List.length_append, List.length_append] at lengths
  omega

variable (bits overflowChecks tables) in
/-- Once the end of the head is found, the text can be cut around it. -/
private theorem parseResponse_cut {head : List UInt8}
    (cut : splitAround headEnd.bytes (repaired raw) = some (head, body)) :
    ∃ text : Str, text.bytes = body ∧
      parseResponse bits overflowChecks tables raw =
        match splitEvery '\r' ['\n'] (fromUtf8Lossy head) with
        | [] => .ok (.error (.api "empty response".toList))
        | statusLine :: lines =>
            match (words statusLine)[1]?.bind parseU16 with
            | none => .ok (.error (.api ("bad status line: ".toList ++ statusLine)))
            | some status =>
                if lines.any (announcesChunked tables) then
                  dechunk bits overflowChecks text >>= fun body => .ok (.ok (status, body))
                else .ok (.ok (status, text)) := by
  have whole := Text.splitAround_eq_append cut
  have valid := Utf8.valid_repaired raw
  have first : Valid (head ++ (lineMark.bytes ++ (lineMark.bytes ++ body))) := by
    rw [whole] at valid
    exact valid
  obtain ⟨before, behind⟩ := valid_around_line first
  have second : Valid ([] ++ (lineMark.bytes ++ body)) := behind
  have behind_head := (valid_around_line second).2
  have from_ :
      (Str.ofChars (fromUtf8Lossy raw)).bytes.drop 0 = head ++ (headEnd.bytes ++ body) := by
    rw [List.drop_zero]
    exact whole
  have headStop := Str.isBoundary_of_drop (Str.isBoundary_zero _) from_ before
    (headEnd.valid.append behind_head)
  have bodyStart := Str.isBoundary_of_drop (Str.isBoundary_zero _)
    (from_.trans (List.append_assoc _ _ _).symm) (before.append headEnd.valid) behind_head
  have four : headEnd.bytes.length = 4 := rfl
  rw [List.length_append, four, Nat.zero_add] at bodyStart
  rw [Nat.zero_add] at headStop
  obtain ⟨taken, sliced, same⟩ := Str.slice_ok (Nat.zero_le _) (Str.isBoundary_zero _) headStop
  obtain ⟨text, rest, same_rest⟩ := Str.sliceFrom_ok bodyStart
  have found : (Str.ofChars (fromUtf8Lossy raw)).find headEnd = some head.length := by
    rw [Str.find]
    change (splitAround headEnd.bytes (repaired raw)).map _ = _
    rw [cut]
    rfl
  have chars : taken.chars = fromUtf8Lossy head := by
    rw [List.drop_zero] at from_
    rw [Str.chars, same, List.drop_zero, from_, List.take_left]
  refine ⟨text, ?_, ?_⟩
  · rw [List.drop_zero] at from_
    rw [same_rest, from_, ← List.append_assoc, ← four, ← List.length_append, List.drop_left]
  · rw [parseResponse]
    simp only [found, sliced, rest, Checked.ok_bind, chars]
    rfl

variable (bits overflowChecks) in
theorem parseResponse_of_parts (parts : Parts tables raw status chunked body) :
    ∃ text : Str, text.bytes = body ∧
      parseResponse bits overflowChecks tables raw =
        if chunked then dechunk bits overflowChecks text >>= fun body => .ok (.ok (status, body))
        else .ok (.ok (status, text)) := by
  obtain ⟨head, statusLine, lines, cut, split, read, rfl⟩ := parts
  obtain ⟨text, same, parsed⟩ := parseResponse_cut bits overflowChecks tables cut
  refine ⟨text, same, ?_⟩
  rw [parsed, split]
  simp only [read]

variable (bits overflowChecks) in
/-- Without them the response is an error. -/
theorem parseResponse_of_none
    (missing : ∀ status chunked body, ¬Parts tables raw status chunked body) :
    ∃ error, parseResponse bits overflowChecks tables raw = .ok (.error error) := by
  cases cut : splitAround headEnd.bytes (repaired raw) with
  | none =>
      have nowhere : (Str.ofChars (fromUtf8Lossy raw)).find headEnd = none := by
        rw [Str.find]
        change (splitAround headEnd.bytes (repaired raw)).map _ = _
        rw [cut]
        rfl
      rw [parseResponse]
      simp only [nowhere]
      exact ⟨_, rfl⟩
  | some parts =>
      obtain ⟨head, body⟩ := parts
      obtain ⟨text, _, parsed⟩ := parseResponse_cut bits overflowChecks tables cut
      rw [parsed]
      cases split : splitEvery '\r' ['\n'] (fromUtf8Lossy head) with
      | nil => exact absurd split (Text.splitEvery_ne_nil _ _ _)
      | cons statusLine lines =>
          cases read : (words statusLine)[1]?.bind parseU16 with
          | none =>
              simp only [read]
              exact ⟨_, rfl⟩
          | some status =>
              exact absurd ⟨head, statusLine, lines, cut, split, read, rfl⟩ (missing status _ body)

end Head

end MolidoVpn.Account
