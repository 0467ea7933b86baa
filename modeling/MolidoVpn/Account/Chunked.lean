import MolidoVpn.Account.ApiFront

/-!
Responses in chunked transfer coding, and which of them come out of `parse_response` as they were
put in. Sizes count the bytes that were sent, and are used on the text that these become.
-/

namespace MolidoVpn.Account

open Checked (Panic)
open Lowercase (CaseTables)
open Radix (fromStrRadix16 hexValue)
open Text (isWhitespace joined parseU16 splitAround splitEvery words)
open Utf8 (Valid encode fromUtf8Lossy repaired)

/-- The first line of a chunk: a size in any spelling, and an extension set off from it. -/
structure SizeLine (size : Nat) where
  digits : List Char
  padding : List Char
  extension : List UInt8
  digits_some : digits ≠ []
  digits_value : hexValue digits = some size
  padding_blank : ∀ c ∈ padding, c = ' ' ∨ c = '\t'
  extension_clear : 13 ∉ extension
  extension_set_off : extension = [] ∨ ∃ more, extension = 59 :: more

def SizeLine.bytes {size : Nat} (line : SizeLine size) : List UInt8 :=
  encode (line.digits ++ line.padding) ++ line.extension

structure Chunk where
  data : List UInt8
  data_some : data ≠ []
  line : SizeLine data.length

def Chunk.bytes (chunk : Chunk) : List UInt8 :=
  chunk.line.bytes ++ (lineMark.bytes ++ (chunk.data ++ lineMark.bytes))

/-- Behind the last chunk come the trailer and the empty line. -/
structure ChunkedBody where
  chunks : List Chunk
  last : SizeLine 0
  trailer : List UInt8

def ChunkedBody.bytes (body : ChunkedBody) : List UInt8 :=
  body.chunks.flatMap Chunk.bytes ++ (body.last.bytes ++ (lineMark.bytes ++ body.trailer))

/-- What the chunks carry. -/
def ChunkedBody.data (body : ChunkedBody) : List UInt8 := body.chunks.flatMap Chunk.data

/-- A response with any head that gives the status and announces the coding. -/
structure ChunkedResponse (tables : CaseTables) where
  statusLine : List UInt8
  fields : List (List UInt8)
  body : ChunkedBody
  status : UInt16
  lines_clear : ∀ line ∈ statusLine :: fields, 13 ∉ line
  fields_some : ∀ line ∈ fields, line ≠ []
  status_read : (words (fromUtf8Lossy statusLine))[1]?.bind parseU16 = some status
  announced : ∃ field ∈ fields, announcesChunked tables (fromUtf8Lossy field) = true

def ChunkedResponse.bytes {tables : CaseTables} (response : ChunkedResponse tables) :
    List UInt8 :=
  joined 13 10 response.statusLine response.fields ++ (headEnd.bytes ++ response.body.bytes)

section Line

variable {size : Nat}

private theorem cr_ascii : (13 : UInt8).toNat < 128 := by decide

private theorem lf_ascii : (10 : UInt8).toNat < 128 := by decide

/-- What a line end stands between stays apart in the text. -/
theorem repaired_line (front behind : List UInt8) :
    repaired (front ++ (lineMark.bytes ++ behind)) =
      repaired front ++ (lineMark.bytes ++ repaired behind) := by
  have second := Utf8.repaired_append_ascii [] behind lf_ascii
  have first := Utf8.repaired_append_ascii front (10 :: behind) cr_ascii
  rw [List.nil_append] at second
  rw [second] at first
  exact first

theorem SizeLine.chars (line : SizeLine size) :
    fromUtf8Lossy line.bytes = line.digits ++ (line.padding ++ fromUtf8Lossy line.extension) := by
  rw [SizeLine.bytes, Utf8.fromUtf8Lossy_encode_append, List.append_assoc]

/-- The reader finds the digits, and only them, in front of the extension. -/
theorem SizeLine.token (line : SizeLine size) :
    chunkToken (fromUtf8Lossy line.bytes) = line.digits := by
  have extension : (fromUtf8Lossy line.extension).takeWhile (· != ';') = [] := by
    rcases line.extension_set_off with none_ | ⟨more, same⟩
    · rw [none_]
      rfl
    · have ascii : (59 : UInt8).toNat < 128 := by decide
      have semicolon := Utf8.fromUtf8Lossy_append_ascii [] more ascii
      rw [List.nil_append, Utf8.fromUtf8Lossy_nil, List.nil_append] at semicolon
      rw [same, semicolon]
      rfl
  have digits : ∀ c ∈ line.digits, (c != ';') = true := by
    intro c member
    rw [bne_iff_ne]
    rintro rfl
    exact Radix.not_mem_of_hexValue line.digits_value rfl member
  have padding : ∀ c ∈ line.padding, (c != ';') = true ∧ isWhitespace c = true := by
    intro c member
    rcases line.padding_blank c member with rfl | rfl <;> exact ⟨rfl, rfl⟩
  rw [chunkToken, line.chars, List.takeWhile_append_of_pos digits,
    List.takeWhile_append_of_pos fun c member => (padding c member).1, extension, List.append_nil]
  exact Text.trim_append_blank (Radix.solid_of_hexValue line.digits_value)
    fun c member => (padding c member).2

theorem SizeLine.clear (line : SizeLine size) : 13 ∉ repaired line.bytes := by
  intro member
  have there := Utf8.mem_of_repaired cr_ascii member
  rcases List.mem_append.mp there with digits | extension
  · have char := Utf8.mem_of_ascii digits (by decide)
    rcases List.mem_append.mp char with digit | padding
    · exact Radix.not_mem_of_hexValue line.digits_value rfl digit
    · rcases line.padding_blank _ padding with same | same <;> exact absurd same (by decide)
  · exact line.extension_clear extension

/-- Where such a line stands in the text, a chunk of its size begins. -/
theorem SizeLine.cut (line : SizeLine size) {body rest : List UInt8} {cursor : Nat}
    (from_ : body.drop cursor = repaired line.bytes ++ (lineMark.bytes ++ rest)) :
    splitAround lineMark.bytes (body.drop cursor) = some (repaired line.bytes, rest) := by
  rw [from_]
  exact Text.splitAround_first line.clear rest

theorem SizeLine.header (line : SizeLine size) {bits : Nat} {body rest : List UInt8} {cursor : Nat}
    (from_ : body.drop cursor = repaired line.bytes ++ (lineMark.bytes ++ rest))
    (positive : 0 < size) (fits : size < 2 ^ bits) :
    Header bits body cursor (cursor + (repaired line.bytes).length + 2) size := by
  refine ⟨_, rest, line.cut from_, ?_, positive, rfl⟩
  rw [repaired, Utf8.fromUtf8Lossy_encode, line.token,
    Radix.fromStrRadix16_of_hexValue line.digits_value line.digits_some]
  exact ⟨rfl, fits⟩

/-- It announces no other size. -/
theorem SizeLine.announces (line : SizeLine size) {bits : Nat} {body rest : List UInt8}
    {cursor start other : Nat}
    (from_ : body.drop cursor = repaired line.bytes ++ (lineMark.bytes ++ rest))
    (header : Header bits body cursor start other) : other = size := by
  obtain ⟨line', rest', cut, announced, _, rfl⟩ := header
  rw [line.cut from_] at cut
  cases cut
  rw [repaired, Utf8.fromUtf8Lossy_encode, line.token,
    Radix.fromStrRadix16_of_hexValue line.digits_value line.digits_some] at announced
  exact announced.1

/-- The last chunk begins no other. -/
theorem SizeLine.no_header (line : SizeLine 0) {bits : Nat} {body rest : List UInt8} {cursor : Nat}
    (from_ : body.drop cursor = repaired line.bytes ++ (lineMark.bytes ++ rest))
    (start size : Nat) : ¬Header bits body cursor start size := by
  intro header
  have zero := line.announces from_ header
  obtain ⟨_, _, _, _, positive, _⟩ := header
  omega

end Line

section Body

variable {bits : Nat} {overflowChecks : Bool} {body out text : Str} {cursor : Nat}

/-- The rest of a chunked body, as it stands in the text. -/
private theorem repaired_chunk (chunk : Chunk) (rest : List UInt8) :
    repaired (chunk.bytes ++ rest) = repaired chunk.line.bytes ++ (lineMark.bytes ++
      (repaired chunk.data ++ (lineMark.bytes ++ repaired rest))) := by
  rw [Chunk.bytes, List.append_assoc, List.append_assoc, List.append_assoc, repaired_line,
    repaired_line]

private theorem lt_of_line {front rest : List UInt8}
    (from_ : body.bytes.drop cursor = front ++ (lineMark.bytes ++ rest)) : cursor < body.len := by
  have lengths := congrArg List.length from_
  have two : lineMark.bytes.length = 2 := rfl
  rw [List.length_drop, List.length_append, List.length_append, two] at lengths
  rw [Str.len]
  omega

/-- A chunk that ends within a character is not passed on: what is taken for it is a text of the
same length. -/
private theorem valid_of_dechunkFrom {chunk : Chunk} {rest more : List UInt8}
    (short : body.len < 2 ^ bits)
    (from_ : body.bytes.drop cursor = repaired (chunk.bytes ++ rest))
    (done : dechunkFrom bits overflowChecks body cursor out = .ok text)
    (same : text.bytes = out.bytes ++ (chunk.data ++ more)) : Valid chunk.data := by
  rw [repaired_chunk] at from_
  have inside := lt_of_line from_
  cases turn : takeChunk bits overflowChecks body cursor with
  | error panic =>
      rw [dechunkFrom_error inside turn] at done
      cases done
  | ok taken =>
      cases taken with
      | none =>
          rw [dechunkFrom_none inside turn] at done
          cases done
          rw [List.self_eq_append_right, List.append_eq_nil_iff] at same
          exact absurd same.1 chunk.data_some
      | some part =>
          obtain ⟨piece, next⟩ := part
          obtain ⟨start, size, header, _, sliced, rfl⟩ := announced_of_takeChunk short turn
          obtain ⟨_, _, whole, taken⟩ := Str.of_slice sliced
          have length : piece.bytes.length = chunk.data.length := by
            have fits := Str.le_of_isBoundary whole
            rw [Str.len] at fits
            rw [taken, ← chunk.line.announces from_ header, List.length_drop,
              List.length_take_of_le fits, Nat.add_sub_cancel_left]
          rw [dechunkFrom_some inside turn] at done
          have front := dechunkFrom_prefix done
          rw [same, Str.bytes_append, List.prefix_append_right_inj] at front
          have equal : piece.bytes = chunk.data :=
            (List.prefix_of_prefix_length_le front (List.prefix_append _ _)
              (Nat.le_of_eq length)).eq_of_length length
          rw [← equal]
          exact piece.valid

variable (overflowChecks out) in
/-- A chunk that is a text of its own is taken whole, and the loop goes on behind it. -/
private theorem dechunkFrom_chunk {chunk : Chunk} {rest : List UInt8} (short : body.len < 2 ^ bits)
    (boundary : body.isBoundary cursor = true)
    (from_ : body.bytes.drop cursor = repaired (chunk.bytes ++ rest)) (valid : Valid chunk.data) :
    ∃ piece next, dechunkFrom bits overflowChecks body cursor out =
        dechunkFrom bits overflowChecks body next (out.append piece) ∧
      piece.bytes = chunk.data ∧ body.isBoundary next = true ∧
      body.bytes.drop next = repaired rest := by
  rw [repaired_chunk, valid.repaired] at from_
  have inside := lt_of_line from_
  have line := Utf8.valid_repaired chunk.line.bytes
  have behind := Utf8.valid_repaired rest
  have from_data : body.bytes.drop cursor = (repaired chunk.line.bytes ++ lineMark.bytes) ++
      (chunk.data ++ (lineMark.bytes ++ repaired rest)) := by
    rw [from_, List.append_assoc]
  have from_end : body.bytes.drop cursor =
      (repaired chunk.line.bytes ++ lineMark.bytes ++ chunk.data) ++
        (lineMark.bytes ++ repaired rest) := by
    rw [from_data, List.append_assoc _ chunk.data]
  have from_next : body.bytes.drop cursor =
      (repaired chunk.line.bytes ++ lineMark.bytes ++ chunk.data ++ lineMark.bytes) ++
        repaired rest := by
    rw [from_end, List.append_assoc _ lineMark.bytes (repaired rest)]
  have whole := Str.isBoundary_of_drop boundary from_end ((line.append lineMark.valid).append valid)
    (lineMark.valid.append behind)
  have after := Str.isBoundary_of_drop boundary from_next
    (((line.append lineMark.valid).append valid).append lineMark.valid) behind
  have drop_data := Checked.drop_of_front _ from_data
  have drop_next := Checked.drop_of_front _ from_next
  have two : lineMark.bytes.length = 2 := rfl
  simp only [List.length_append, two, ← Nat.add_assoc] at whole after drop_data drop_next
  have fits := Nat.lt_of_le_of_lt (Str.le_of_isBoundary whole) short
  have small : chunk.data.length < 2 ^ bits := by omega
  have header := chunk.line.header from_ (List.length_pos_iff.mpr chunk.data_some) small
  obtain ⟨piece, turn, taken⟩ := takeChunk_inside overflowChecks boundary header fits whole
  refine ⟨piece, _, dechunkFrom_some inside turn, ?_, after, drop_next⟩
  rw [taken, List.drop_take, Nat.add_sub_cancel_left, drop_data, List.take_left]

private theorem dechunkFrom_chunks_iff {chunks : List Chunk} {last : SizeLine 0}
    {trailer : List UInt8} (short : body.len < 2 ^ bits) (boundary : body.isBoundary cursor = true)
    (from_ : body.bytes.drop cursor =
      repaired (chunks.flatMap Chunk.bytes ++ (last.bytes ++ (lineMark.bytes ++ trailer)))) :
    (∃ text, dechunkFrom bits overflowChecks body cursor out = .ok text ∧
        text.bytes = out.bytes ++ chunks.flatMap Chunk.data) ↔
      ∀ chunk ∈ chunks, Valid chunk.data := by
  induction chunks generalizing cursor out with
  | nil =>
      rw [List.flatMap_nil, List.nil_append, repaired_line] at from_
      have turn : takeChunk bits overflowChecks body cursor = .ok none :=
        takeChunk_none overflowChecks boundary (last.no_header from_)
      refine iff_of_true ⟨out, dechunkFrom_none (lt_of_line from_) turn, ?_⟩ ?_
      · rw [List.flatMap_nil, List.append_nil]
      · intro chunk impossible
        cases impossible
  | cons chunk chunks ih =>
      rw [List.flatMap_cons, List.append_assoc] at from_
      -- The first chunk being valid, the question is that of the others.
      have later (valid : Valid chunk.data) :
          (∃ text, dechunkFrom bits overflowChecks body cursor out = .ok text ∧
              text.bytes = out.bytes ++ (chunk :: chunks).flatMap Chunk.data) ↔
            ∀ chunk ∈ chunks, Valid chunk.data := by
        obtain ⟨piece, next, step, taken, boundary', from_next⟩ :=
          dechunkFrom_chunk overflowChecks out short boundary from_ valid
        have others : (∃ text, dechunkFrom bits overflowChecks body next (out.append piece) =
            .ok text ∧ text.bytes = (out.append piece).bytes ++ chunks.flatMap Chunk.data) ↔
              ∀ chunk ∈ chunks, Valid chunk.data := ih boundary' from_next
        rw [step, ← others, List.flatMap_cons, Str.bytes_append, taken, List.append_assoc]
      rw [List.forall_mem_cons]
      constructor
      · rintro ⟨text, done, same⟩
        have valid : Valid chunk.data := valid_of_dechunkFrom short from_ done same
        exact ⟨valid, (later valid).mp ⟨text, done, same⟩⟩
      · rintro ⟨valid, others⟩
        exact (later valid).mpr others

end Body

section Response

variable {bits : Nat} {overflowChecks : Bool} {tables : CaseTables}

private theorem repaired_joined (line : List UInt8) (lines : List (List UInt8))
    (behind : List UInt8) :
    repaired (joined 13 10 line lines ++ (lineMark.bytes ++ behind)) =
      joined 13 10 (repaired line) (lines.map repaired) ++ (lineMark.bytes ++ repaired behind) := by
  induction lines generalizing line with
  | nil =>
      simp only [joined, List.flatMap_nil, List.append_nil, List.map_nil]
      exact repaired_line line behind
  | cons next lines ih =>
      have first := repaired_line line (joined 13 10 next lines ++ (lineMark.bytes ++ behind))
      rw [ih] at first
      rw [Text.joined_cons, List.append_assoc, List.map_cons, Text.joined_cons, List.append_assoc]
      exact first

private theorem chars_joined {line : List UInt8} {lines : List (List UInt8)} :
    fromUtf8Lossy (joined 13 10 (repaired line) (lines.map repaired)) =
      joined '\r' '\n' (fromUtf8Lossy line) (lines.map fromUtf8Lossy) := by
  induction lines generalizing line with
  | nil =>
      simp only [joined, List.flatMap_nil, List.append_nil, List.map_nil]
      exact Utf8.fromUtf8Lossy_encode _
  | cons next lines ih =>
      have second := Utf8.fromUtf8Lossy_append_ascii []
        (joined 13 10 (repaired next) (lines.map repaired)) lf_ascii
      rw [List.nil_append] at second
      rw [List.map_cons, Text.joined_cons, Utf8.fromUtf8Lossy_append_ascii _ _ cr_ascii, second,
        ih, repaired, Utf8.fromUtf8Lossy_encode, List.map_cons, Text.joined_cons]
      rfl

/-- The reader finds the head and the body of the response. -/
theorem ChunkedResponse.parts (response : ChunkedResponse tables) :
    Parts tables response.bytes response.status true (repaired response.body.bytes) := by
  have clear :
      ∀ line ∈ repaired response.statusLine :: response.fields.map repaired, 13 ∉ line := by
    rw [← List.map_cons]
    intro line member there
    obtain ⟨line', member', rfl⟩ := List.mem_map.mp member
    exact response.lines_clear line' member' (Utf8.mem_of_repaired (by decide) there)
  have nonempty : ∀ line ∈ response.fields.map repaired, line ≠ [] := by
    intro line member empty
    obtain ⟨line', member', rfl⟩ := List.mem_map.mp member
    have chars : fromUtf8Lossy line' = [] := by
      rw [← Utf8.fromUtf8Lossy_encode (fromUtf8Lossy line')]
      exact congrArg fromUtf8Lossy empty
    exact Utf8.fromUtf8Lossy_ne_nil (response.fields_some line' member') chars
  have clear_chars :
      ∀ line ∈ fromUtf8Lossy response.statusLine :: response.fields.map fromUtf8Lossy,
        '\r' ∉ line := by
    rw [← List.map_cons]
    intro line member there
    obtain ⟨line', member', rfl⟩ := List.mem_map.mp member
    exact response.lines_clear line' member'
      (Utf8.mem_of_fromUtf8Lossy cr_ascii there)
  have whole : repaired response.bytes =
      joined 13 10 (repaired response.statusLine) (response.fields.map repaired) ++
        (headEnd.bytes ++ repaired response.body.bytes) := by
    have line_end := repaired_line [] response.body.bytes
    rw [List.nil_append] at line_end
    have head := repaired_joined response.statusLine response.fields
      (lineMark.bytes ++ response.body.bytes)
    rw [line_end] at head
    exact head
  refine ⟨joined 13 10 (repaired response.statusLine) (response.fields.map repaired),
    fromUtf8Lossy response.statusLine, response.fields.map fromUtf8Lossy, ?_, ?_,
    response.status_read, ?_⟩
  · rw [whole]
    exact Text.splitAround_joined (by decide) clear nonempty _
  · rw [chars_joined, Text.splitEvery_joined clear_chars]
  · rw [List.any_map, List.any_eq_true]
    exact response.announced

variable (overflowChecks) in
/-- The response is read as what its chunks carry exactly when the loop gives that. -/
private theorem parseResponse_loop (response : ChunkedResponse tables)
    (short : (repaired response.bytes).length < 2 ^ bits) :
    ∃ body : Str, body.len < 2 ^ bits ∧ body.bytes.drop 0 = repaired response.body.bytes ∧
      ((∃ text : Str, parseResponse bits overflowChecks tables response.bytes =
          .ok (.ok (response.status, text)) ∧ text.bytes = response.body.data) ↔
        ∃ text, dechunkFrom bits overflowChecks body 0 (.ofChars []) = .ok text ∧
          text.bytes = response.body.data) := by
  obtain ⟨body, same, parsed⟩ := parseResponse_of_parts bits overflowChecks response.parts
  refine ⟨body, ?_, ?_, ?_⟩
  · rw [Str.len, same]
    exact response.parts.length_lt short
  · rw [List.drop_zero]
    exact same
  · rw [parsed, if_pos rfl, dechunk]
    cases dechunkFrom bits overflowChecks body 0 (.ofChars []) with
    | error panic =>
        simp only [Checked.error_bind, reduceCtorEq, false_and]
    | ok text =>
        simp only [Checked.ok_bind, Except.ok.injEq, Prod.mk.injEq, true_and]

/-- In every build and for every width of `usize`, what the chunks carry comes back exactly when
none of them ends within a character; the text is not too long for its positions. -/
theorem parseResponse_chunked_iff (response : ChunkedResponse tables)
    (short : (repaired response.bytes).length < 2 ^ bits) :
    (∃ text : Str, parseResponse bits overflowChecks tables response.bytes =
        .ok (.ok (response.status, text)) ∧ text.bytes = response.body.data) ↔
      ∀ chunk ∈ response.body.chunks, Valid chunk.data := by
  obtain ⟨body, fits, from_, loop⟩ := parseResponse_loop overflowChecks response short
  rw [loop]
  exact dechunkFrom_chunks_iff fits (Str.isBoundary_zero body) from_

end Response

/-- A line that gives a size in one digit. -/
def digitLine (size : Nat) (digit : Char) (value : hexValue [digit] = some size) :
    SizeLine size where
  digits := [digit]
  padding := []
  extension := []
  digits_some := List.cons_ne_nil _ _
  digits_value := value
  padding_blank _ impossible := by cases impossible
  extension_clear impossible := by cases impossible
  extension_set_off := Or.inl rfl

def okResponse (chunks : List Chunk) : ChunkedResponse Lowercase.asciiTables where
  statusLine := encode "HTTP/1.1 200 OK".toList
  fields := [encode "Transfer-Encoding: chunked".toList]
  body :=
    { chunks := chunks
      last := digitLine 0 '0' rfl
      trailer := lineMark.bytes }
  status := 200
  lines_clear := by decide +kernel
  fields_some := by decide +kernel
  status_read := by decide +kernel
  announced := by decide +kernel

/-- The two bytes of an accented letter, in one chunk or in two. -/
def accentWhole : List Chunk := [⟨[0xC3, 0xA9], List.cons_ne_nil _ _, digitLine 2 '2' rfl⟩]

def accentSplit : List Chunk :=
  [⟨[0xC3], List.cons_ne_nil _ _, digitLine 1 '1' rfl⟩,
    ⟨[0xA9], List.cons_ne_nil _ _, digitLine 1 '1' rfl⟩]

theorem accent_whole_kept :
    (repaired (okResponse accentWhole).bytes).length < 2 ^ 64 ∧
    ∃ text : Str, parseResponse 64 false Lowercase.asciiTables (okResponse accentWhole).bytes =
      .ok (.ok (200, text)) ∧ text.bytes = [0xC3, 0xA9] := by
  have short : (repaired (okResponse accentWhole).bytes).length < 2 ^ 64 := by decide +kernel
  refine ⟨short, (parseResponse_chunked_iff (okResponse accentWhole) short).mpr ?_⟩
  intro chunk member
  rw [List.mem_singleton.mp member]
  exact ⟨['é'], by decide +kernel⟩

/-- The second byte of the letter comes in a chunk of its own, and the letter is lost. -/
theorem accent_split_lost :
    ¬ ∀ response : ChunkedResponse Lowercase.asciiTables,
      (repaired response.bytes).length < 2 ^ 64 → Valid response.body.data →
        ∃ text : Str, parseResponse 64 false Lowercase.asciiTables response.bytes =
          .ok (.ok (response.status, text)) ∧ text.bytes = response.body.data := by
  intro always
  have short : (repaired (okResponse accentSplit).bytes).length < 2 ^ 64 := by decide +kernel
  have read := always (okResponse accentSplit) short ⟨['é'], by decide +kernel⟩
  obtain ⟨body, fits, from_, loop⟩ := parseResponse_loop false (okResponse accentSplit) short
  have every := (dechunkFrom_chunks_iff fits (Str.isBoundary_zero body) from_).mp (loop.mp read)
  have first := (every _ List.mem_cons_self).repaired
  revert first
  decide +kernel

end MolidoVpn.Account
