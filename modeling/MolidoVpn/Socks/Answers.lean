import MolidoVpn.Socks.Records
import MolidoVpn.Tun.Words

/-!
The three readers of the answer section: `parse_dns_a` of `socks.rs`, `parse_https_ech` of `dns.rs`
and `first_txt_record` of `exitip.rs`, with every index and slice that they take. They differ in
how they skip a name and in what they do with a record. A position never gets further than six
bytes behind the message, so that no addition overflows.
-/

namespace MolidoVpn.Dns

open Checked (Panic Safe get slice)
open Tun (byteAt wordAt wordBytes qtypeTxt txtStrings firstTxtFrom firstTxtRecord word word_of_lt
  word_of_front)
open Utf8 (fromUtf8Lossy)

/-- `skip_name` of `socks.rs` and of `dns.rs`; `buf.get(pos)?` is no index. -/
def skipName (buf : List UInt8) (pos : Nat) : Option Nat :=
  if inside : pos < buf.length then
    let len := buf[pos]
    if len &&& 0xc0 = 0xc0 then some (pos + 2)
    else if len = 0 then some (pos + 1)
    else skipName buf (pos + 1 + len.toNat)
  else none
termination_by buf.length - pos

/-- The walk over the questions. -/
def skipAsked (skip : Nat → Option Nat) : Nat → Nat → Option Nat
  | 0, pos => some pos
  | count + 1, pos => (skip pos).bind fun pos => skipAsked skip count (pos + 4)

variable {α : Type}

/-- The walk over the answers. Of a record the reader gets the type and where its data starts and
stops; what it returns ends the walk, unless that is nothing. -/
def walkAnswers (skip : Nat → Option Nat)
    (read : UInt16 → Nat → Nat → Except Panic (Option (Option α))) (msg : List UInt8) :
    Nat → Nat → Except Panic (Option α)
  | 0, _ => return none
  | count + 1, pos =>
      match skip pos with
      | none => return none
      | some pos =>
          if pos + 10 > msg.length then return none
          else do
            let rtype ← word msg pos
            let rdlen ← word msg (pos + 8)
            let start := pos + 10
            let stop := start + rdlen.toNat
            if stop > msg.length then return none
            else
              let done ← read rtype start stop
              match done with
              | some answer => return answer
              | none => walkAnswers skip read msg count stop

def readAnswers (skip : Nat → Option Nat)
    (read : UInt16 → Nat → Nat → Except Panic (Option (Option α))) (msg : List UInt8) :
    Except Panic (Option α) :=
  if msg.length < 12 then return none
  else do
    let qd ← word msg 4
    let an ← word msg 6
    match skipAsked skip qd.toNat 12 with
    | none => return none
    | some pos => walkAnswers skip read msg an.toNat pos

def aRecord (msg : List UInt8) (rtype : UInt16) (start stop : Nat) :
    Except Panic (Option (Option IpAddr)) :=
  if rtype = typeA ∧ stop - start = 4 then do
    let a ← get msg start
    let b ← get msg (start + 1)
    let c ← get msg (start + 2)
    let d ← get msg (start + 3)
    return some (some (.v4 ⟨a, b, c, d⟩))
  else return none

def parseDnsA (resp : List UInt8) : Except Panic (Option IpAddr) :=
  readAnswers (skipName resp) (aRecord resp) resp

/-- The walk over the parameters of a record. -/
def echParam (msg : List UInt8) (stop pos : Nat) : Except Panic (Option (List UInt8)) :=
  if _more : pos + 4 ≤ stop then do
    let key ← word msg pos
    let len ← word msg (pos + 2)
    let start := pos + 4
    if start + len.toNat > stop then return none
    else if key = keyEch then
      let value ← slice msg start (start + len.toNat)
      return some value.1
    else echParam msg stop (start + len.toNat)
  else return none
termination_by stop - pos

def parseSvcparamsEch (msg : List UInt8) (rdataStart rdlen : Nat) :
    Except Panic (Option (List UInt8)) :=
  let stop := rdataStart + rdlen
  if rdataStart + 2 > stop then return none
  else
    match skipName msg (rdataStart + 2) with
    | none => return none
    | some pos => echParam msg stop pos

def echRecord (msg : List UInt8) (rtype : UInt16) (start stop : Nat) :
    Except Panic (Option (Option (List UInt8))) :=
  if rtype = typeHttps then do
    let ech ← parseSvcparamsEch msg start (stop - start)
    return ech.map some
  else return none

def parseHttpsEch (msg : List UInt8) : Except Panic (Option (List UInt8)) :=
  readAnswers (skipName msg) (echRecord msg) msg

/-- The walk over the strings of a record, with what it has read. -/
def txtStringsAt (msg : List UInt8) (stop : Nat) (out : List Char) (pos : Nat) :
    Except Panic (Option (List Char)) :=
  if _more : pos < stop then do
    let len ← get msg pos
    let next := pos + 1 + len.toNat
    if next > stop then return none
    else
      let part ← slice msg (pos + 1) next
      txtStringsAt msg stop (out ++ fromUtf8Lossy part.1) next
  else return some out
termination_by stop - pos

def txtRecord (msg : List UInt8) (rtype : UInt16) (start stop : Nat) :
    Except Panic (Option (Option (List Char))) :=
  if rtype = qtypeTxt then do
    let out ← txtStringsAt msg stop [] start
    return some (out.filter fun out => !out.isEmpty)
  else return none

/-- `first_txt_record`, of which `firstTxtRecord` takes no index that could fail. -/
def firstTxtRecordAt (msg : List UInt8) : Except Panic (Option (List Char)) :=
  readAnswers (Tun.skipName msg) (txtRecord msg) msg

section Garbage

variable {msg : List UInt8} {pos start stop : Nat}

/-- A reader that stays inside of a record whatever the record holds. -/
def Contained (read : UInt16 → Nat → Nat → Except Panic (Option (Option α)))
    (msg : List UInt8) : Prop :=
  ∀ rtype start stop, start ≤ stop → stop ≤ msg.length → Safe (read rtype start stop)

theorem safe_walkAnswers {skip : Nat → Option Nat}
    {read : UInt16 → Nat → Nat → Except Panic (Option (Option α))} (contained : Contained read msg)
    (count pos : Nat) : Safe (walkAnswers skip read msg count pos) := by
  induction count generalizing pos with
  | zero => exact Checked.safe_ok none
  | succ count ih =>
      rw [walkAnswers]
      cases skip pos with
      | none => exact Checked.safe_ok none
      | some pos =>
          dsimp only
          split
          · exact Checked.safe_ok none
          · rw [word_of_lt (by omega), word_of_lt (by omega)]
            change Safe (if _ then _ else _)
            split
            · exact Checked.safe_ok none
            · obtain ⟨done, taken⟩ := contained (wordAt msg pos) (pos + 10)
                (pos + 10 + (wordAt msg (pos + 8)).toNat) (by omega) (by omega)
              rw [Checked.safe_bind taken]
              cases done with
              | none => exact ih _
              | some answer => exact Checked.safe_ok answer

theorem safe_readAnswers {skip : Nat → Option Nat}
    {read : UInt16 → Nat → Nat → Except Panic (Option (Option α))}
    (contained : Contained read msg) : Safe (readAnswers skip read msg) := by
  unfold readAnswers
  split
  · exact Checked.safe_ok none
  · rw [word_of_lt (by omega), word_of_lt (by omega)]
    change Safe (match skipAsked skip _ 12 with | none => _ | some pos => _)
    split
    · exact Checked.safe_ok none
    · exact safe_walkAnswers contained _ _

theorem contained_aRecord (msg : List UInt8) : Contained (aRecord msg) msg := by
  intro rtype start stop ordered inside
  unfold aRecord
  split
  · rw [Checked.get_of_lt 0 (by omega), Checked.get_of_lt 0 (by omega),
      Checked.get_of_lt 0 (by omega), Checked.get_of_lt 0 (by omega)]
    exact Checked.safe_ok _
  · exact Checked.safe_ok _

theorem safe_echParam (inside : stop ≤ msg.length) (pos : Nat) : Safe (echParam msg stop pos) := by
  induction pos using echParam.induct stop with
  | case1 pos more ih =>
      rw [echParam, dif_pos more, word_of_lt (by omega), word_of_lt (by omega)]
      change Safe (if _ then _ else _)
      split
      · exact Checked.safe_ok none
      · rename_i within
        split
        · obtain ⟨value, taken, _⟩ := Checked.slice_of_le msg (pos + 4)
            (pos + 4 + (wordAt msg (pos + 2)).toNat) (by omega) (by omega)
          rw [Checked.safe_bind taken]
          exact Checked.safe_ok _
        · exact ih (wordAt msg (pos + 2)) within
  | case2 pos done =>
      rw [echParam, dif_neg done]
      exact Checked.safe_ok none

theorem contained_echRecord (msg : List UInt8) : Contained (echRecord msg) msg := by
  intro rtype start stop ordered inside
  unfold echRecord
  split
  · rw [Checked.safe_map]
    unfold parseSvcparamsEch
    dsimp only
    split
    · exact Checked.safe_ok none
    · split
      · exact Checked.safe_ok none
      · exact safe_echParam (by omega) _
  · exact Checked.safe_ok _

theorem txtStringsAt_eq (inside : stop ≤ msg.length) {turns : Nat} :
    ∀ out pos, stop - pos < turns →
      txtStringsAt msg stop out pos = .ok ((txtStrings msg stop turns pos).map (out ++ ·)) := by
  induction turns with
  | zero =>
      intro out pos short
      omega
  | succ turns ih =>
      intro out pos enough
      rw [txtStringsAt, txtStrings]
      by_cases more : pos < stop
      · rw [dif_pos more, if_pos more, Checked.get_of_lt 0 (by omega)]
        change (if pos + 1 + (byteAt msg pos).toNat > stop then _ else _) = _
        dsimp only
        by_cases long : pos + 1 + (byteAt msg pos).toNat > stop
        · rw [if_pos long, if_pos long]
          rfl
        · obtain ⟨⟨part, _⟩, taken, rfl⟩ := Checked.slice_of_le msg (pos + 1)
            (pos + 1 + (byteAt msg pos).toNat) (by omega) (by omega)
          rw [if_neg long, if_neg long, show msg.getD pos 0 = byteAt msg pos from rfl, taken]
          change txtStringsAt msg stop _ _ = _
          rw [ih _ _ (by omega), Option.map_map]
          congr 2
          funext later
          exact List.append_assoc _ _ _
      · rw [dif_neg more, if_neg more, Option.map_some, List.append_nil]
        rfl

theorem walkAnswers_txtRecord (msg : List UInt8) (count pos : Nat) :
    walkAnswers (Tun.skipName msg) (txtRecord msg) msg count pos =
      .ok (firstTxtFrom msg count pos) := by
  induction count generalizing pos with
  | zero => rfl
  | succ count ih =>
      rw [walkAnswers, firstTxtFrom]
      cases Tun.skipName msg pos with
      | none => rfl
      | some pos =>
          dsimp only
          by_cases short : pos + 10 > msg.length
          · rw [if_pos short, if_pos short]
            rfl
          · rw [if_neg short, if_neg short, word_of_lt (by omega), word_of_lt (by omega)]
            change (if pos + 10 + (wordAt msg (pos + 8)).toNat > msg.length then _ else _) = _
            by_cases long : pos + 10 + (wordAt msg (pos + 8)).toNat > msg.length
            · rw [if_pos long, if_pos long]
              rfl
            · rw [if_neg long, if_neg long, txtRecord]
              by_cases txt : wordAt msg pos = qtypeTxt
              · rw [if_pos txt, if_pos txt,
                  txtStringsAt_eq (Nat.le_of_not_lt long) [] (pos + 10)
                    (show _ < msg.length + 1 by omega)]
                change Except.ok (Option.filter _ (Option.map id _)) = _
                rw [Option.map_id, id]
              · rw [if_neg txt, if_neg txt]
                exact ih _

theorem skipAsked_eq (msg : List UInt8) (count pos : Nat) :
    skipAsked (Tun.skipName msg) count pos = Tun.skipQuestions msg count pos := by
  induction count generalizing pos with
  | zero => rfl
  | succ count ih =>
      rw [skipAsked, Tun.skipQuestions]
      congr 1
      funext pos
      exact ih (pos + 4)

/-- The reader of the exit address takes no index that is out of range. -/
theorem firstTxtRecordAt_eq (msg : List UInt8) :
    firstTxtRecordAt msg = .ok (firstTxtRecord msg) := by
  unfold firstTxtRecordAt readAnswers firstTxtRecord
  split
  · rfl
  · rw [word_of_lt (by omega), word_of_lt (by omega)]
    change (match skipAsked (Tun.skipName msg) (wordAt msg 4).toNat 12 with
      | none => _
      | some pos => _) = _
    rw [skipAsked_eq]
    cases Tun.skipQuestions msg (wordAt msg 4).toNat 12 with
    | none => rfl
    | some pos => exact walkAnswers_txtRecord msg _ pos

end Garbage

section WellFormed

variable {msg rest : List UInt8} {pos : Nat}

theorem getElem_of_front {byte : UInt8} (front : msg.drop pos = byte :: rest) :
    ∃ inside : pos < msg.length, msg[pos] = byte := by
  have taken := Checked.get_of_drop front
  unfold Checked.get at taken
  split at taken
  · rename_i found there
    cases taken
    exact List.getElem?_eq_some_iff.mp there
  · cases taken

theorem skipName_of_root (front : msg.drop pos = 0x00 :: rest) :
    skipName msg pos = some (pos + 1) := by
  obtain ⟨inside, first⟩ := getElem_of_front front
  rw [skipName, dif_pos inside, first]
  rfl

theorem skipName_of_pointer {high low : UInt8} (large : 192 ≤ high.toNat)
    (front : msg.drop pos = high :: low :: rest) : skipName msg pos = some (pos + 2) := by
  have bits : high &&& 0xc0 = 0xc0 := by
    have each : ∀ low < 64, (192 + low) &&& 192 = 192 := by decide
    have same := each (high.toNat - 192) (by have := high.toNat_lt; omega)
    rw [Nat.add_sub_cancel' large] at same
    apply UInt8.toNat_inj.mp
    rw [UInt8.toNat_and]
    exact same
  obtain ⟨inside, first⟩ := getElem_of_front front
  rw [skipName, dif_pos inside, first]
  exact if_pos bits

theorem skipName_of_label {label : List UInt8} (fit : Fits label)
    (front : msg.drop pos = labelBytes label ++ rest) :
    skipName msg pos = skipName msg (pos + (labelBytes label).length) := by
  have length : (UInt8.ofNat label.length).toNat = label.length :=
    toNat_length (by have := fit.2; omega)
  have bits : UInt8.ofNat label.length &&& 0xc0 ≠ 0xc0 := by
    have each : ∀ value < 64, value &&& 192 = 0 := by decide
    intro same
    have none_ := congrArg UInt8.toNat same
    rw [UInt8.toNat_and, length] at none_
    have zero := each label.length (by have := fit.2; omega)
    exact absurd (zero.symm.trans none_) (by decide)
  have some_ : UInt8.ofNat label.length ≠ 0 := by
    intro same
    have none_ := congrArg UInt8.toNat same
    rw [length] at none_
    have := fit.1
    exact absurd none_ (by change ¬label.length = 0; omega)
  obtain ⟨inside, first⟩ := getElem_of_front front
  rw [skipName, dif_pos inside, first]
  dsimp only
  rw [if_neg bits, if_neg some_, length, labelBytes, List.length_cons, Nat.add_assoc,
    Nat.add_comm 1]

theorem skipName_of_labels {labels : List (List UInt8)} (fits : ∀ label ∈ labels, Fits label)
    (front : msg.drop pos = labels.flatMap labelBytes ++ rest) :
    skipName msg pos = skipName msg (pos + (labels.flatMap labelBytes).length) := by
  induction labels generalizing pos with
  | nil => rfl
  | cons label labels ih =>
      rw [List.flatMap_cons, List.append_assoc] at front
      rw [skipName_of_label (fits label List.mem_cons_self) front,
        ih (fun other member => fits other (List.mem_cons_of_mem _ member))
          (Checked.drop_of_front _ front),
        List.flatMap_cons, List.length_append, Nat.add_assoc]

/-- A name is skipped up to its last byte, also when it is compressed. -/
theorem skipName_of_front (name : Name) (front : msg.drop pos = name.bytes ++ rest) :
    skipName msg pos = some (pos + name.bytes.length) := by
  rw [Name.bytes, List.append_assoc] at front
  have behind := Checked.drop_of_front _ front
  rw [skipName_of_labels name.fits front, Name.bytes, List.length_append, ← Nat.add_assoc]
  cases ending : name.ending with
  | root =>
      rw [ending] at behind
      exact skipName_of_root behind
  | pointer place =>
      rw [ending] at behind
      refine skipName_of_pointer ?_ behind
      rw [UInt8.toNat_ofNat']
      omega

/-- `skip_name` of `exitip.rs` differs where a name ends behind the message, and its turns are
enough. -/
theorem skipNameFrom_eq {turns : Nat} : ∀ pos, msg.length - pos < turns →
    Tun.skipNameFrom msg turns pos = (skipName msg pos).filter (· ≤ msg.length) := by
  induction turns with
  | zero =>
      intro pos short
      omega
  | succ turns ih =>
      intro pos enough
      rw [Tun.skipNameFrom, skipName]
      by_cases inside : pos < msg.length
      · rw [dif_pos inside, List.getElem?_eq_getElem inside]
        dsimp only
        by_cases pointer : msg[pos] &&& 0xc0 = 0xc0
        · rw [if_pos pointer, if_pos pointer]
        · rw [if_neg pointer, if_neg pointer]
          by_cases root : msg[pos] = 0
          · rw [if_pos root, if_pos root]
          · rw [if_neg root, if_neg root]
            by_cases behind : pos + 1 + msg[pos].toNat > msg.length
            · rw [if_pos behind, skipName, dif_neg (by omega), Option.filter_none]
            · rw [if_neg behind]
              exact ih _ (by omega)
      · rw [dif_neg inside, List.getElem?_eq_none (Nat.le_of_not_lt inside), Option.filter_none]

theorem skipName_exitIp (pos : Nat) :
    Tun.skipName msg pos = (skipName msg pos).filter (· ≤ msg.length) :=
  skipNameFrom_eq pos (by omega)

/-- What both ways to skip a name have in common. -/
def Skips (msg : List UInt8) (skip : Nat → Option Nat) : Prop :=
  ∀ (name : Name) (pos : Nat) (rest : List UInt8), pos ≤ msg.length →
    msg.drop pos = name.bytes ++ rest → skip pos = some (pos + name.bytes.length)

theorem skips_skipName (msg : List UInt8) : Skips msg (skipName msg) :=
  fun name _ _ _ front => skipName_of_front name front

theorem skips_exitIp (msg : List UInt8) : Skips msg (Tun.skipName msg) := by
  intro name pos rest inside front
  have lengths := Checked.length_of_front front inside
  rw [skipName_exitIp, skipName_of_front name front, Option.filter_some, if_pos]
  exact decide_eq_true (by omega)

/-- On a record whose data is in place the reader returns what `report` says. -/
def Reports (msg : List UInt8) (read : UInt16 → Nat → Nat → Except Panic (Option (Option α)))
    (report : Data → Option (Option α)) : Prop :=
  ∀ (data : Data) (start : Nat) (rest : List UInt8), start ≤ msg.length →
    msg.drop start = data.bytes ++ rest →
      read data.rtype start (start + data.bytes.length) = .ok (report data)

/-- The fields of a record between its name and its data. -/
def Record.fixed (record : Record) : List UInt8 :=
  wordBytes record.data.rtype ++ wordBytes record.rclass ++ wordBytes record.ttl.1 ++
    wordBytes record.ttl.2 ++ wordBytes (UInt16.ofNat record.data.bytes.length)

theorem length_fixed (record : Record) : record.fixed.length = 10 := rfl

theorem Record.bytes_eq (record : Record) :
    record.bytes = record.name.bytes ++ (record.fixed ++ record.data.bytes) := rfl

variable {skip : Nat → Option Nat}
  {read : UInt16 → Nat → Nat → Except Panic (Option (Option α))} {report : Data → Option (Option α)}

theorem walkAnswers_cons (skips : Skips msg skip) (reports : Reports msg read report)
    (record : Record) (inside : pos ≤ msg.length) (front : msg.drop pos = record.bytes ++ rest)
    (count : Nat) :
    walkAnswers skip read msg (count + 1) pos =
      match report record.data with
      | some answer => .ok answer
      | none => walkAnswers skip read msg count (pos + record.bytes.length) := by
  have whole := Checked.length_of_front front inside
  have place : pos + record.name.bytes.length + 10 + record.data.bytes.length =
      pos + record.bytes.length := by
    rw [Record.bytes_eq, List.length_append, List.length_append, length_fixed]
    omega
  rw [Record.bytes_eq, List.append_assoc, List.append_assoc] at front
  have fixed := Checked.drop_of_front _ front
  have data := Checked.drop_of_front _ fixed
  rw [length_fixed] at data
  have rtype : word msg (pos + record.name.bytes.length) = .ok record.data.rtype :=
    word_of_front fixed
  have rdlen : word msg (pos + record.name.bytes.length + 8) =
      .ok (UInt16.ofNat record.data.bytes.length) :=
    word_of_front (Checked.drop_of_front (wordBytes record.data.rtype ++
      wordBytes record.rclass ++ wordBytes record.ttl.1 ++ wordBytes record.ttl.2) fixed)
  have length : (UInt16.ofNat record.data.bytes.length).toNat = record.data.bytes.length := by
    rw [UInt16.toNat_ofNat', Nat.mod_eq_of_lt record.short]
  rw [walkAnswers, skips record.name pos _ inside front]
  dsimp only
  rw [if_neg (by omega), rtype, rdlen]
  change (if pos + record.name.bytes.length + 10 + (UInt16.ofNat _).toNat > msg.length
    then _ else _) = _
  rw [length, if_neg (by omega), reports record.data _ rest (by omega) data, ← place]
  cases report record.data with
  | none => rfl
  | some answer => rfl

theorem walkAnswers_records (skips : Skips msg skip) (reports : Reports msg read report)
    (records : List Record) (inside : pos ≤ msg.length)
    (front : msg.drop pos = records.flatMap Record.bytes ++ rest) :
    walkAnswers skip read msg records.length pos =
      .ok (records.findSome? fun record => report record.data).join := by
  induction records generalizing pos with
  | nil => rfl
  | cons record records ih =>
      rw [List.flatMap_cons, List.append_assoc] at front
      have whole := Checked.length_of_front front inside
      rw [List.length_cons, walkAnswers_cons skips reports record inside front,
        List.findSome?_cons]
      cases report record.data with
      | none => exact ih (by omega) (Checked.drop_of_front _ front)
      | some answer => rfl

theorem skipAsked_questions (skips : Skips msg skip) (questions : List Asked)
    (inside : pos ≤ msg.length)
    (front : msg.drop pos = questions.flatMap Asked.bytes ++ rest) :
    skipAsked skip questions.length pos =
      some (pos + (questions.flatMap Asked.bytes).length) := by
  induction questions generalizing pos with
  | nil => rfl
  | cons asked questions ih =>
      rw [List.flatMap_cons, List.append_assoc] at front
      have whole := Checked.length_of_front front inside
      have next := Checked.drop_of_front _ front
      have place : pos + asked.name.bytes.length + 4 = pos + asked.bytes.length := by
        rw [Asked.bytes, List.length_append, List.length_append, length_wordBytes,
          length_wordBytes]
        omega
      rw [Asked.bytes, List.append_assoc] at front
      rw [List.length_cons, skipAsked, skips asked.name pos _ inside front, Option.bind_some, place,
        ih (by omega) next, List.flatMap_cons, List.length_append, Nat.add_assoc]

/-- A reader returns what it reports first, whatever comes after the answers. -/
theorem readAnswers_response (response : Response) (skips : Skips response.bytes skip)
    (reports : Reports response.bytes read report) :
    readAnswers skip read response.bytes = .ok (response.first report).join := by
  have header : response.bytes.drop 0 =
      response.header ++ (response.questions.flatMap Asked.bytes ++
        (response.answers.flatMap Record.bytes ++ response.later)) := rfl
  have questions := Checked.drop_of_front _ header
  rw [show response.header.length = 12 from rfl, Nat.zero_add] at questions
  have twelve := Checked.length_of_front header (Nat.zero_le _)
  rw [show response.header.length = 12 from rfl] at twelve
  have whole := Checked.length_of_front questions (by omega)
  have qd : word response.bytes 4 = .ok (UInt16.ofNat response.questions.length) :=
    word_of_front (Checked.drop_of_front
      (wordBytes response.id ++ wordBytes response.flags) header)
  have an : word response.bytes 6 = .ok (UInt16.ofNat response.answers.length) :=
    word_of_front (Checked.drop_of_front (wordBytes response.id ++
      wordBytes response.flags ++ wordBytes (UInt16.ofNat response.questions.length)) header)
  unfold readAnswers
  rw [if_neg (by omega), qd, an]
  change (match skipAsked skip (UInt16.ofNat _).toNat 12 with
    | none => _
    | some pos => walkAnswers skip read _ (UInt16.ofNat _).toNat pos) = _
  rw [UInt16.toNat_ofNat', UInt16.toNat_ofNat', Nat.mod_eq_of_lt response.questionsShort,
    Nat.mod_eq_of_lt response.answersShort,
    skipAsked_questions skips response.questions (by omega) questions]
  exact walkAnswers_records skips reports response.answers (by omega)
    (Checked.drop_of_front _ questions)

theorem reports_aRecord (msg : List UInt8) :
    Reports msg (aRecord msg) fun data => (data.address.map IpAddr.v4).map some := by
  intro data start rest inside front
  unfold aRecord
  cases data with
  | a ip =>
      have second : msg.drop (start + 1) = ip.b :: ip.c :: ip.d :: rest :=
        Checked.drop_of_front [ip.a] front
      have third : msg.drop (start + 2) = ip.c :: ip.d :: rest :=
        Checked.drop_of_front [ip.b] second
      have fourth : msg.drop (start + 3) = ip.d :: rest :=
        Checked.drop_of_front [ip.c] third
      rw [if_pos ⟨rfl, Nat.add_sub_cancel_left _ _⟩, Checked.get_of_drop front,
        Checked.get_of_drop second, Checked.get_of_drop third, Checked.get_of_drop fourth]
      rfl
  | txt strings => exact if_neg fun here => (show typeTxt ≠ typeA by decide) here.1
  | https priority target params =>
      exact if_neg fun here => (show typeHttps ≠ typeA by decide) here.1
  | other rtype unread bytes => exact if_neg fun here => unread.1 here.1

theorem echParam_params (params : List Param) (inside : pos ≤ msg.length)
    (front : msg.drop pos = params.flatMap Param.bytes ++ rest) :
    echParam msg (pos + (params.flatMap Param.bytes).length) pos =
      .ok ((params.find? fun param => param.key = keyEch).map Param.value) := by
  induction params generalizing pos with
  | nil =>
      rw [echParam, dif_neg (by rw [List.flatMap_nil, List.length_nil]; omega)]
      rfl
  | cons param params ih =>
      rw [List.flatMap_cons, List.append_assoc] at front
      have whole := Checked.length_of_front front inside
      have length : param.bytes.length = 4 + param.value.length := by
        rw [Param.bytes, List.length_append]
        rfl
      have stop : pos + ((param :: params).flatMap Param.bytes).length =
          pos + param.bytes.length + (params.flatMap Param.bytes).length := by
        rw [List.flatMap_cons, List.length_append, Nat.add_assoc]
      have next := Checked.drop_of_front _ front
      rw [Param.bytes, List.append_assoc, List.append_assoc] at front
      have second := Checked.drop_of_front _ front
      have value := Checked.drop_of_front _ second
      have key : word msg pos = .ok param.key := word_of_front front
      have len : word msg (pos + 2) = .ok (UInt16.ofNat param.value.length) := word_of_front second
      have same : (UInt16.ofNat param.value.length).toNat = param.value.length := by
        rw [UInt16.toNat_ofNat', Nat.mod_eq_of_lt param.short]
      have place : pos + 4 + param.value.length = pos + param.bytes.length := by omega
      rw [stop, echParam, dif_pos (by omega), key, len]
      change (if pos + 4 + (UInt16.ofNat param.value.length).toNat > _ then _ else _) = _
      rw [same, if_neg (by omega)]
      by_cases ech : param.key = keyEch
      · obtain ⟨⟨part, _⟩, taken, rfl⟩ := Checked.slice_of_front value (by
          change pos + 2 + 2 ≤ msg.length
          omega)
        have found : (param :: params).find? (fun param => param.key = keyEch) = some param :=
          List.find?_cons_of_pos (decide_eq_true ech)
        rw [if_pos ech, found]
        change (Checked.slice msg (pos + 2 + 2) (pos + 2 + 2 + param.value.length) >>= _) = _
        rw [show Checked.slice msg (pos + 2 + 2) (pos + 2 + 2 + param.value.length) = _ from taken]
        rfl
      · have missed : (param :: params).find? (fun param => param.key = keyEch) =
            params.find? fun param => param.key = keyEch :=
          List.find?_cons_of_neg (by rw [decide_eq_true_eq]; exact ech)
        rw [if_neg ech, missed, place]
        exact ih (by omega) next

theorem reports_echRecord (msg : List UInt8) :
    Reports msg (echRecord msg) fun data => data.ech.map some := by
  intro data start rest inside front
  unfold echRecord
  cases data with
  | a ip => exact if_neg (show typeA ≠ typeHttps by decide)
  | txt strings => exact if_neg (show typeTxt ≠ typeHttps by decide)
  | https priority target params =>
      have whole := Checked.length_of_front front inside
      have length : (Data.https priority target params).bytes.length =
          2 + target.bytes.length + (params.flatMap Param.bytes).length := by
        rw [Data.bytes, List.length_append, List.length_append, length_wordBytes]
      rw [Data.bytes, List.append_assoc, List.append_assoc] at front
      have name := Checked.drop_of_front _ front
      have behind := Checked.drop_of_front _ name
      rw [length_wordBytes] at name behind
      have read : parseSvcparamsEch msg start (Data.https priority target params).bytes.length =
          .ok ((params.find? fun param => param.key = keyEch).map Param.value) := by
        unfold parseSvcparamsEch
        dsimp only
        rw [if_neg (by omega), skipName_of_front target name]
        have params_ := echParam_params params (by omega) behind
        rw [show start + 2 + target.bytes.length + (params.flatMap Param.bytes).length =
          start + (Data.https priority target params).bytes.length by omega] at params_
        exact params_
      rw [Nat.add_sub_cancel_left, read]
      exact if_pos rfl
  | other rtype unread bytes => exact if_neg unread.2.2

theorem txtStringsAt_strings (strings : List CharString) (out : List Char)
    (inside : pos ≤ msg.length)
    (front : msg.drop pos = (strings.flatMap fun string => labelBytes string.bytes) ++ rest) :
    txtStringsAt msg (pos + (strings.flatMap fun string => labelBytes string.bytes).length)
        out pos =
      .ok (some (out ++ strings.flatMap fun string => fromUtf8Lossy string.bytes)) := by
  induction strings generalizing pos out with
  | nil =>
      rw [txtStringsAt, dif_neg (by rw [List.flatMap_nil, List.length_nil]; omega),
        List.flatMap_nil, List.append_nil]
      rfl
  | cons string strings ih =>
      rw [List.flatMap_cons, List.append_assoc] at front
      have whole := Checked.length_of_front front inside
      have length : (labelBytes string.bytes).length = 1 + string.bytes.length := by
        rw [labelBytes, List.length_cons, Nat.add_comm]
      have next := Checked.drop_of_front _ front
      have value : msg.drop (pos + 1) = string.bytes ++
          ((strings.flatMap fun string => labelBytes string.bytes) ++ rest) :=
        Checked.drop_of_front [UInt8.ofNat string.bytes.length] front
      have place : pos + 1 + string.bytes.length = pos + (labelBytes string.bytes).length := by
        omega
      obtain ⟨⟨part, _⟩, taken, rfl⟩ := Checked.slice_of_front value (by omega)
      rw [List.flatMap_cons, List.length_append, ← Nat.add_assoc, txtStringsAt,
        dif_pos (by omega), Checked.get_of_drop front]
      change (if pos + 1 + (UInt8.ofNat _).toNat > _ then _ else _) = _
      rw [toNat_length string.short, if_neg (by omega), taken, place, List.flatMap_cons,
        ← List.append_assoc]
      exact ih _ (by omega) next

theorem reports_txtRecord (msg : List UInt8) :
    Reports msg (txtRecord msg) fun data =>
      data.text.map fun text => if text = [] then none else some text := by
  intro data start rest inside front
  unfold txtRecord
  cases data with
  | a ip => exact if_neg (show typeA ≠ qtypeTxt by decide)
  | txt strings =>
      rw [if_pos (show (Data.txt strings).rtype = qtypeTxt from rfl)]
      rw [show txtStringsAt msg (start + (Data.txt strings).bytes.length) [] start = _ from
        txtStringsAt_strings strings [] inside front, List.nil_append]
      change Except.ok (some (Option.filter _ (some _))) = Except.ok (some _)
      rw [Option.filter_some]
      cases strings.flatMap fun string => fromUtf8Lossy string.bytes with
      | nil => rfl
      | cons c text => rfl
  | https priority target params => exact if_neg (show typeHttps ≠ qtypeTxt by decide)
  | other rtype unread bytes => exact if_neg unread.2.1

theorem first_map {β γ : Type} (response : Response) (read : Data → Option β) (wrap : β → γ) :
    response.first (fun data => (read data).map wrap) = (response.first read).map wrap := by
  unfold Response.first
  rw [List.map_findSome?]
  rfl

theorem join_map_some {β : Type} (found : Option β) : (found.map some).join = found := by
  cases found <;> rfl

end WellFormed

/-- Whatever the bytes are, no reader leaves them; from a response each takes the first record of
its type, and an empty TXT record is none. -/
theorem answer_readers :
    (∀ bytes, Safe (parseDnsA bytes) ∧ Safe (parseHttpsEch bytes) ∧
      Safe (firstTxtRecordAt bytes)) ∧
    ∀ response : Response,
      parseDnsA response.bytes = .ok ((response.first Data.address).map .v4) ∧
      parseHttpsEch response.bytes = .ok (response.first Data.ech) ∧
      firstTxtRecordAt response.bytes =
        .ok ((response.first Data.text).filter fun text => text ≠ []) := by
  constructor
  · intro bytes
    refine ⟨safe_readAnswers (contained_aRecord bytes),
      safe_readAnswers (contained_echRecord bytes), ?_⟩
    rw [firstTxtRecordAt_eq]
    exact Checked.safe_ok _
  · intro response
    refine ⟨?_, ?_, ?_⟩
    · unfold parseDnsA
      rw [readAnswers_response response (skips_skipName _) (reports_aRecord _), first_map,
        first_map, join_map_some]
    · unfold parseHttpsEch
      rw [readAnswers_response response (skips_skipName _) (reports_echRecord _), first_map,
        join_map_some]
    · unfold firstTxtRecordAt
      rw [readAnswers_response response (skips_exitIp _) (reports_txtRecord _), first_map]
      cases response.first Data.text with
      | none => rfl
      | some text =>
          change Except.ok (if text = [] then none else some text) = _
          rw [Option.filter_some]
          by_cases empty : text = []
          · rw [if_pos empty, if_neg (by rw [decide_eq_true_eq]; exact not_not.mpr empty)]
          · rw [if_neg empty, if_pos (decide_eq_true empty)]

/-- A response with one TXT record, of one string without a byte in it. -/
def emptyTxt : Response :=
  { id := 0
    flags := 0x8000
    questions := []
    questionsShort := by decide
    answers :=
      [{ name := ⟨[], List.forall_mem_nil _, .root⟩
         rclass := 3
         ttl := (0, 0)
         data := .txt [⟨[], by decide⟩]
         short := by decide }]
    answersShort := by decide
    authorities := 0
    additionals := 0
    later := [] }

theorem empty_txt_dropped :
    ¬∀ response : Response, firstTxtRecordAt response.bytes = .ok (response.first Data.text) := by
  intro every
  have one := every emptyTxt
  rw [firstTxtRecordAt_eq, show firstTxtRecord emptyTxt.bytes = none by decide] at one
  have found : emptyTxt.first Data.text = some [] := rfl
  rw [found] at one
  cases one

end MolidoVpn.Dns
