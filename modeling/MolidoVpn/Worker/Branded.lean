import MolidoVpn.Worker.Labels

/-!
What `brand` changes of a list. The payload of a vmess line is written as UTF-8 but was read one
character for each byte, so what is not ASCII in it is not what it was.
-/

namespace MolidoVpn.Worker

open JavaScript (JsonText forgivingDecode btoa encodeURIComponent decodeURIComponent)
open Text (splitAround)

section Settled

mutual

/-- What comes back of a value that was written: no number that is not finite. -/
def settled : Json → Json
  | .number value => if value.printed.isSome then .number value else .null
  | .array items => .array (settledItems items)
  | .object members => .object (settledMembers members)
  | .null => .null
  | .bool value => .bool value
  | .string value => .string value

def settledItems : List Json → List Json
  | [] => []
  | item :: rest => settled item :: settledItems rest

def settledMembers : List (List Char × Json) → List (List Char × Json)
  | [] => []
  | (name, value) :: rest => (name, settled value) :: settledMembers rest

end

/-- What was parsed and has its label is parsed again from its text. -/
structure Settles (json : JsonText) : Prop where
  again : ∀ {text label : List Char} {value assigned : Json}, json.parse text = some value →
    assignPs label value = some assigned →
      json.parse (json.stringify assigned) = some (settled assigned)

/-- The value but for its name. -/
def withoutPs : Json → Json
  | .object members => .object (members.filter fun member => member.1 != "ps".toList)
  | value => value

theorem settledMembers_eq (members : List (List Char × Json)) :
    settledMembers members = members.map fun member => (member.1, settled member.2) := by
  induction members with
  | nil => rfl
  | cons member rest ih => rw [settledMembers, ih, List.map_cons]

theorem settled_object (members : List (List Char × Json)) :
    settled (.object members) =
      .object (members.map fun member => (member.1, settled member.2)) := by
  rw [settled, settledMembers_eq]

theorem withoutPs_settled (members : List (List Char × Json)) :
    withoutPs (settled (.object members)) = settled (withoutPs (.object members)) := by
  rw [settled_object, withoutPs, withoutPs, settled_object, List.filter_map]
  rfl

variable {label : List Char} {members : List (List Char × Json)} {assigned : Json}

private theorem replaced_fst (label : List Char) (member : List Char × Json) :
    (if member.1 = "ps".toList then (member.1, Json.string label) else member).1 = member.1 := by
  split <;> rfl

/-- An object takes its label for its name, and nothing else of it changes. -/
theorem assignPs_object (label : List Char) (members : List (List Char × Json)) :
    ∃ named, assignPs label (.object members) = some (.object named) ∧
      (Json.object named).opt "ps" = some (.string label) ∧
      withoutPs (.object named) = withoutPs (.object members) := by
  rw [assignPs]
  split
  · rename_i there
    refine ⟨_, rfl, ?_, ?_⟩
    · obtain ⟨member, inside, named⟩ := List.any_eq_true.mp there
      rw [Json.opt, List.find?_map, Option.map_map]
      cases found : members.find? ((fun member => member.1 == "ps".toList) ∘ fun member =>
          if member.1 = "ps".toList then (member.1, Json.string label) else member) with
      | none =>
          have missing := List.find?_eq_none.mp found member inside
          rw [Function.comp_apply, replaced_fst] at missing
          exact absurd named missing
      | some first =>
          have same := List.find?_some found
          rw [Function.comp_apply, replaced_fst, beq_iff_eq] at same
          rw [Option.map_some, Function.comp_apply, if_pos same]
    · have kept : ((fun member : List Char × Json => member.1 != "ps".toList) ∘ fun member =>
          if member.1 = "ps".toList then (member.1, Json.string label) else member) =
            fun member => member.1 != "ps".toList := by
        funext member
        rw [Function.comp_apply, replaced_fst]
      rw [withoutPs, withoutPs, List.filter_map, kept]
      apply congrArg Json.object
      refine (List.map_congr_left fun member inside => ?_).trans (List.map_id _)
      have other := bne_iff_ne.mp (List.mem_filter.mp inside).2
      exact if_neg other
  · rename_i missing
    refine ⟨_, rfl, ?_, ?_⟩
    · have none_ : (members.find? fun member => member.1 == "ps".toList) = none :=
        List.find?_eq_none.mpr fun member inside named =>
          missing (List.any_eq_true.mpr ⟨member, inside, named⟩)
      rw [Json.opt, List.find?_append, none_]
      rfl
    · rw [withoutPs, withoutPs, List.filter_append]
      exact congrArg Json.object (List.append_nil _)

theorem opt_settled {name : List Char}
    (named : (Json.object members).opt "ps" = some (.string name)) :
    (settled (.object members)).opt "ps" = some (.string name) := by
  rw [settled_object, Json.opt, List.find?_map, Option.map_map]
  rw [Json.opt, Option.map_eq_some_iff] at named
  obtain ⟨member, found, same⟩ := named
  change ((members.find? fun member => member.1 == "ps".toList).map _) = _
  rw [found, Option.map_some]
  change some (settled member.2) = _
  rw [same, settled]

end Settled

section Names

variable (json : JsonText) (line : List Char)

/-- The JSON of the payload, read as UTF-8. -/
def utf8Json (core : List Char) : Option Json :=
  (forgivingDecode (core.drop 8)).bind fun bytes => json.parse (Utf8.fromUtf8Lossy bytes)

/-- The name in the payload. -/
def psName (core : List Char) : List Char :=
  match (utf8Json json core).bind fun value => value.opt "ps" with
  | some (.string name) => name
  | _ => []

/-- The name of a line: its fragment, and of a vmess line without one the name in its payload. -/
def displayName : List Char :=
  if nameOf line = [] ∧ IsVmess line then psName json (coreOf line) else nameOf line

/-- Byte by byte the payload is no array, and what it says beside its name, and the flag in its name
where that is shown, are what they are in UTF-8. -/
structure ReadAlike : Prop where
  object : ∀ items, payloadJson json (coreOf line) ≠ some (.array items)
  fields : ∀ members before, payloadJson json (coreOf line) = some (.object members) →
    utf8Json json (coreOf line) = some before →
      withoutPs before = withoutPs (settled (.object members))
  flag : nameOf line = [] → ∀ flag, flagOf (psName json (coreOf line)) = some flag →
    payloadFlag json (coreOf line) = some flag

/-- A line as it is served: only its name is another, and begins with the first flag of the one
before. -/
structure Relabelled (after : List Char) : Prop where
  exempt : Exempt line → after = line
  core : ¬IsVmess line → coreOf after = coreOf line
  fields : IsVmess line → ∀ before, utf8Json json (coreOf line) = some before →
    ∃ value, utf8Json json (coreOf after) = some value ∧ withoutPs before = withoutPs value
  flag : ¬Exempt line → ∀ flag, flagOf (displayName json line) = some flag →
    flagOf (displayName json after) = some flag
  label : ¬Exempt line → displayName json after ≠ []

/-- Every line is there with a new name, and no two of the new names are the same. -/
structure Branded (listed : Listed) (served : List (List Char)) : Prop where
  length : served.length = listed.lines.length
  lines : ∀ (place : Nat) (line after : List Char), listed.lines[place]? = some line →
    served[place]? = some after → Relabelled json line after
  labels : ∀ (place later : Nat) (line after next final : List Char), place < later →
    listed.lines[place]? = some line → served[place]? = some after → ¬Exempt line →
      listed.lines[later]? = some next → served[later]? = some final → ¬Exempt next →
        displayName json after ≠ displayName json final

end Names

section Served

variable {json : JsonText} {line label payload : List Char} {bytes : List UInt8}

private theorem label_ne_nil (flag tier : List Char) (n : Nat) : labelText flag tier n ≠ [] := by
  rw [labelText, List.append_assoc, List.append_assoc]
  exact List.append_ne_nil_of_right_ne_nil _ (List.cons_ne_nil _ _)

/-- A fragment is read back as the label that it is written from. -/
theorem nameOf_fragment {core : List Char} (clear : '#' ∉ core) (label : List Char) :
    nameOf (core ++ '#' :: encodeURIComponent label) = label := by
  have split : splitAround ['#'] (core ++ '#' :: encodeURIComponent label) =
      some (core, encodeURIComponent label) := Text.splitAround_first clear _
  rw [nameOf, split]
  change (decodeURIComponent (encodeURIComponent label)).getD _ = label
  rw [JavaScript.decodeURIComponent_encode]
  rfl

theorem displayName_fragment (json : JsonText) {core : List Char} (clear : '#' ∉ core)
    (some_ : label ≠ []) : displayName json (core ++ '#' :: encodeURIComponent label) = label := by
  rw [displayName, nameOf_fragment clear, if_neg fun both => some_ both.1]

private theorem hash_notMem_payload (bytes : List UInt8) :
    '#' ∉ "vmess://".toList ++ btoa bytes := by
  intro member
  rcases List.mem_append.mp member with scheme | letter
  · exact absurd scheme (by decide)
  · exact JavaScript.isVisible_ne_hash (JavaScript.isVisible_of_mem_btoa letter) rfl

theorem coreOf_payload (bytes : List UInt8) :
    coreOf ("vmess://".toList ++ btoa bytes) = "vmess://".toList ++ btoa bytes :=
  Kotlin.substringBefore_of_notMem (hash_notMem_payload bytes)

theorem displayName_payload (json : JsonText) (bytes : List UInt8) :
    displayName json ("vmess://".toList ++ btoa bytes) =
      psName json (coreOf ("vmess://".toList ++ btoa bytes)) := by
  have bare : nameOf ("vmess://".toList ++ btoa bytes) = [] := by
    rw [nameOf, Kotlin.splitAround_eq_none (hash_notMem_payload bytes)]
  have vmess : IsVmess ("vmess://".toList ++ btoa bytes) := by
    rw [IsVmess, coreOf_payload]
    exact List.isPrefixOf_iff_prefix.mpr (List.prefix_append _ _)
  exact if_pos ⟨bare, vmess⟩

/-- What is written as UTF-8 is read as what was written. -/
theorem utf8Json_payload (json : JsonText) (text : List Char) :
    utf8Json json (coreOf ("vmess://".toList ++ btoa (Utf8.encode text))) = json.parse text := by
  have behind : ("vmess://".toList ++ btoa (Utf8.encode text)).drop 8 =
      btoa (Utf8.encode text) := rfl
  rw [coreOf_payload, utf8Json, behind, JavaScript.forgivingDecode_btoa, Option.bind_some,
    Utf8.fromUtf8Lossy_encode]

theorem labelledPayload_some (labelled : labelledPayload json label (coreOf line) = some payload) :
    IsVmess line ∧ ∃ value assigned, payloadJson json (coreOf line) = some value ∧
      assignPs label value = some assigned ∧
        payload = btoa (Utf8.encode (json.stringify assigned)) := by
  rw [labelledPayload] at labelled
  split at labelled
  · rename_i vmess
    obtain ⟨assigned, made, same⟩ := Option.map_eq_some_iff.mp labelled
    obtain ⟨value, read, given⟩ := Option.bind_eq_some_iff.mp made
    exact ⟨vmess, value, assigned, read, given, same.symm⟩
  · cases labelled

/-- The payload that a label was written into. -/
theorem payload_again (settles : Settles json)
    (labelled : labelledPayload json label (coreOf line) = some payload) :
    ∃ value assigned, payloadJson json (coreOf line) = some value ∧
      assignPs label value = some assigned ∧
        utf8Json json (coreOf ("vmess://".toList ++ payload)) = some (settled assigned) ∧
        ∃ bytes, payload = btoa bytes := by
  obtain ⟨-, value, assigned, read, given, rfl⟩ := labelledPayload_some labelled
  obtain ⟨text, -, parsed⟩ := Option.bind_eq_some_iff.mp read
  exact ⟨value, assigned, read, given,
    (utf8Json_payload json _).trans (settles.again parsed given), _, rfl⟩

/-- Of a payload that is an object the label is the name, and the rest is what was read. -/
theorem payload_object (settles : Settles json) {members : List (List Char × Json)}
    (labelled : labelledPayload json label (coreOf line) = some payload)
    (read : payloadJson json (coreOf line) = some (.object members)) :
    displayName json ("vmess://".toList ++ payload) = label ∧
      ∃ value, utf8Json json (coreOf ("vmess://".toList ++ payload)) = some value ∧
        withoutPs value = withoutPs (settled (.object members)) := by
  obtain ⟨value, assigned, read', given, again, bytes, rfl⟩ := payload_again settles labelled
  rw [read, Option.some.injEq] at read'
  subst read'
  obtain ⟨named, made, ps, rest⟩ := assignPs_object label members
  rw [made, Option.some.injEq] at given
  subst given
  refine ⟨?_, _, again, ?_⟩
  · rw [displayName_payload, psName, again, Option.bind_some, opt_settled ps]
  · rw [withoutPs_settled, rest, ← withoutPs_settled]

/-- An array keeps no label. -/
theorem payload_array (settles : Settles json) {items : List Json}
    (labelled : labelledPayload json label (coreOf line) = some payload)
    (read : payloadJson json (coreOf line) = some (.array items)) :
    displayName json ("vmess://".toList ++ payload) = [] := by
  obtain ⟨value, assigned, read', given, again, bytes, rfl⟩ := payload_again settles labelled
  rw [read, Option.some.injEq] at read'
  subst read'
  rw [assignPs, Option.some.injEq] at given
  subst given
  rw [displayName_payload, psName, again, Option.bind_some, settled]
  rfl

private theorem assignPs_cases {value assigned : Json}
    (given : assignPs label value = some assigned) :
    (∃ members, value = .object members) ∨ ∃ items, value = .array items := by
  cases value with
  | object members => exact .inl ⟨members, rfl⟩
  | array items => exact .inr ⟨items, rfl⟩
  | null => cases given
  | bool _ => cases given
  | number _ => cases given
  | string _ => cases given

/-- The flag of the name before is in a label exactly where the payload's, if that is the one, is
found byte by byte. -/
theorem flag_iff (json : JsonText) (line : List Char) {tier : List Char} (n : Nat)
    (known : tier = [] ∨ tier = " VIP".toList) :
    (∀ flag, flagOf (displayName json line) = some flag →
        flagOf (labelText (shownFlag json line) tier n) = some flag) ↔
      (IsVmess line → nameOf line = [] → ∀ flag, flagOf (psName json (coreOf line)) = some flag →
        payloadFlag json (coreOf line) = some flag) := by
  simp only [flagOf_labelText_iff (isFlag_shownFlag json line) known]
  constructor
  · intro shown vmess bare flag found
    have whole : displayName json line = psName json (coreOf line) := if_pos ⟨bare, vmess⟩
    rw [← whole] at found
    obtain ⟨same, other⟩ := shown flag found
    rw [shownFlag_bare json vmess bare] at same other
    cases inside : payloadFlag json (coreOf line) with
    | none =>
        rw [inside] at other
        exact absurd rfl other
    | some flag' =>
        rw [inside] at same
        exact congrArg some same
  · intro alike flag found
    have other := flag_ne_globe found
    have shown : shownFlag json line = flag := by
      by_cases both : nameOf line = [] ∧ IsVmess line
      · rw [displayName, if_pos both] at found
        rw [shownFlag_bare json both.2 both.1, alike both.2 both.1 flag found]
        rfl
      · rw [displayName, if_neg both] at found
        rw [shownFlag, found]
        rfl
    rw [shown]
    exact ⟨rfl, other⟩

variable {vip : Option (List (List Char))} {counters : Counters}

theorem brandLine_branded (branded : ¬Exempt line) :
    (brandLine json vip counters line).1 =
      match labelledPayload json (labelWith json vip counters line) (coreOf line) with
      | some payload => "vmess://".toList ++ payload
      | none => coreOf line ++ '#' :: encodeURIComponent (labelWith json vip counters line) := by
  rw [brandLine, labelOf_eq, if_neg branded]
  change Prod.fst (match labelledPayload json (labelWith json vip counters line) (coreOf line) with
    | some payload => ("vmess://".toList ++ payload, _)
    | none => _) = _
  cases labelledPayload json (labelWith json vip counters line) (coreOf line) with
  | some payload => rfl
  | none => rfl

private theorem labelWith_ne_nil (json : JsonText) (vip : Option (List (List Char)))
    (counters : Counters) (line : List Char) : labelWith json vip counters line ≠ [] :=
  label_ne_nil _ _ _

/-- A line with its label as its fragment. -/
private theorem relabelled_fragment_iff (branded : ¬Exempt line)
    (unwritten : labelledPayload json (labelWith json vip counters line) (coreOf line) = none) :
    Relabelled json line
        (coreOf line ++ '#' :: encodeURIComponent (labelWith json vip counters line)) ↔
      (IsVmess line → ReadAlike json line) := by
  have clear := notMem_coreOf line
  have display := displayName_fragment json clear (labelWith_ne_nil json vip counters line)
  have core := coreOf_append clear (encodeURIComponent (labelWith json vip counters line))
  have flags := flag_iff json line (taken counters (shownFlag json line ++ labelTier vip line) + 1)
    (labelTier_known vip line)
  constructor
  · intro same vmess
    have unread (value assigned : Json) (read : payloadJson json (coreOf line) = some value) :
        assignPs (labelWith json vip counters line) value ≠ some assigned := by
      intro given
      have start : "vmess://".toList.isPrefixOf (coreOf line) = true := vmess
      rw [labelledPayload, if_pos start, read, Option.bind_some, given] at unwritten
      cases unwritten
    refine ⟨fun items read => unread _ _ read rfl, ?_, ?_⟩
    · intro members before read
      obtain ⟨named, given, -⟩ := assignPs_object (labelWith json vip counters line) members
      exact absurd given (unread _ _ read)
    · have shown := same.flag branded
      rw [display] at shown
      exact flags.mp shown vmess
  · intro alike
    refine ⟨fun exempt => absurd exempt branded, fun _ => core, ?_, fun _ => ?_, fun _ => ?_⟩
    · intro _ before read
      rw [core]
      exact ⟨before, read, rfl⟩
    · rw [display]
      exact flags.mpr fun vmess => (alike vmess).flag
    · rw [display]
      exact labelWith_ne_nil json vip counters line

/-- A line with its label in its payload. -/
private theorem relabelled_payload_iff (settles : Settles json) (branded : ¬Exempt line)
    (written : labelledPayload json (labelWith json vip counters line) (coreOf line) =
      some payload) :
    Relabelled json line ("vmess://".toList ++ payload) ↔ (IsVmess line → ReadAlike json line) := by
  obtain ⟨vmess, value, assigned, read, given, -⟩ := labelledPayload_some written
  have flags := flag_iff json line (taken counters (shownFlag json line ++ labelTier vip line) + 1)
    (labelTier_known vip line)
  rcases assignPs_cases given with ⟨members, rfl⟩ | ⟨items, rfl⟩
  · obtain ⟨display, value, again, rest⟩ := payload_object settles written read
    constructor
    · intro same _
      refine ⟨fun items other => ?_, fun members' before other reads => ?_, ?_⟩
      · rw [read] at other
        cases other
      · rw [read] at other
        cases other
        obtain ⟨value', again', agree⟩ := same.fields vmess before reads
        rw [again, Option.some.injEq] at again'
        rw [agree, ← again', rest]
      · have shown := same.flag branded
        rw [display] at shown
        exact flags.mp shown vmess
    · intro alike
      refine ⟨fun exempt => absurd exempt branded, fun other => absurd vmess other, ?_,
        fun _ => ?_, fun _ => ?_⟩
      · intro _ before reads
        exact ⟨value, again, ((alike vmess).fields members before read reads).trans rest.symm⟩
      · rw [display]
        exact flags.mpr fun vmess => (alike vmess).flag
      · rw [display]
        exact labelWith_ne_nil json vip counters line
  · refine iff_of_false (fun same => same.label branded (payload_array settles written read)) ?_
    exact fun alike => (alike vmess).object items read

/-- A line is served as it should be exactly where it is no vmess line, or one that reads alike. -/
theorem relabelled_iff (settles : Settles json) (vip : Option (List (List Char)))
    (counters : Counters) (line : List Char) :
    Relabelled json line (brandLine json vip counters line).1 ↔
      (¬Exempt line → IsVmess line → ReadAlike json line) := by
  by_cases exempt : Exempt line
  · have kept : (brandLine json vip counters line).1 = line := by
      rw [brandLine, labelOf_eq, if_pos exempt]
    rw [kept]
    refine iff_of_true ?_ fun branded => absurd exempt branded
    exact ⟨fun _ => rfl, fun _ => rfl, fun _ before read => ⟨before, read, rfl⟩,
      fun branded => absurd exempt branded, fun branded => absurd exempt branded⟩
  · rw [brandLine_branded exempt]
    have free : (¬Exempt line → IsVmess line → ReadAlike json line) ↔
        (IsVmess line → ReadAlike json line) := ⟨fun all => all exempt, fun all _ => all⟩
    rw [free]
    cases written : labelledPayload json (labelWith json vip counters line) (coreOf line) with
    | none => exact relabelled_fragment_iff exempt written
    | some payload => exact relabelled_payload_iff settles exempt written

/-- What a line is called then is its label. -/
theorem displayName_brandLine (settles : Settles json) (branded : ¬Exempt line)
    (alike : IsVmess line → ReadAlike json line) :
    displayName json (brandLine json vip counters line).1 = labelWith json vip counters line := by
  rw [brandLine_branded branded]
  cases written : labelledPayload json (labelWith json vip counters line) (coreOf line) with
  | none =>
      exact displayName_fragment json (notMem_coreOf line) (labelWith_ne_nil json vip counters line)
  | some payload =>
      obtain ⟨vmess, value, assigned, read, given, -⟩ := labelledPayload_some written
      rcases assignPs_cases given with ⟨members, rfl⟩ | ⟨items, rfl⟩
      · exact (payload_object settles written read).1
      · exact absurd read ((alike vmess).object items)

theorem length_brand (json : JsonText) (listed : Listed) :
    (brand json listed).length = listed.lines.length := by
  apply Nat.le_antisymm
  · apply Nat.le_of_not_lt
    intro longer
    have last := brand_getElem json listed listed.lines.length
    rw [List.getElem?_eq_none (Nat.le_refl _), List.getElem?_eq_getElem longer] at last
    cases last
  · apply Nat.le_of_not_lt
    intro shorter
    have last := brand_getElem json listed (brand json listed).length
    rw [List.getElem?_eq_none (Nat.le_refl _), List.getElem?_eq_getElem shorter] at last
    cases last

end Served

/-- A list is branded as it should be exactly where every vmess line of it that gets a label reads
byte by byte as it does in UTF-8. -/
theorem branded_iff {json : JsonText} (settles : Settles json) (listed : Listed) :
    Branded json listed (brand json listed) ↔
      ∀ line ∈ listed.lines, ¬Exempt line → IsVmess line → ReadAlike json line := by
  constructor
  · intro whole line member
    obtain ⟨place, inside, stands⟩ := List.getElem_of_mem member
    have there : listed.lines[place]? = some line := by
      rw [List.getElem?_eq_getElem inside, stands]
    have sent := brand_getElem json listed place
    rw [there, Option.map_some] at sent
    exact (relabelled_iff settles listed.vip _ line).mp (whole.lines place line _ there sent)
  · intro alike
    refine ⟨length_brand json listed, ?_, ?_⟩
    · intro place line after stands sent
      rw [brand_getElem, stands, Option.map_some, Option.some.injEq] at sent
      rw [← sent]
      exact (relabelled_iff settles listed.vip _ line).mpr
        (alike line (List.mem_of_getElem? stands))
    · intro place later line after next final ordered stands sent branded stands' sent' branded'
      rw [brand_getElem, stands, Option.map_some, Option.some.injEq] at sent
      rw [brand_getElem, stands', Option.map_some, Option.some.injEq] at sent'
      rw [← sent, ← sent',
        displayName_brandLine settles branded (alike line (List.mem_of_getElem? stands) branded),
        displayName_brandLine settles branded' (alike next (List.mem_of_getElem? stands') branded')]
      exact labelWith_ne stands branded ordered

section Ascii

variable {json : JsonText} {line core : List Char} {bytes : List UInt8}

/-- A byte of ASCII is the same character either way. -/
theorem payloadJson_of_ascii (json : JsonText)
    (decoded : forgivingDecode (core.drop 8) = some bytes)
    (ascii : ∀ byte ∈ bytes, byte.toNat < 128) : payloadJson json core = utf8Json json core := by
  have encoded : Utf8.encode (bytes.map fun byte => Char.ofNat byte.toNat) = bytes := by
    clear decoded
    induction bytes with
    | nil => rfl
    | cons byte rest ih =>
        rw [List.map_cons, Utf8.encode_cons, Utf8.encodeChar_byte (ascii byte List.mem_cons_self),
          ih fun other member => ascii other (List.mem_cons_of_mem byte member)]
        rfl
  have text := Utf8.fromUtf8Lossy_encode (bytes.map fun byte => Char.ofNat byte.toNat)
  rw [encoded] at text
  rw [payloadJson, utf8Json, JavaScript.atob_eq, decoded, Option.map_some, Option.bind_some,
    Option.bind_some, text]

theorem payloadFlag_of_same {flag : List Char} (same : payloadJson json core = utf8Json json core)
    (found : flagOf (psName json core) = some flag) : payloadFlag json core = some flag := by
  rw [payloadFlag, same]
  rw [psName] at found
  cases named : (utf8Json json core).bind fun value => value.opt "ps" with
  | none =>
      rw [named] at found
      cases found
  | some value =>
      rw [named] at found
      cases value with
      | string name => exact found
      | _ => cases found

/-- So an object of ASCII without numbers that are not finite reads alike. -/
theorem readAlike_of_ascii {members : List (List Char × Json)}
    (decoded : forgivingDecode ((coreOf line).drop 8) = some bytes)
    (ascii : ∀ byte ∈ bytes, byte.toNat < 128)
    (read : utf8Json json (coreOf line) = some (.object members))
    (finite : settled (.object members) = .object members) : ReadAlike json line := by
  have same := payloadJson_of_ascii json decoded ascii
  rw [read] at same
  refine ⟨fun items other => ?_, fun members' before other reads => ?_, fun _ flag found => ?_⟩
  · rw [same] at other
    cases other
  · rw [same] at other
    rw [read] at reads
    cases other
    cases reads
    rw [finite]
  · exact payloadFlag_of_same (same.trans read.symm) found

end Ascii

def psPrint (name : List Char) : List Char :=
  "\x7b\"ps\":\"".toList ++ (name ++ "\"\x7d".toList)

def psParse (text : List Char) : Option Json :=
  (Text.stripPrefix "\x7b\"ps\":\"".toList text).bind fun rest =>
    if "\"\x7d".toList.isSuffixOf rest then
      some (.object [("ps".toList, .string rest.dropLast.dropLast)])
    else none

/-- Of JSON the objects with a name and nothing else. -/
def psText : JsonText where
  parse := psParse
  stringify
    | .object [(_, .string name)] => psPrint name
    | _ => []

private theorem psParse_psPrint (name : List Char) :
    psParse (psPrint name) = some (.object [("ps".toList, .string name)]) := by
  have behind : Text.stripPrefix "\x7b\"ps\":\"".toList (psPrint name) =
      some (name ++ "\"\x7d".toList) := Text.stripPrefix_append _ _
  have ends : "\"\x7d".toList.isSuffixOf (name ++ "\"\x7d".toList) = true :=
    List.isSuffixOf_iff_suffix.mpr (List.suffix_append _ _)
  have bare : (name ++ "\"\x7d".toList).dropLast.dropLast = name := by
    have shape : name ++ "\"\x7d".toList = (name ++ ['"']) ++ ['\x7d'] := by
      rw [List.append_assoc]
      rfl
    rw [shape, List.dropLast_concat, List.dropLast_concat]
  rw [psParse, behind, Option.bind_some, if_pos ends]
  exact congrArg (fun read => some (Json.object [("ps".toList, .string read)])) bare

theorem settles_psText : Settles psText := by
  constructor
  intro text label value assigned parsed given
  obtain ⟨rest, -, read⟩ := Option.bind_eq_some_iff.mp parsed
  split at read
  · cases read
    cases given
    exact psParse_psPrint label
  · cases read

/-- A payload of ASCII: the name is `Berlin`. -/
def asciiLine : List Char := "vmess://eyJwcyI6IkJlcmxpbiJ9".toList

theorem branded_iff_ascii :
    Branded psText ⟨[asciiLine], none⟩ (brand psText ⟨[asciiLine], none⟩) := by
  refine (branded_iff settles_psText ⟨[asciiLine], none⟩).mpr ?_
  intro line member _ _
  rw [List.mem_singleton.mp member]
  have decoded : forgivingDecode ((coreOf asciiLine).drop 8) =
      some (Utf8.encode (psPrint "Berlin".toList)) := by decide +kernel
  have ascii : (Utf8.encode (psPrint "Berlin".toList)).all
      (fun byte => byte.toNat < 128) = true := by decide +kernel
  have read : utf8Json psText (coreOf asciiLine) =
      some (.object [("ps".toList, .string "Berlin".toList)]) := by
    rw [utf8Json, decoded, Option.bind_some, Utf8.fromUtf8Lossy_encode]
    exact psParse_psPrint "Berlin".toList
  exact readAlike_of_ascii decoded
    (fun byte inside => of_decide_eq_true (List.all_eq_true.mp ascii byte inside)) read rfl

/-- The flag in the name is two characters in UTF-8, and none byte by byte. -/
def berlinLine : List Char := "vmess://eyJwcyI6IvCfh6nwn4eqIEJlcmxpbiJ9".toList

def servedBerlin : List Char := "vmess://eyJwcyI6IvCfjJAgTW9saWRvVlBOIDAxIn0=".toList

theorem not_branded_berlin :
    brand psText ⟨[berlinLine], none⟩ = [servedBerlin] ∧
      displayName psText berlinLine = "🇩🇪 Berlin".toList ∧
      displayName psText servedBerlin = "🌐 MolidoVPN 01".toList ∧
      ¬Branded psText ⟨[berlinLine], none⟩ (brand psText ⟨[berlinLine], none⟩) := by
  have sent : brand psText ⟨[berlinLine], none⟩ = [servedBerlin] := by decide +kernel
  have before : displayName psText berlinLine = "🇩🇪 Berlin".toList := by
    decide +kernel
  have after : displayName psText servedBerlin = "🌐 MolidoVPN 01".toList := by
    decide +kernel
  refine ⟨sent, before, after, fun whole => ?_⟩
  rw [sent] at whole
  have shown := (whole.lines 0 berlinLine servedBerlin rfl rfl).flag (by decide +kernel)
    "🇩🇪".toList (by rw [before]; decide)
  rw [after] at shown
  exact absurd shown (by decide)

end MolidoVpn.Worker
