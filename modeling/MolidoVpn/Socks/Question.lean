import MolidoVpn.Tun.ExitIp

/-!
The questions of the two resolvers, `build_dns_query` of `socks.rs` and `build_query` of `dns.rs`,
and the check of an answer. Both write the length of a label into one byte; only the second leaves
out labels without one.
-/

namespace MolidoVpn.Dns

open Tun (byteAt wordAt wordBytes slice eqIgnoreAsciiCaseBytes matchLabels)
open Utf8 (encode)

def qtypeA : UInt16 := 1

/-- `name.split('.')`, as bytes. -/
def splitLabels (name : List Char) : List (List UInt8) := (name.splitOn '.').map encode

def labelBytes (label : List UInt8) : List UInt8 := UInt8.ofNat label.length :: label

def questionBytes (labels : List (List UInt8)) (qtype : UInt16) : List UInt8 :=
  labels.flatMap labelBytes ++ (0x00 :: (wordBytes qtype ++ [0x00, 0x01]))

def queryHeader (id : UInt16) : List UInt8 :=
  wordBytes id ++ [0x01, 0x00, 0x00, 0x01, 0x00, 0x00, 0x00, 0x00, 0x00, 0x00]

/-- `build_dns_query`; the identification is drawn at random. -/
def buildDnsQuery (id : UInt16) (name : List Char) (qtype : UInt16) : List UInt8 :=
  queryHeader id ++ questionBytes (splitLabels name) qtype

def present (labels : List (List UInt8)) : List (List UInt8) :=
  labels.filter fun label => !label.isEmpty

/-- `build_query` of `dns.rs` -/
def buildQuery (id : UInt16) (name : List Char) (qtype : UInt16) : List UInt8 :=
  queryHeader id ++ questionBytes (present (splitLabels name)) qtype

/-- The walk of `dns_response_matches` over the question. -/
def questionAccepted (resp : List UInt8) (labels : List (List UInt8)) (expectedQtype : UInt16) :
    Bool :=
  match matchLabels resp 12 labels with
  | none => false
  | some pos =>
      if resp[pos]? ≠ some 0 then false
      else if pos + 1 + 4 > resp.length then false
      else wordAt resp (pos + 1) == expectedQtype

def dnsResponseMatches (resp : List UInt8) (expectedId : UInt16) (expectedName : List Char)
    (expectedQtype : UInt16) : Bool :=
  if resp.length < 12 then false
  else if wordAt resp 0 != expectedId then false
  else if byteAt resp 2 &&& 0x80 == 0 then false
  else if wordAt resp 4 != 1 then false
  else questionAccepted resp (present (splitLabels expectedName)) expectedQtype

/-- A label as the message format has it. -/
def Fits (label : List UInt8) : Prop := 1 ≤ label.length ∧ label.length ≤ 63

instance (label : List UInt8) : Decidable (Fits label) := inferInstanceAs (Decidable (_ ∧ _))

/-- A question as the message format has it. -/
structure Question where
  labels : List (List UInt8)
  fits : ∀ label ∈ labels, Fits label
  qtype : UInt16
  qclass : UInt16

def Question.bytes (question : Question) : List UInt8 :=
  question.labels.flatMap labelBytes ++
    (0x00 :: (wordBytes question.qtype ++ wordBytes question.qclass))

def questionOf (message : List UInt8) : List UInt8 := message.drop 12

def replyHeader (id : UInt16) (flags later : UInt8) (counts : List UInt8) : List UInt8 :=
  wordBytes id ++ ([flags, later, 0x00, 0x01] ++ counts)

/-- A response to the query with its question in it. -/
def Echoes (id : UInt16) (query resp : List UInt8) : Prop :=
  ∃ flags later counts more, flags &&& (0x80 : UInt8) ≠ 0 ∧ counts.length = 6 ∧
    resp = replyHeader id flags later counts ++ (questionOf query ++ more)

section Labels

variable {label : List UInt8} {labels others : List (List UInt8)} {rest more : List UInt8}

theorem toNat_length (small : label.length < 256) :
    (UInt8.ofNat label.length).toNat = label.length := by
  rw [UInt8.toNat_ofNat']
  omega

/-- The byte at the front is not the length of a label that fits. -/
def Stops (rest : List UInt8) : Prop := ∀ byte ∈ rest.head?, byte = 0 ∨ 63 < byte.toNat

/-- Labels that fit are read in one way only. -/
theorem labels_unique (fits : ∀ label ∈ labels, Fits label) (fits' : ∀ label ∈ others, Fits label)
    (stops : Stops rest) (stops' : Stops more)
    (same : labels.flatMap labelBytes ++ rest = others.flatMap labelBytes ++ more) :
    labels = others ∧ rest = more := by
  have starts {label : List UInt8} {behind tail : List UInt8} (fit : Fits label)
      (stops : Stops behind) : behind ≠ labelBytes label ++ tail := by
    rintro rfl
    have first := stops _ rfl
    have length : (UInt8.ofNat label.length).toNat = label.length :=
      toNat_length (by have := fit.2; omega)
    rcases first with zero | large
    · have none_ : (UInt8.ofNat label.length).toNat = 0 := congrArg UInt8.toNat zero
      have := fit.1
      omega
    · have := fit.2
      omega
  induction labels generalizing others with
  | nil =>
      cases others with
      | nil => exact ⟨rfl, same⟩
      | cons other others =>
          rw [List.flatMap_cons, List.append_assoc] at same
          exact absurd same (starts (fits' other List.mem_cons_self) stops)
  | cons label labels ih =>
      cases others with
      | nil =>
          rw [List.flatMap_cons, List.append_assoc] at same
          exact absurd same.symm (starts (fits label List.mem_cons_self) stops')
      | cons other others =>
          have fit := fits label List.mem_cons_self
          have fit' := fits' other List.mem_cons_self
          rw [List.flatMap_cons, List.flatMap_cons, List.append_assoc, List.append_assoc,
            labelBytes, labelBytes, List.cons_append, List.cons_append, List.cons.injEq] at same
          have length : label.length = other.length := by
            have bytes := congrArg UInt8.toNat same.1
            rw [toNat_length (by have := fit.2; omega),
              toNat_length (by have := fit'.2; omega)] at bytes
            exact bytes
          obtain ⟨rfl, behind⟩ := List.append_inj same.2 length
          obtain ⟨rfl, rest_⟩ := ih (fun l member => fits l (List.mem_cons_of_mem _ member))
            (fun l member => fits' l (List.mem_cons_of_mem _ member)) behind
          exact ⟨rfl, rest_⟩

end Labels

section Matching

variable {labels later : List (List UInt8)} {front rest : List UInt8}

theorem getElem?_front (front : List UInt8) (byte : UInt8) (rest : List UInt8) :
    (front ++ byte :: rest)[front.length]? = some byte := by
  rw [List.getElem?_append_right (Nat.le_refl _), Nat.sub_self]
  rfl

theorem slice_label (front label rest : List UInt8) :
    slice (front ++ (labelBytes label ++ rest)) (front.length + 1)
      (front.length + 1 + label.length) = label := by
  have whole : front ++ (labelBytes label ++ rest) =
      ((front ++ [UInt8.ofNat label.length]) ++ label) ++ rest := by
    simp only [labelBytes, List.append_assoc, List.cons_append, List.nil_append]
  have before : (front ++ [UInt8.ofNat label.length]).length = front.length + 1 := by
    rw [List.length_append, List.length_singleton]
  rw [slice, whole, List.take_left' (by rw [List.length_append, before]), List.drop_left' before]

/-- A label that is in place, and one whose length does not fit into its byte. -/
theorem matchLabels_cons (label rest : List UInt8) (later : List (List UInt8)) :
    matchLabels (front ++ (labelBytes label ++ rest)) front.length (label :: later) =
      if label.length < 256 then
        matchLabels (front ++ (labelBytes label ++ rest)) (front.length + (label.length + 1)) later
      else none := by
  have first : (front ++ (labelBytes label ++ rest))[front.length]? =
      some (UInt8.ofNat label.length) := getElem?_front front _ (label ++ rest)
  rw [matchLabels, first]
  simp only
  by_cases small : label.length < 256
  · have same : eqIgnoreAsciiCaseBytes label label = true := beq_self_eq_true _
    have stop : front.length + 1 + label.length ≤ (front ++ (labelBytes label ++ rest)).length := by
      simp only [labelBytes, List.length_append, List.length_cons]
      omega
    rw [toNat_length small, if_neg (not_not.mpr rfl), if_neg (Nat.not_lt.mpr stop), slice_label,
      if_pos same, if_pos small, Nat.add_assoc, Nat.add_comm 1]
  · rw [if_neg small, if_pos]
    rw [UInt8.toNat_ofNat']
    omega

theorem matchLabels_append (small : ∀ label ∈ labels, label.length < 256) (rest : List UInt8)
    (later : List (List UInt8)) :
    matchLabels (front ++ (labels.flatMap labelBytes ++ rest)) front.length (labels ++ later) =
      matchLabels (front ++ (labels.flatMap labelBytes ++ rest))
        (front.length + (labels.flatMap labelBytes).length) later := by
  induction labels generalizing front with
  | nil => rfl
  | cons label labels ih =>
      have moved := @ih (front ++ labelBytes label)
        fun other member => small other (List.mem_cons_of_mem label member)
      have length : (front ++ labelBytes label).length = front.length + (label.length + 1) :=
        List.length_append
      rw [List.append_assoc, length] at moved
      rw [List.flatMap_cons, List.append_assoc, List.cons_append, matchLabels_cons,
        if_pos (small label List.mem_cons_self), moved, List.length_append, Nat.add_assoc]
      rfl

end Matching

section Responses

variable {id qtype : UInt16} {name : List Char} {labels : List (List UInt8)}
  {query resp front rest : List UInt8}

theorem byteAt_front (front : List UInt8) (byte : UInt8) (rest : List UInt8) :
    byteAt (front ++ byte :: rest) front.length = byte := by
  rw [byteAt, List.getD_eq_getElem?_getD, getElem?_front]
  rfl

theorem wordAt_wordBytes (front : List UInt8) (word : UInt16) (rest : List UInt8) :
    wordAt (front ++ (wordBytes word ++ rest)) front.length = word := by
  have bound := word.toNat_lt
  have hi : byteAt (front ++ (wordBytes word ++ rest)) front.length =
      UInt8.ofNat (word.toNat / 256) := byteAt_front front _ _
  have second := byteAt_front (front ++ [UInt8.ofNat (word.toNat / 256)])
    (UInt8.ofNat (word.toNat % 256)) rest
  rw [List.length_append, List.length_singleton, List.append_assoc] at second
  have lo : byteAt (front ++ (wordBytes word ++ rest)) (front.length + 1) =
      UInt8.ofNat (word.toNat % 256) := second
  rw [wordAt, hi, lo, UInt8.toNat_ofNat', UInt8.toNat_ofNat', Nat.mod_eq_of_lt (by omega),
    Nat.mod_eq_of_lt (by omega), Nat.div_add_mod', UInt16.ofNat_toNat]

/-- The header of a response passes; the question decides. -/
theorem dnsResponseMatches_reply {flags later : UInt8} {counts : List UInt8}
    (response : flags &&& (0x80 : UInt8) ≠ 0) (six : counts.length = 6) (rest : List UInt8) :
    dnsResponseMatches (replyHeader id flags later counts ++ rest) id name qtype =
      questionAccepted (replyHeader id flags later counts ++ rest) (present (splitLabels name))
        qtype := by
  have long : ¬(replyHeader id flags later counts ++ rest).length < 12 := by
    simp only [replyHeader, wordBytes, List.length_append, List.length_cons, List.length_nil, six]
    omega
  have own : wordAt (replyHeader id flags later counts ++ rest) 0 = id := by
    have front := wordAt_wordBytes [] id ([flags, later, 0x00, 0x01] ++ counts ++ rest)
    rw [replyHeader, List.append_assoc]
    exact front
  have answers : byteAt (replyHeader id flags later counts ++ rest) 2 = flags := rfl
  have one : wordAt (replyHeader id flags later counts ++ rest) 4 = 1 := by
    have hi : byteAt (replyHeader id flags later counts ++ rest) 4 = 0 := rfl
    have lo : byteAt (replyHeader id flags later counts ++ rest) (4 + 1) = 1 := rfl
    rw [wordAt, hi, lo]
    rfl
  unfold dnsResponseMatches
  rw [if_neg long, own, answers, one]
  simp only [bne_self_eq_false, Bool.false_eq_true, if_false, beq_iff_eq, if_neg response]

theorem replyHeader_length {flags later : UInt8} {counts : List UInt8}
    (six : counts.length = 6) : (replyHeader id flags later counts).length = 12 := by
  simp only [replyHeader, wordBytes, List.length_append, List.length_cons, List.length_nil, six]

/-- The question that was asked is accepted, as long as every length is in its byte. -/
theorem questionAccepted_own (small : ∀ label ∈ labels, label.length < 256)
    (twelve : front.length = 12) (qtype : UInt16) (more : List UInt8) :
    questionAccepted (front ++ (questionBytes labels qtype ++ more)) labels qtype = true := by
  have asked : questionBytes labels qtype ++ more =
      labels.flatMap labelBytes ++ (0 :: (wordBytes qtype ++ ([0x00, 0x01] ++ more))) := by
    simp only [questionBytes, List.append_assoc, List.cons_append]
  have walked := @matchLabels_append labels front small
    (0 :: (wordBytes qtype ++ ([0x00, 0x01] ++ more))) []
  rw [List.append_nil, twelve, matchLabels, ← twelve, ← List.length_append] at walked
  have zero := getElem?_front (front ++ labels.flatMap labelBytes) 0
    (wordBytes qtype ++ ([0x00, 0x01] ++ more))
  have typed := wordAt_wordBytes (front ++ labels.flatMap labelBytes ++ [0]) qtype
    ([0x00, 0x01] ++ more)
  rw [List.length_append, List.length_singleton, List.append_assoc, List.singleton_append] at typed
  rw [List.append_assoc] at zero typed
  have fits : ¬(front ++ labels.flatMap labelBytes).length + 1 + 4 >
      (front ++ (labels.flatMap labelBytes ++
        (0 :: (wordBytes qtype ++ ([0x00, 0x01] ++ more))))).length := by
    simp only [wordBytes, List.length_append, List.length_cons, List.length_nil]
    omega
  rw [questionAccepted, asked, ← twelve, walked]
  simp only
  rw [zero, if_neg (not_not.mpr rfl), if_neg fits, typed, beq_self_eq_true]

/-- A label of 256 bytes or more is not found again. -/
theorem questionAccepted_long {good later : List (List UInt8)} {label : List UInt8}
    (small : ∀ label ∈ good, label.length < 256) (long : ¬label.length < 256)
    (twelve : front.length = 12) (qtype : UInt16) (expected : List (List UInt8))
    (more : List UInt8) :
    questionAccepted (front ++ (questionBytes (good ++ label :: later) qtype ++ more))
      (good ++ label :: expected) qtype = false := by
  have asked : questionBytes (good ++ label :: later) qtype ++ more =
      good.flatMap labelBytes ++ (labelBytes label ++ (later.flatMap labelBytes ++
        (0 :: (wordBytes qtype ++ ([0x00, 0x01] ++ more))))) := by
    simp only [questionBytes, List.flatMap_append, List.flatMap_cons, List.append_assoc,
      List.cons_append]
  have walked := @matchLabels_append good front small (labelBytes label ++
    (later.flatMap labelBytes ++ (0 :: (wordBytes qtype ++ ([0x00, 0x01] ++ more)))))
    (label :: expected)
  have stuck := @matchLabels_cons (front ++ good.flatMap labelBytes) label
    (later.flatMap labelBytes ++ (0 :: (wordBytes qtype ++ ([0x00, 0x01] ++ more)))) expected
  rw [if_neg long, List.append_assoc, List.length_append] at stuck
  rw [stuck] at walked
  rw [questionAccepted, asked, ← twelve, walked]

theorem questionOf_query (id : UInt16) (labels : List (List UInt8)) (qtype : UInt16) :
    questionOf (queryHeader id ++ questionBytes labels qtype) = questionBytes labels qtype := rfl

end Responses

theorem present_of_fits {labels : List (List UInt8)} (fits : ∀ label ∈ labels, Fits label) :
    present labels = labels := by
  refine List.filter_eq_self.mpr fun label member => ?_
  have one := (fits label member).1
  cases label with
  | nil => exact absurd one (by decide)
  | cons byte label => rfl

theorem first_unfit {labels : List (List UInt8)} (unfit : ¬∀ label ∈ labels, Fits label) :
    ∃ good label later, labels = good ++ label :: later ∧ (∀ label ∈ good, Fits label) ∧
      ¬Fits label := by
  induction labels with
  | nil => exact absurd (fun _ none_ => absurd none_ List.not_mem_nil) unfit
  | cons label labels ih =>
      by_cases fit : Fits label
      · have rest : ¬∀ label ∈ labels, Fits label :=
          fun all => unfit (List.forall_mem_cons.mpr ⟨fit, all⟩)
        obtain ⟨good, bad, later, rfl, goodFits, unfit_⟩ := ih rest
        exact ⟨label :: good, bad, later, rfl, List.forall_mem_cons.mpr ⟨fit, goodFits⟩, unfit_⟩
      · exact ⟨[], label, labels, rfl, fun _ none_ => absurd none_ List.not_mem_nil, fit⟩

theorem fits_small {labels : List (List UInt8)} (fits : ∀ label ∈ labels, Fits label) :
    ∀ label ∈ labels, label.length < 256 := by
  intro label member
  have most := (fits label member).2
  omega

/-- Where the length of the first label that does not fit is in its byte, no question has these
bytes. -/
theorem no_question {good later : List (List UInt8)} {label : List UInt8} {qtype : UInt16}
    (goodFits : ∀ label ∈ good, Fits label) (unfit : ¬Fits label) (small : label.length < 256)
    (question : Question) : question.bytes ≠ questionBytes (good ++ label :: later) qtype := by
  intro same
  rw [questionBytes, List.flatMap_append, List.flatMap_cons, List.append_assoc,
    List.append_assoc] at same
  have length : (UInt8.ofNat label.length).toNat = label.length := toNat_length small
  have stops : Stops (labelBytes label ++ (later.flatMap labelBytes ++
      (0 :: (wordBytes qtype ++ [0x00, 0x01])))) := by
    rintro byte ⟨⟩
    rw [length]
    by_cases empty : label.length = 0
    · exact Or.inl (by rw [empty]; rfl)
    · have large : ¬label.length ≤ 63 := fun most => unfit ⟨by omega, most⟩
      exact Or.inr (by omega)
  have ended : Stops (0 :: (wordBytes question.qtype ++ wordBytes question.qclass)) := by
    rintro byte ⟨⟩
    exact Or.inl rfl
  have tails := (labels_unique question.fits goodFits ended stops same).2
  have lengths := congrArg List.length tails
  -- five bytes end a question, and the label is before the five of the query
  simp only [labelBytes, wordBytes, List.length_append, List.length_cons,
    List.length_nil] at lengths
  omega

/-- The query is a well-formed question that comes back and that the other resolver asks as well
exactly when there are 1 to 63 bytes between the dots of the name. -/
theorem dns_question_iff (id other qtype : UInt16) (name : List Char) :
    ((∃ question : Question, question.bytes = questionOf (buildDnsQuery id name qtype)) ∧
        (∀ resp, Echoes id (buildDnsQuery id name qtype) resp →
          dnsResponseMatches resp id name qtype = true) ∧
        questionOf (buildDnsQuery id name qtype) = questionOf (buildQuery other name qtype)) ↔
      ∀ label ∈ splitLabels name, Fits label := by
  rw [buildDnsQuery, buildQuery, questionOf_query, questionOf_query]
  constructor
  · rintro ⟨⟨question, same⟩, accepted, _⟩
    by_contra unfit
    obtain ⟨good, label, later, whole, goodFits, bad⟩ := first_unfit unfit
    rw [whole] at same
    by_cases small : label.length < 256
    · exact no_question goodFits bad small question same
    · have response : (0x80 : UInt8) &&& 0x80 ≠ 0 := by decide
      have six : (List.replicate 6 (0x00 : UInt8)).length = 6 := List.length_replicate
      have accepted_ := accepted _ ⟨0x80, 0x00, List.replicate 6 0x00, [], response, six, rfl⟩
      have long : label.isEmpty = false := by
        cases label with
        | nil => exact absurd (show (0 : Nat) < 256 by decide) small
        | cons => rfl
      have expected : present (splitLabels name) = good ++ label :: present later := by
        have kept : present good = good := present_of_fits goodFits
        have here : present (label :: later) = label :: present later :=
          List.filter_cons_of_pos (by rw [long]; rfl)
        rw [whole, ← kept, ← here, kept, present, List.filter_append]
        exact congrArg (· ++ present (label :: later)) kept
      rw [questionOf_query, dnsResponseMatches_reply response six, expected, whole,
        questionAccepted_long (fits_small goodFits) small (replyHeader_length six)] at accepted_
      exact absurd accepted_ (by decide)
  · intro fits
    refine ⟨⟨⟨splitLabels name, fits, qtype, 1⟩, ?_⟩, ?_, ?_⟩
    · have one : wordBytes 1 = [0x00, 0x01] := by decide
      rw [Question.bytes, questionBytes, one]
    · rintro resp ⟨flags, later, counts, more, response, six, rfl⟩
      rw [questionOf_query, dnsResponseMatches_reply response six, present_of_fits fits]
      exact questionAccepted_own (fits_small fits) (replyHeader_length six) qtype more
    · rw [present_of_fits fits]

/-- The dot at the end becomes a second zero, and the type of the question is read from it. -/
theorem trailing_dot_malformed :
    ¬∀ (id other qtype : UInt16) (name : List Char),
      (∃ question : Question, question.bytes = questionOf (buildDnsQuery id name qtype)) ∧
        (∀ resp, Echoes id (buildDnsQuery id name qtype) resp →
          dnsResponseMatches resp id name qtype = true) ∧
        questionOf (buildDnsQuery id name qtype) = questionOf (buildQuery other name qtype) := by
  intro claim
  have same := (claim 1 1 qtypeA "example.com.".toList).2.2
  exact absurd same (by decide)

end MolidoVpn.Dns
