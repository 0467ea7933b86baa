import MolidoVpn.Address
import MolidoVpn.Lib.Text

/-!
Addresses as text: the parser of the standard library and its `Display`. The
characters that a literal can hold, and what tells the two families apart.
-/

namespace MolidoVpn.IpText

open Text (Solid isWhitespace decimal)

/-- The value of a digit or a letter. -/
def digitValue (c : Char) : Option Nat :=
  let code := c.toNat
  if 48 ≤ code ∧ code ≤ 57 then some (code - 48)
  else if 97 ≤ code ∧ code ≤ 122 then some (code - 87)
  else if 65 ≤ code ∧ code ≤ 90 then some (code - 55)
  else none

/-- `char::to_digit` for a radix up to 36. -/
def toDigit (radix : Nat) (c : Char) : Option Nat := (digitValue c).filter (· < radix)

def isDigitOf (radix : Nat) (c : Char) : Bool := (toDigit radix c).isSome

/-- The number that the digits stand for. -/
def valueOf (radix : Nat) (digits : List Char) : Nat :=
  digits.foldl (fun value c => value * radix + (toDigit radix c).getD 0) 0

/-- `read_number` into a type with `bound` values. -/
def readNumber (radix maxDigits bound : Nat) (allowZeroPrefix : Bool) (s : List Char) :
    Option (Nat × List Char) :=
  let digits := s.takeWhile (isDigitOf radix)
  let value := valueOf radix digits
  if digits = [] ∨ digits.length > maxDigits ∨ bound ≤ value then none
  else if allowZeroPrefix = false ∧ s.head? = some '0' ∧ digits.length > 1 then none
  else some (value, s.dropWhile (isDigitOf radix))

def readGivenChar (given : Char) : List Char → Option (List Char)
  | [] => none
  | c :: s => if c = given then some s else none

/-- `read_separator`: from the second element on, the separator comes first. -/
def readSeparator {Value : Type} (sep : Char) (index : Nat)
    (inner : List Char → Option (Value × List Char)) (s : List Char) :
    Option (Value × List Char) :=
  if 0 < index then (readGivenChar sep s).bind inner else inner s

def readOctet (index : Nat) : List Char → Option (Nat × List Char) :=
  readSeparator '.' index (readNumber 10 3 256 false)

def readIpv4Addr (s : List Char) : Option (Ipv4Addr × List Char) := do
  let (a, s) ← readOctet 0 s
  let (b, s) ← readOctet 1 s
  let (c, s) ← readOctet 2 s
  let (d, s) ← readOctet 3 s
  return ({ a := UInt8.ofNat a, b := UInt8.ofNat b, c := UInt8.ofNat c, d := UInt8.ofNat d }, s)

/-- The groups read, whether the last two are an embedded IPv4 address, and what is left. -/
structure Groups where
  groups : List Nat
  ipv4 : Bool
  rest : List Char

/-- The two groups of an embedded address. -/
def groupsOf (ip : Ipv4Addr) : List Nat :=
  [ip.a.toNat * 256 + ip.b.toNat, ip.c.toNat * 256 + ip.d.toNat]

def readEmbedded (index left : Nat) (s : List Char) : Option (Ipv4Addr × List Char) :=
  if 0 < left then readSeparator ':' index readIpv4Addr s else none

def readGroup (index : Nat) : List Char → Option (Nat × List Char) :=
  readSeparator ':' index (readNumber 16 4 65536 true)

/-- The loop of `read_groups` from `index` on, with room for so many groups. -/
def readGroups (index : Nat) : Nat → List Char → Groups
  | 0, s => { groups := [], ipv4 := false, rest := s }
  | left + 1, s =>
      match readEmbedded index left s with
      | some (ip, s) => { groups := groupsOf ip, ipv4 := true, rest := s }
      | none =>
          match readGroup index s with
          | none => { groups := [], ipv4 := false, rest := s }
          | some (group, s) =>
              let later := readGroups (index + 1) left s
              { later with groups := group :: later.groups }

/-- Eight groups in network byte order. -/
def ofGroups (groups : List Nat) : Ipv6Addr :=
  { octets := (List.range 16).map fun index =>
      let group := groups.getD (index / 2) 0
      UInt8.ofNat (if index % 2 = 0 then group / 256 else group % 256)
    length_eq := by rw [List.length_map, List.length_range] }

def readIpv6Addr (s : List Char) : Option (Ipv6Addr × List Char) :=
  let head := readGroups 0 8 s
  if head.groups.length = 8 then some (ofGroups head.groups, head.rest)
  else if head.ipv4 then none
  else
    match (readGivenChar ':' head.rest).bind (readGivenChar ':') with
    | none => none
    | some s =>
        let tail := readGroups 0 (8 - (head.groups.length + 1)) s
        let zeros := List.replicate (8 - head.groups.length - tail.groups.length) 0
        some (ofGroups (head.groups ++ zeros ++ tail.groups), tail.rest)

def readIpAddr (s : List Char) : Option (IpAddr × List Char) :=
  match readIpv4Addr s with
  | some (ip, s) => some (.v4 ip, s)
  | none => (readIpv6Addr s).map fun (ip, s) => (.v6 ip, s)

/-- `IpAddr::from_str`: nothing may be left. -/
def parseIpAddr (s : List Char) : Option IpAddr :=
  match readIpAddr s with
  | some (ip, []) => some ip
  | _ => none

def displayIpv4 (ip : Ipv4Addr) : List Char :=
  decimal ip.a.toNat ++ '.' :: decimal ip.b.toNat ++ '.' :: decimal ip.c.toNat ++
    '.' :: decimal ip.d.toNat

def segments (ip : Ipv6Addr) : List Nat :=
  (List.range 8).map fun index =>
    (ip.octets.getD (2 * index) 0).toNat * 256 + (ip.octets.getD (2 * index + 1) 0).toNat

/-- `to_ipv4_mapped`: `::ffff:a.b.c.d` -/
def toIpv4Mapped (ip : Ipv6Addr) : Option Ipv4Addr :=
  if ip.octets.take 12 = List.replicate 10 0 ++ [0xff, 0xff] then
    some
      { a := ip.octets.getD 12 0
        b := ip.octets.getD 13 0
        c := ip.octets.getD 14 0
        d := ip.octets.getD 15 0 }
  else none

structure Span where
  start : Nat
  len : Nat

/-- The first of the longest runs of zero segments. -/
def zeroRun (index : Nat) (longest current : Span) : List Nat → Span
  | [] => longest
  | segment :: rest =>
      if segment = 0 then
        let current : Span :=
          { start := if current.len = 0 then index else current.start, len := current.len + 1 }
        zeroRun (index + 1) (if current.len > longest.len then current else longest) current rest
      else zeroRun (index + 1) longest ⟨0, 0⟩ rest

def hex (value : Nat) : List Char := Nat.toDigits 16 value

/-- `fmt_subslice`: the segments with colons between them. -/
def fmtSubslice : List Nat → List Char
  | [] => []
  | first :: tail => hex first ++ tail.flatMap fun segment => ':' :: hex segment

def displayIpv6 (ip : Ipv6Addr) : List Char :=
  match toIpv4Mapped ip with
  | some v4 => "::ffff:".toList ++ displayIpv4 v4
  | none =>
      let zeros := zeroRun 0 ⟨0, 0⟩ ⟨0, 0⟩ (segments ip)
      if 1 < zeros.len then
        fmtSubslice ((segments ip).take zeros.start) ++ "::".toList ++
          fmtSubslice ((segments ip).drop (zeros.start + zeros.len))
      else fmtSubslice (segments ip)

def display : IpAddr → List Char
  | .v4 ip => displayIpv4 ip
  | .v6 ip => displayIpv6 ip

section Characters

/-- What a reader takes consists of allowed characters, at most so many of them. -/
def Consumes {Value : Type} (allowed : Char → Prop) (most : Nat)
    (read : List Char → Option (Value × List Char)) : Prop :=
  ∀ s value rest, read s = some (value, rest) →
    ∃ taken, s = taken ++ rest ∧ (∀ c ∈ taken, allowed c) ∧ taken.length ≤ most

/-- The characters of an IPv4 literal. -/
def Ipv4Char (c : Char) : Prop := isDigitOf 10 c = true ∨ c = '.'

/-- The characters of a literal of either family. -/
def IpChar (c : Char) : Prop := isDigitOf 16 c = true ∨ c = '.' ∨ c = ':'

instance (c : Char) : Decidable (Ipv4Char c) := inferInstanceAs (Decidable (_ ∨ _))

instance (c : Char) : Decidable (IpChar c) := inferInstanceAs (Decidable (_ ∨ _))

variable {Value : Type} {allowed : Char → Prop} {most : Nat}

private theorem readNumber_consumes (radix maxDigits bound : Nat) (allowZeroPrefix : Bool) :
    Consumes (fun c => isDigitOf radix c = true) maxDigits
      (readNumber radix maxDigits bound allowZeroPrefix) := by
  intro s value rest read
  unfold readNumber at read
  simp only at read
  split at read
  · cases read
  · rename_i fits
    split at read
    · cases read
    · cases read
      refine ⟨_, List.takeWhile_append_dropWhile.symm, List.all_eq_true.mp List.all_takeWhile, ?_⟩
      exact Nat.le_of_not_lt fun long => fits (Or.inr (Or.inl long))

private theorem readGivenChar_some {given : Char} {s rest : List Char}
    (read : readGivenChar given s = some rest) : s = given :: rest := by
  cases s with
  | nil => cases read
  | cons c s =>
      rw [readGivenChar] at read
      split at read
      · rename_i same
        cases read
        rw [same]
      · cases read

private theorem readSeparator_some {sep : Char} {index : Nat}
    {inner : List Char → Option (Value × List Char)} (consumes : Consumes allowed most inner)
    {s rest : List Char} {value : Value}
    (read : readSeparator sep index inner s = some (value, rest)) :
    ∃ taken, s = (if 0 < index then sep :: taken else taken) ++ rest ∧
      (∀ c ∈ taken, allowed c) ∧ taken.length ≤ most := by
  unfold readSeparator at read
  by_cases later : 0 < index
  · rw [if_pos later, Option.bind_eq_some_iff] at read
    obtain ⟨behind, given, read⟩ := read
    obtain ⟨taken, rfl, chars⟩ := consumes behind value rest read
    refine ⟨taken, ?_, chars⟩
    rw [if_pos later, readGivenChar_some given, List.cons_append]
  · rw [if_neg later] at read
    obtain ⟨taken, rfl, chars⟩ := consumes s value rest read
    exact ⟨taken, by rw [if_neg later], chars⟩

private theorem readOctet_consumes (index : Nat) : Consumes Ipv4Char 4 (readOctet index) := by
  intro s value rest read
  obtain ⟨taken, whole, digits, short⟩ :=
    readSeparator_some (readNumber_consumes 10 3 256 false) read
  refine ⟨_, whole, ?_, ?_⟩
  · intro c member
    split at member
    · rcases List.mem_cons.mp member with sep | digit
      · exact Or.inr sep
      · exact Or.inl (digits c digit)
    · exact Or.inl (digits c member)
  · split
    · rw [List.length_cons]
      omega
    · omega

private theorem readIpv4Addr_consumes : Consumes Ipv4Char 16 readIpv4Addr := by
  intro s ip rest read
  simp only [readIpv4Addr, Option.bind_eq_bind, Option.bind_eq_some_iff, Option.pure_def,
    Option.some.injEq, Prod.mk.injEq] at read
  obtain ⟨⟨a, s1⟩, first, ⟨b, s2⟩, second, ⟨c, s3⟩, third, ⟨d, s4⟩, fourth, _, rfl⟩ := read
  obtain ⟨taken1, rfl, chars1, short1⟩ := readOctet_consumes 0 _ _ _ first
  obtain ⟨taken2, rfl, chars2, short2⟩ := readOctet_consumes 1 _ _ _ second
  obtain ⟨taken3, rfl, chars3, short3⟩ := readOctet_consumes 2 _ _ _ third
  obtain ⟨taken4, rfl, chars4, short4⟩ := readOctet_consumes 3 _ _ _ fourth
  refine ⟨taken1 ++ taken2 ++ taken3 ++ taken4, by simp only [List.append_assoc], ?_, ?_⟩
  · intro c member
    simp only [List.mem_append] at member
    rcases member with ((one | two) | three) | four
    · exact chars1 c one
    · exact chars2 c two
    · exact chars3 c three
    · exact chars4 c four
  · simp only [List.length_append]
    omega

private theorem isDigitOf_mono {radix larger : Nat} (le : radix ≤ larger) {c : Char}
    (digit : isDigitOf radix c = true) : isDigitOf larger c = true := by
  unfold isDigitOf toDigit at digit ⊢
  cases value : digitValue c with
  | none =>
      rw [value] at digit
      cases digit
  | some value' =>
      rw [value] at digit
      by_cases below : value' < radix
      · rw [Option.filter_some, if_pos (decide_eq_true (Nat.lt_of_lt_of_le below le))]
        rfl
      · rw [Option.filter_some, if_neg (by rw [decide_eq_true_eq]; exact below)] at digit
        cases digit

private theorem isWhitespace_of_isDigitOf {radix : Nat} {c : Char}
    (digit : isDigitOf radix c = true) : isWhitespace c = false := by
  have value : digitValue c ≠ none := by
    intro none_
    rw [isDigitOf, toDigit, none_] at digit
    cases digit
  have ranges : (48 ≤ c.toNat ∧ c.toNat ≤ 57) ∨ (97 ≤ c.toNat ∧ c.toNat ≤ 122) ∨
      (65 ≤ c.toNat ∧ c.toNat ≤ 90) := by
    by_contra outside
    apply value
    rw [digitValue, if_neg (by omega), if_neg (by omega), if_neg (by omega)]
  simp only [isWhitespace, Bool.or_eq_false_iff, Bool.and_eq_false_iff, decide_eq_false_iff_not,
    beq_eq_false_iff_ne]
  omega

theorem ipChar_of_ipv4Char {c : Char} (char : Ipv4Char c) : IpChar c := by
  rcases char with digit | dot
  · exact Or.inl (isDigitOf_mono (by decide) digit)
  · exact Or.inr (Or.inl dot)

private theorem ascii_of_isDigitOf {radix : Nat} {c : Char} (digit : isDigitOf radix c = true) :
    c.toNat < 128 := by
  by_contra outside
  have none_ : digitValue c = none := by
    rw [digitValue, if_neg (by omega), if_neg (by omega), if_neg (by omega)]
  rw [isDigitOf, toDigit, none_] at digit
  cases digit

theorem ascii_of_ipChar {c : Char} (char : IpChar c) : c.toNat < 128 := by
  rcases char with digit | rfl | rfl
  · exact ascii_of_isDigitOf digit
  · decide
  · decide

theorem solid_of_ipChar {text : List Char} (chars : ∀ c ∈ text, IpChar c) : Solid text := by
  intro c member
  rcases chars c member with digit | rfl | rfl
  · exact isWhitespace_of_isDigitOf digit
  · rfl
  · rfl

private theorem readEmbedded_some {index left : Nat} {s rest : List Char} {ip : Ipv4Addr}
    (read : readEmbedded index left s = some (ip, rest)) :
    0 < left ∧ ∃ taken, s = (if 0 < index then ':' :: taken else taken) ++ rest ∧
      (∀ c ∈ taken, Ipv4Char c) ∧ taken.length ≤ 16 := by
  unfold readEmbedded at read
  split at read
  · rename_i room
    exact ⟨room, readSeparator_some readIpv4Addr_consumes read⟩
  · cases read

/-- Between two groups there is a colon; an embedded address makes two groups of one. -/
private theorem readGroups_consumes (index left : Nat) (s : List Char) :
    ∃ taken, s = taken ++ (readGroups index left s).rest ∧ (∀ c ∈ taken, IpChar c) ∧
      (readGroups index left s).groups.length ≤ taken.count ':' +
        (if 0 < index then 0 else 1) + (if (readGroups index left s).ipv4 then 1 else 0) ∧
      taken.length ≤ 10 * (readGroups index left s).groups.length ∧
      (readGroups index left s).groups.length ≤ left := by
  induction left generalizing index s with
  | zero =>
      exact ⟨[], rfl, fun _ none_ => absurd none_ List.not_mem_nil, Nat.zero_le _, Nat.le_refl _,
        Nat.le_refl _⟩
  | succ left ih =>
      have separated {taken : List Char} (chars : ∀ c ∈ taken, IpChar c) :
          (∀ c ∈ if 0 < index then ':' :: taken else taken, IpChar c) ∧
            1 ≤ (if 0 < index then ':' :: taken else taken).count ':' +
              (if 0 < index then 0 else 1) ∧
            (if 0 < index then ':' :: taken else taken).length ≤ taken.length + 1 := by
        by_cases later : 0 < index
        · simp only [if_pos later, List.count_cons_self, List.length_cons]
          refine ⟨?_, by omega, Nat.le_refl _⟩
          intro c member
          rcases List.mem_cons.mp member with rfl | there
          · exact Or.inr (Or.inr rfl)
          · exact chars c there
        · simp only [if_neg later]
          exact ⟨chars, by omega, Nat.le_succ _⟩
      rw [readGroups]
      cases embedded : readEmbedded index left s with
      | some found =>
          obtain ⟨ip, rest⟩ := found
          obtain ⟨room, taken, whole, chars, short⟩ := readEmbedded_some embedded
          obtain ⟨all, counted, length⟩ :=
            separated fun c member => ipChar_of_ipv4Char (chars c member)
          refine ⟨_, whole, all, ?_, ?_, ?_⟩
          · simp only [groupsOf, List.length_cons, List.length_nil, if_true]
            omega
          · simp only [groupsOf, List.length_cons, List.length_nil]
            omega
          · simp only [groupsOf, List.length_cons, List.length_nil]
            omega
      | none =>
          cases group : readGroup index s with
          | none =>
              exact ⟨[], rfl, fun _ none_ => absurd none_ List.not_mem_nil, Nat.zero_le _,
                Nat.le_refl _, Nat.zero_le _⟩
          | some found =>
              obtain ⟨value, rest⟩ := found
              obtain ⟨taken, whole, digits, short⟩ :=
                readSeparator_some (readNumber_consumes 16 4 65536 true) group
              obtain ⟨all, counted, length⟩ := separated fun c member => Or.inl (digits c member)
              obtain ⟨more, others, chars, enough, bounded, room⟩ := ih (index + 1) rest
              refine ⟨(if 0 < index then ':' :: taken else taken) ++ more, ?_, ?_, ?_, ?_, ?_⟩
              · rw [List.append_assoc, ← others]
                exact whole
              · intro c member
                rcases List.mem_append.mp member with early | late
                · exact all c early
                · exact chars c late
              · simp only [List.length_cons, List.count_append]
                rw [if_pos (Nat.succ_pos index)] at enough
                omega
              · simp only [List.length_cons, List.length_append]
                omega
              · simp only [List.length_cons]
                omega

private theorem readIpv6Addr_consumes {s rest : List Char} {ip : Ipv6Addr}
    (read : readIpv6Addr s = some (ip, rest)) :
    ∃ taken, s = taken ++ rest ∧ (∀ c ∈ taken, IpChar c) ∧ 2 ≤ taken.count ':' ∧
      taken.length ≤ 152 := by
  unfold readIpv6Addr at read
  obtain ⟨front, whole, chars, enough, short, room⟩ := readGroups_consumes 0 8 s
  simp only at read
  split at read
  · rename_i full
    cases read
    refine ⟨front, whole, chars, ?_, by omega⟩
    rw [full] at enough
    split at enough <;> split at enough <;> omega
  · split at read
    · cases read
    · cases colons : (readGivenChar ':' (readGroups 0 8 s).rest).bind (readGivenChar ':') with
      | none =>
          rw [colons] at read
          cases read
      | some behind =>
          rw [colons] at read
          cases read
          rw [Option.bind_eq_some_iff] at colons
          obtain ⟨middle, first, second⟩ := colons
          obtain ⟨back, others, charsBack, _, shortBack, roomBack⟩ :=
            readGroups_consumes 0 (8 - ((readGroups 0 8 s).groups.length + 1)) behind
          refine ⟨front ++ ':' :: ':' :: back, ?_, ?_, ?_, ?_⟩
          · have split : s = front ++ ':' :: ':' :: behind := by
              rw [← readGivenChar_some second, ← readGivenChar_some first]
              exact whole
            have joined : front ++ ':' :: ':' :: behind = (front ++ ':' :: ':' :: back) ++
                (readGroups 0 (8 - ((readGroups 0 8 s).groups.length + 1)) behind).rest := by
              rw [List.append_assoc, List.cons_append, List.cons_append, ← others]
            exact split.trans joined
          · intro c member
            simp only [List.mem_append, List.mem_cons] at member
            rcases member with early | rfl | rfl | late
            · exact chars c early
            · exact Or.inr (Or.inr rfl)
            · exact Or.inr (Or.inr rfl)
            · exact charsBack c late
          · simp only [List.count_append, List.count_cons_self]
            omega
          · simp only [List.length_append, List.length_cons]
            omega

/-- A literal of IPv4 has digits and dots; one of IPv6 has at least two colons. -/
def LiteralChars (text : List Char) : IpAddr → Prop
  | .v4 _ => ∀ c ∈ text, Ipv4Char c
  | .v6 _ => (∀ c ∈ text, IpChar c) ∧ 2 ≤ text.count ':'

theorem LiteralChars.ipChar {text : List Char} {ip : IpAddr} (chars : LiteralChars text ip) :
    ∀ c ∈ text, IpChar c := by
  cases ip with
  | v4 addr => exact fun c member => ipChar_of_ipv4Char (chars c member)
  | v6 addr => exact chars.1

private theorem parseIpAddr_shape {text : List Char} {ip : IpAddr}
    (parsed : parseIpAddr text = some ip) : LiteralChars text ip ∧ text.length ≤ 152 := by
  unfold parseIpAddr at parsed
  split at parsed
  case h_2 => cases parsed
  case h_1 found read =>
      cases parsed
      unfold readIpAddr at read
      cases v4 : readIpv4Addr text with
      | some front =>
          obtain ⟨addr, rest⟩ := front
          rw [v4] at read
          cases read
          obtain ⟨taken, whole, chars, short⟩ := readIpv4Addr_consumes _ _ _ v4
          rw [whole, List.append_nil]
          exact ⟨chars, by omega⟩
      | none =>
          rw [v4, Option.map_eq_some_iff] at read
          obtain ⟨⟨addr, rest⟩, read, same⟩ := read
          cases same
          obtain ⟨taken, whole, chars, colons, short⟩ := readIpv6Addr_consumes read
          rw [whole, List.append_nil]
          exact ⟨⟨chars, colons⟩, short⟩

theorem parseIpAddr_chars {text : List Char} {ip : IpAddr} (parsed : parseIpAddr text = some ip) :
    LiteralChars text ip :=
  (parseIpAddr_shape parsed).1

/-- A literal fits into the length byte of a SOCKS5 request. -/
theorem parseIpAddr_length {text : List Char} {ip : IpAddr} (parsed : parseIpAddr text = some ip) :
    text.length < 256 := by
  have short := (parseIpAddr_shape parsed).2
  omega

/-- The text of an IPv6 address up to its first colon: digits, or two colons and no third. -/
def ColonText (text : List Char) : Prop :=
  ∃ first rest, text = first ++ ':' :: rest ∧ (∀ c ∈ first, isDigitOf 16 c = true) ∧
    (first = [] → ∃ more, rest = ':' :: more ∧ more.head? ≠ some ':')

private theorem readNumber_some {radix maxDigits bound value : Nat} {allowZeroPrefix : Bool}
    {s rest : List Char}
    (read : readNumber radix maxDigits bound allowZeroPrefix s = some (value, rest)) :
    s.takeWhile (isDigitOf radix) ≠ [] ∧ rest = s.dropWhile (isDigitOf radix) := by
  unfold readNumber at read
  simp only at read
  split at read
  · cases read
  · rename_i fits
    split at read
    · cases read
    · cases read
      exact ⟨fun none_ => fits (Or.inl none_), rfl⟩

private theorem readNumber_colon (radix maxDigits bound : Nat) (allowZeroPrefix : Bool)
    (other : isDigitOf radix ':' = false) (s : List Char) :
    readNumber radix maxDigits bound allowZeroPrefix (':' :: s) = none := by
  rw [readNumber, List.takeWhile_cons_of_neg (by rw [other]; exact Bool.false_ne_true)]
  exact if_pos (Or.inl rfl)

/-- Groups do not begin with a colon. -/
private theorem readGroups_colon (left : Nat) (s : List Char) :
    readGroups 0 left (':' :: s) = { groups := [], ipv4 := false, rest := ':' :: s } := by
  cases left with
  | zero => rfl
  | succ left =>
      have octet : readOctet 0 (':' :: s) = none := readNumber_colon 10 3 256 false rfl s
      have address : readIpv4Addr (':' :: s) = none := by
        rw [readIpv4Addr, octet]
        rfl
      have embedded : readEmbedded 0 left (':' :: s) = none := by
        unfold readEmbedded
        split
        · exact address
        · rfl
      have group : readGroup 0 (':' :: s) = none := readNumber_colon 16 4 65536 true rfl s
      rw [readGroups, embedded, group]

/-- Behind a group comes a colon, unless nothing is read. -/
private theorem readGroups_behind (index left : Nat) (s : List Char) :
    (∃ rest, s = ':' :: rest) ∨
      readGroups (index + 1) left s = { groups := [], ipv4 := false, rest := s } := by
  cases left with
  | zero => exact Or.inr rfl
  | succ left =>
      have separated {Value : Type} {inner : List Char → Option (Value × List Char)}
          {found : Value × List Char}
          (read : readSeparator ':' (index + 1) inner s = some found) : ∃ rest, s = ':' :: rest := by
        rw [readSeparator, if_pos (Nat.succ_pos index), Option.bind_eq_some_iff] at read
        obtain ⟨behind, given, _⟩ := read
        exact ⟨behind, readGivenChar_some given⟩
      cases embedded : readEmbedded (index + 1) left s with
      | some found =>
          unfold readEmbedded at embedded
          split at embedded
          · exact Or.inl (separated embedded)
          · cases embedded
      | none =>
          cases group : readGroup (index + 1) s with
          | some found => exact Or.inl (separated group)
          | none => exact Or.inr (by rw [readGroups, embedded, group])

/-- The first group, if there is one, and the colon behind it. -/
private theorem readIpv6Addr_first {s : List Char} {ip : Ipv6Addr}
    (read : readIpv6Addr s = some (ip, [])) : ColonText s := by
  unfold readIpv6Addr at read
  cases embedded : readEmbedded 0 7 s with
  | some found =>
      simp only [readGroups, embedded] at read
      cases read
  | none =>
      cases group : readGroup 0 s with
      | none =>
          have nothing : readGroups 0 8 s = { groups := [], ipv4 := false, rest := s } := by
            rw [readGroups, embedded, group]
          simp only [nothing, List.length_nil] at read
          rw [if_neg (by decide), if_neg Bool.false_ne_true] at read
          cases colons : (readGivenChar ':' s).bind (readGivenChar ':') with
          | none =>
              rw [colons] at read
              cases read
          | some behind =>
              rw [colons] at read
              obtain ⟨middle, first, second⟩ := Option.bind_eq_some_iff.mp colons
              refine ⟨[], ':' :: behind, ?_, fun _ none_ => absurd none_ List.not_mem_nil, ?_⟩
              · rw [readGivenChar_some first, readGivenChar_some second]
                rfl
              · intro _
                refine ⟨behind, rfl, ?_⟩
                intro third
                obtain ⟨rest, rfl⟩ := List.head?_eq_some_iff.mp third
                simp only [readGroups_colon] at read
                cases read
      | some found =>
          obtain ⟨value, rest⟩ := found
          have digits : s.takeWhile (isDigitOf 16) ≠ [] ∧ rest = s.dropWhile (isDigitOf 16) :=
            readNumber_some group
          have parts : s = s.takeWhile (isDigitOf 16) ++ rest := by
            rw [digits.2, List.takeWhile_append_dropWhile]
          have first : readGroups 0 8 s =
              { readGroups 1 7 rest with groups := value :: (readGroups 1 7 rest).groups } := by
            rw [readGroups, embedded, group]
          have colon : ∃ behind, rest = ':' :: behind := by
            rcases readGroups_behind 0 7 rest with colon | nothing
            · exact colon
            · simp only [first, nothing, List.length_cons, List.length_nil] at read
              rw [if_neg (by decide), if_neg Bool.false_ne_true] at read
              cases colons : (readGivenChar ':' rest).bind (readGivenChar ':') with
              | none =>
                  rw [colons] at read
                  cases read
              | some behind =>
                  obtain ⟨middle, given, _⟩ := Option.bind_eq_some_iff.mp colons
                  exact ⟨middle, readGivenChar_some given⟩
          obtain ⟨behind, rfl⟩ := colon
          exact ⟨_, behind, parts, List.all_eq_true.mp List.all_takeWhile,
            fun none_ => absurd none_ digits.1⟩

theorem parseIpAddr_colonText {text : List Char} {ip : Ipv6Addr}
    (parsed : parseIpAddr text = some (.v6 ip)) : ColonText text := by
  unfold parseIpAddr at parsed
  split at parsed
  case h_2 => cases parsed
  case h_1 found read =>
      cases parsed
      unfold readIpAddr at read
      cases v4 : readIpv4Addr text with
      | some front =>
          rw [v4] at read
          cases read
      | none =>
          rw [v4, Option.map_eq_some_iff] at read
          obtain ⟨⟨addr, rest⟩, read, same⟩ := read
          cases same
          exact readIpv6Addr_first read

theorem parseIpAddr_ne_nil {text : List Char} {ip : IpAddr} (parsed : parseIpAddr text = some ip) :
    text ≠ [] := by
  rintro rfl
  cases parsed

theorem toDigits_isDigitOf {radix : Nat} (large : 1 < radix)
    (digits : ∀ value < radix, isDigitOf radix value.digitChar = true) (value : Nat) :
    ∀ c ∈ Nat.toDigits radix value, isDigitOf radix c = true := by
  induction value using Nat.strongRecOn with
  | ind value ih =>
      intro c member
      rw [Nat.toDigits_eq_if large] at member
      by_cases below : value < radix
      · rw [if_pos below] at member
        rw [List.mem_singleton.mp member]
        exact digits value below
      · rw [if_neg below] at member
        rcases List.mem_append.mp member with early | last
        · exact ih (value / radix) (Nat.div_lt_self (by omega) large) c early
        · rw [List.mem_singleton.mp last]
          exact digits _ (Nat.mod_lt _ (by omega))

end Characters

end MolidoVpn.IpText
