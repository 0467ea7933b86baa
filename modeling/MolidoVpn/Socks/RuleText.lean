import MolidoVpn.Lib.Lowercase
import MolidoVpn.Socks.Routing

/-!
The text of the routing rules: how an entry becomes a matcher, how a list is cut into entries, and
how a rules file is put behind the lists of the environment. A line of the file is cut again where
the list is.
-/

namespace MolidoVpn.Routing

open IpText (parseIpAddr parseIpAddr_chars isDigitOf valueOf IpChar ColonText)
open Lowercase (CaseTables)
open Text (splitAround trim parseU16)

/-- The text of a network in CIDR notation, as far as the rules look at it. -/
structure NetText (text : List Char) (net : IpNet) : Prop where
  chars : ∀ c ∈ text, IpChar c ∨ c = '/'
  slash : '/' ∈ text
  v4 : ∀ ip, net.addr = .v4 ip → ':' ∉ text
  v6 : ∀ ip, net.addr = .v6 ip → ColonText text

/-- What the rules take from Unicode and from the crates for regular expressions and networks. -/
structure Crates where
  tables : CaseTables
  regexNew : List Char → Option (List Char → Bool)
  ipNet : List Char → Option IpNet
  ipNet_text : ∀ text net, ipNet text = some net → NetText text net

variable (crates : Crates)

section Entries

/-- `to_lowercase` -/
def Crates.lower (text : List Char) : List Char := Lowercase.toLowercase crates.tables text

def normalizeDomain (value : List Char) : Option (List Char) :=
  let cleaned := crates.lower
    ((((trim value).dropWhile (· == '*')).dropWhile (· == '.')).rdropWhile (· == '.'))
  if cleaned = [] then none else some cleaned

def maxPrefixLen : IpAddr → Nat
  | .v4 _ => 32
  | .v6 _ => 128

def parseNet (value : List Char) : Option IpNet :=
  let value := trim value
  match crates.ipNet value with
  | some net => some net
  | none => (parseIpAddr value).map fun ip => { addr := ip, prefixLen := maxPrefixLen ip }

def parsePorts (value : List Char) : Option (UInt16 × UInt16) :=
  let value := trim value
  match splitAround ['-'] value with
  | some (lo, hi) =>
      (parseU16 (trim lo)).bind fun lo =>
        (parseU16 (trim hi)).map fun hi => if hi < lo then (hi, lo) else (lo, hi)
  | none => (parseU16 value).map fun single => (single, single)

/-- The kind of an entry, if it has one, and its value. -/
def kindAndValue (entry : List Char) : List Char × List Char :=
  match splitAround [':'] entry with
  | some (kind, value) =>
      if !kind.contains '.' && !kind.contains '/' then (crates.lower (trim kind), trim value)
      else ([], entry)
  | none => ([], entry)

def Matcher.ofKind (kind value : List Char) : Option Matcher :=
  if kind = "domain".toList ∨ kind = "suffix".toList then
    (normalizeDomain crates value).map .domainSuffix
  else if kind = "full".toList ∨ kind = "exact".toList then
    (normalizeDomain crates value).map .domainFull
  else if kind = "keyword".toList then
    let needle := crates.lower (trim value)
    if needle = [] then none else some (.domainKeyword needle)
  else if kind = "regexp".toList ∨ kind = "regex".toList then
    (crates.regexNew value).map .domainRegex
  else if kind = "ip".toList ∨ kind = "cidr".toList then (parseNet crates value).map .net
  else if kind = "port".toList then (parsePorts value).map fun (lo, hi) => .ports lo hi
  else if kind = "geoip".toList ∨ kind = "geosite".toList then
    if eqIgnoreAsciiCase value "private".toList then some .isPrivate else none
  else if kind = [] then
    if eqIgnoreAsciiCase value "private".toList then some .isPrivate
    else
      match parseNet crates value with
      | some network => some (.net network)
      | none => (normalizeDomain crates value).map .domainSuffix
  else none

/-- `Matcher::parse` -/
def Matcher.parse (entry : List Char) : Option Matcher :=
  let entry := trim entry
  if entry = [] ∨ entry.head? = some '#' then none
  else
    let (kind, value) := kindAndValue crates entry
    Matcher.ofKind crates kind value

end Entries

section Lists

def isSeparator (c : Char) : Bool := c == '\n' || c == ',' || c == ';'

def parseList (raw : List Char) : List Matcher :=
  (raw.splitOnP isSeparator).filterMap (Matcher.parse crates)

/-- `RuleSet::parse` -/
def RuleSet.parse (block direct : List Char) : RuleSet :=
  { block := parseList crates block, direct := parseList crates direct }

def pushList (target extra : List Char) : List Char :=
  if trim extra = [] then target
  else if trim target = [] then target ++ extra
  else target ++ '\n' :: extra

/-- `str::lines`: a line that ends in a line feed may have a carriage return before it. -/
def lines (text : List Char) : List (List Char) :=
  let pieces := text.splitOn '\n'
  let ended := pieces.dropLast.map fun line =>
    if line.getLast? = some '\r' then line.dropLast else line
  match pieces.getLast? with
  | none => ended
  | some last => if last = [] then ended else ended ++ [last]

inductive Section where
  | block
  | direct
  deriving DecidableEq, Repr

/-- The two texts so far, and the section that the next line belongs to. -/
structure Sections where
  block : List Char
  direct : List Char
  current : Option Section

/-- One turn of the loop of `split_sections`. -/
def Sections.line (s : Sections) (line : List Char) : Sections :=
  let trimmed := trim line
  if trimmed = [] ∨ trimmed.head? = some '#' then s
  else
    let lowered := crates.lower trimmed
    if lowered = "[block]".toList then { s with current := some .block }
    else if lowered = "[direct]".toList then { s with current := some .direct }
    else if lowered.head? = some '[' then { s with current := none }
    else
      match s.current with
      | some .block => { s with block := s.block ++ trimmed ++ ['\n'] }
      | some .direct => { s with direct := s.direct ++ trimmed ++ ['\n'] }
      | none => s

def splitSections (text : List Char) : List Char × List Char :=
  let s := (lines text).foldl (Sections.line crates) ⟨[], [], none⟩
  (s.block, s.direct)

/-- `RuleSet::from_env`, with the two lists of the environment and the file that it names, if that
can be read. -/
def RuleSet.fromEnv (block direct : List Char) (file : Option (List Char)) : RuleSet :=
  match file with
  | none => RuleSet.parse crates block direct
  | some text =>
      let (fileBlock, fileDirect) := splitSections crates text
      RuleSet.parse crates (pushList block fileBlock) (pushList direct fileDirect)

end Lists

section Literal

/-- `str::parse::<IpNet>` where no number has a zero in front. -/
def readNet (text : List Char) : Option IpNet :=
  (splitAround ['/'] text).bind fun (addr, digits) =>
    (parseIpAddr addr).bind fun ip =>
      if digits ≠ [] ∧ digits.all (isDigitOf 10) = true ∧ valueOf 10 digits ≤ maxPrefixLen ip then
        some { addr := ip, prefixLen := valueOf 10 digits }
      else none

private theorem not_digit_of_literal {digits : List Char} {c : Char}
    (decimal : digits.all (isDigitOf 10) = true) (other : isDigitOf 10 c = false) :
    c ∉ digits := by
  intro member
  have digit := List.all_eq_true.mp decimal c member
  rw [other] at digit
  cases digit

theorem readNet_text (text : List Char) (net : IpNet) (read : readNet text = some net) :
    NetText text net := by
  obtain ⟨⟨addr, digits⟩, split, read⟩ := Option.bind_eq_some_iff.mp read
  obtain ⟨ip, parsed, read⟩ := Option.bind_eq_some_iff.mp read
  split at read
  case isFalse => cases read
  case isTrue fits =>
      cases read
      have whole : text = addr ++ '/' :: digits := Text.splitAround_eq_append split
      have literal := parseIpAddr_chars parsed
      rw [whole]
      refine ⟨?_, List.mem_append_right _ List.mem_cons_self, ?_, ?_⟩
      · intro c member
        rcases List.mem_append.mp member with early | late
        · exact Or.inl (literal.ipChar c early)
        · rcases List.mem_cons.mp late with rfl | digit
          · exact Or.inr rfl
          · exact Or.inl (IpText.ipChar_of_ipv4Char
              (Or.inl (List.all_eq_true.mp fits.2.1 c digit)))
      · rintro v4 rfl member
        rcases List.mem_append.mp member with early | late
        · exact absurd (literal ':' early) (by decide)
        · rcases List.mem_cons.mp late with slash | digit
          · exact absurd slash (by decide)
          · exact not_digit_of_literal fits.2.1 (by decide) digit
      · rintro v6 rfl
        obtain ⟨first, rest, rfl, digits_, short⟩ := IpText.parseIpAddr_colonText parsed
        refine ⟨first, rest ++ '/' :: digits, by rw [List.append_assoc, List.cons_append],
          digits_, fun none_ => ?_⟩
        obtain ⟨more, rfl, third⟩ := short none_
        refine ⟨more ++ '/' :: digits, rfl, ?_⟩
        cases more with
        | nil => exact fun same => absurd (Option.some.inj same) (by decide)
        | cons c more => exact third

/-- The crates on patterns that stand for themselves. -/
def literalCrates : Crates where
  tables := Lowercase.asciiTables
  regexNew pattern := some fun name => (splitAround pattern name).isSome
  ipNet := readNet
  ipNet_text := readNet_text

end Literal

end MolidoVpn.Routing
