import MolidoVpn.Lib.Transition
import MolidoVpn.V2ray.Nodes

/-!
`RemotePolicy`: three lists that come in one file, each with the compiled-in list as a fallback.
The file that is cached is the one that has been fetched, not what has been made of it.
-/

namespace MolidoVpn.Shard.RemotePolicy

open Kotlin (Unicode trim toIntOrNull)
open V2ray (texts)
open Text (decimal)
open Transition (Run Restrict ofNext execute run_of_execute)

def maxEdges : Nat := 24

def maxHosts : Nat := 64

def maxSanctioned : Nat := 64

def scanFactor : Nat := 8

/-- The platform as the lists are read by it. -/
structure Device extends OrgJson where
  unicode : Unicode
  cloudflareIpv6 : List Char → Bool

def wildcardDeny : List (List Char) :=
  texts ["co.ir", "ac.ir", "org.ir", "net.ir", "gov.ir", "id.ir", "sch.ir", "co.uk", "org.uk",
    "ac.uk", "gov.uk", "com.au", "com.br", "com.cn", "com.tr", "com.mx", "com.ar", "co.jp", "co.kr",
    "co.in", "co.za", "co.nz", "com.sa", "com.eg"]

section Addresses

variable (unicode : Unicode)

/-- One to three ASCII digits four times, with dots between them. -/
def dottedQuad (value : List Char) : Bool :=
  let parts := value.splitOn '.'
  parts.length = 4 && parts.all fun part =>
    1 ≤ part.length && part.length ≤ 3 && part.all fun c => '0' ≤ c && c ≤ '9'

def octet (part : List Char) : Option Nat :=
  (toIntOrNull unicode part).bind fun value =>
    if value < 0 ∨ 255 < value then none else some value.toNat

def ipv4ToLong (address : List Char) : Option Nat :=
  let parts := address.splitOn '.'
  if parts.length ≠ 4 then none
  else parts.foldlM (fun value part => (octet unicode part).map fun octet => value * 256 + octet) 0

/-- The first and the last address. -/
def cidrToRange (base : Nat) (bits : Nat) : Nat × Nat :=
  let size := 2 ^ (32 - bits)
  let first := base / size * size
  (first, first + size - 1)

/-- A network as the four numbers of its address and its bits. -/
def network (a b c d bits : Nat) : Nat × Nat :=
  cidrToRange (((a * 256 + b) * 256 + c) * 256 + d) bits

def cfRanges : List (Nat × Nat) :=
  [network 173 245 48 0 20, network 103 21 244 0 22, network 103 22 200 0 22,
    network 103 31 4 0 22, network 141 101 64 0 18, network 108 162 192 0 18,
    network 190 93 240 0 20, network 188 114 96 0 20, network 197 234 240 0 22,
    network 198 41 128 0 17, network 162 158 0 0 15, network 104 16 0 0 13,
    network 104 24 0 0 14, network 172 64 0 0 13, network 131 0 72 0 22]

def inCloudflare (numeric : Nat) : Bool :=
  cfRanges.any fun range => range.1 ≤ numeric && numeric ≤ range.2

end Addresses

section Validation

variable (device : Device)

def isCloudflareAddress (address : List Char) : Bool :=
  if address.contains ':' then device.cloudflareIpv6 address
  else
    match ipv4ToLong device.unicode address with
    | none => false
    | some numeric => inCloudflare numeric

def isHostname (value : List Char) : Bool :=
  4 ≤ value.length && value.length ≤ 253 && value.contains '.' &&
    value.head? ≠ some '.' && value.getLast? ≠ some '.' &&
    value.head? ≠ some '-' && value.getLast? ≠ some '-' &&
    !(Text.splitAround "..".toList value).isSome &&
    value.all fun c => ('a' ≤ c && c ≤ 'z') || ('0' ≤ c && c ≤ '9') || c = '.' || c = '-'

/-- What an element of `edges` adds to the list; nothing where it is left out. -/
def readEdge (raw : List Char) : Option (List Char) :=
  let value := trim raw
  if value = [] then none
  else if !dottedQuad value || !isCloudflareAddress device value then none
  else some value

def readHost (raw : List Char) : Option (List Char) :=
  let value := device.unicode.lowercase (trim raw)
  if isHostname value then some value else none

def readSanctioned (raw : List Char) : Option (List Char) :=
  let raw := device.unicode.lowercase (trim raw)
  if raw = [] then none
  else
    let wildcard := "*.".toList.isPrefixOf raw
    let host := if wildcard then raw.drop 2 else raw
    if !isHostname host then none
    else if wildcard && (host.count '.' < 1 || wildcardDeny.contains host) then none
    else some (if wildcard then "*.".toList ++ host else host)

/-- The loop over the elements: it ends when the list is full. -/
def scan (cap : Nat) (read : List Char → Option (List Char)) :
    List (List Char) → List Json → List (List Char)
  | out, [] => out
  | out, item :: rest =>
      match read ((Json.text item).getD []) with
      | none => scan cap read out rest
      | some value =>
          let out := if value ∈ out then out else out ++ [value]
          if cap ≤ out.length then out else scan cap read out rest

/-- The three loops: no more than a multiple of the cap is looked at. -/
def validate (cap : Nat) (read : List Char → Option (List Char)) (array : Option (List Json)) :
    Option (List (List Char)) :=
  array.bind fun items =>
    let out := scan cap read [] (items.take (cap * scanFactor))
    if out = [] then none else some out

def validateEdges (array : Option (List Json)) : Option (List (List Char)) :=
  validate maxEdges (readEdge device) array

def validateHosts (array : Option (List Json)) : Option (List (List Char)) :=
  validate maxHosts (readHost device) array

def validateSanctioned (array : Option (List Json)) : Option (List (List Char)) :=
  validate maxSanctioned (readSanctioned device) array

end Validation

structure Policy where
  edges : List (List Char)
  geoBlocked : List (List Char)
  sanctioned : List (List Char)
  deriving DecidableEq

def builtin : Policy :=
  { edges := texts ["104.21.70.21", "104.21.33.59", "188.114.97.0"]
    geoBlocked := texts ["www.nvidia.com", "nvidia.com", "images.nvidia.com", "www.avast.com",
      "avast.com", "www.android.com", "android.com"]
    sanctioned := [] }

/-- The lists of a body that pass validation. -/
structure Offered where
  edges : Option (List (List Char))
  geoBlocked : Option (List (List Char))
  sanctioned : Option (List (List Char))
  deriving DecidableEq

/-- `optJSONArray` -/
def optJsonArray (root : Json) (name : String) : Option (List Json) :=
  match root.opt name with
  | some (.array items) => some items
  | _ => none

section Parse

variable (device : Device)

/-- Nothing where the body is no object, or no list of it passes. -/
def offered (body : List Char) : Option Offered :=
  (device.parseObject body).bind fun root =>
    let edges := validateEdges device (optJsonArray root "edges")
    let hosts := validateHosts device (optJsonArray root "geoblocked")
    let sanctioned := validateSanctioned device (optJsonArray root "sanctioned")
    if edges = none ∧ hosts = none ∧ sanctioned = none then none
    else
      some {
        edges := edges
        geoBlocked := hosts
        sanctioned := sanctioned }

/-- The lists that fail are those in memory, or where there are none the built-in ones. -/
def merge (cached : Option Policy) (offered : Offered) : Policy :=
  let current := cached.getD builtin
  { edges := offered.edges.getD current.edges
    geoBlocked := offered.geoBlocked.getD current.geoBlocked
    sanctioned := offered.sanctioned.getD current.sanctioned }

def parse (cached : Option Policy) (body : List Char) : Option Policy :=
  (offered device body).map (merge cached)

end Parse

/-- What is in memory and in the cache file; the last version of each list that has passed, or
the built-in one; and at each earlier point the lists in force with those that had passed. -/
structure State where
  cached : Option Policy
  file : Option (List Char)
  passed : Policy
  views : List (Policy × Policy)

def State.initial : State :=
  { cached := none
    file := none
    passed := builtin
    views := [] }

inductive Event where
  /-- A body has been fetched, and the cache file can be replaced by it or not. -/
  | fetched (body : List Char) (replaced : Bool)
  /-- A fetch without a body: no answer, an error, or that nothing has changed. -/
  | failed
  /-- One of the lists is read. -/
  | read
  /-- The process is started anew. -/
  | restart

section Steps

variable (device : Device)

def readCache (file : Option (List Char)) : Option Policy := file.bind (parse device none)

/-- What a read of the lists gives. -/
def policy (s : State) : Policy := s.cached.getD ((readCache device s.file).getD builtin)

/-- `refreshFrom`, with a body. -/
def refreshFrom (s : State) (body : List Char) (replaced : Bool) : State :=
  match parse device s.cached body with
  | none => s
  | some parsed => if replaced then { s with file := some body, cached := some parsed } else s

def react (s : State) : Event → State
  | .fetched body replaced =>
      { refreshFrom device s body replaced with
        passed := (parse device (some s.passed) body).getD s.passed }
  | .failed => s
  | .read => { s with cached := some (policy device s) }
  | .restart => { s with cached := none }

def next (s : State) (event : Event) : Option State :=
  some { react device s event with views := s.views ++ [(policy device s, s.passed)] }

end Steps

section Limits

/-- An IPv4 address as it is normally written, in a network of Cloudflare. -/
def CanonicalEdge (edge : List Char) : Prop :=
  ∃ a b c d, a < 256 ∧ b < 256 ∧ c < 256 ∧ d < 256 ∧
    edge = ['.'].intercalate [decimal a, decimal b, decimal c, decimal d] ∧
    inCloudflare (((a * 256 + b) * 256 + c) * 256 + d) = true

/-- Nothing but the letters, digits, dots and hyphens of a name. -/
def Plain (host : List Char) : Prop :=
  host ≠ [] ∧ ∀ c ∈ host, ('a' ≤ c ∧ c ≤ 'z') ∨ ('0' ≤ c ∧ c ≤ '9') ∨ c = '.' ∨ c = '-'

/-- A name, or a name that is allowed to stand for all under it. -/
def PlainOrWildcard (entry : List Char) : Prop :=
  Plain entry ∨ ∃ host, entry = "*.".toList ++ host ∧ Plain host ∧ host ∉ wildcardDeny

structure Limited (policy : Policy) : Prop where
  edges : ∀ edge ∈ policy.edges, CanonicalEdge edge
  geoBlocked : ∀ host ∈ policy.geoBlocked, Plain host
  sanctioned : ∀ entry ∈ policy.sanctioned, PlainOrWildcard entry

/-- No number of the address has a zero in front. -/
def NoLeadingZero (edge : List Char) : Prop :=
  ∀ part ∈ edge.splitOn '.', part = ['0'] ∨ part.head? ≠ some '0'

section Octets

variable {unicode : Unicode} {part : List Char}

theorem toNat_sub_lt {c : Char} (digit : '0' ≤ c ∧ c ≤ '9') :
    48 ≤ c.toNat ∧ c.toNat ≤ 57 := digit

theorem digits_concat (unicode : Unicode) (text : List Char) (c : Char) :
    Kotlin.digits unicode (text ++ [c]) =
      (Kotlin.digits unicode text).bind fun value =>
        (unicode.digit c).map fun digit => value * 10 + digit := by
  rw [Kotlin.digits, List.foldlM_append]
  change (Kotlin.digits unicode text).bind (fun value => List.foldlM _ value [c]) = _
  congr 1
  funext value
  rw [List.foldlM_cons]
  cases unicode.digit c with
  | none => rfl
  | some digit => rfl

theorem digit_of_ascii {c : Char} (digit : '0' ≤ c ∧ c ≤ '9') :
    unicode.digit c = some (c.toNat - 48) := by
  have bounds := toNat_sub_lt digit
  rw [unicode.digit_ascii c (by omega), if_pos]
  exact Bool.and_eq_true_iff.mpr ⟨decide_eq_true digit.1, decide_eq_true digit.2⟩

theorem digitChar_sub {c : Char} (digit : '0' ≤ c ∧ c ≤ '9') :
    (c.toNat - 48).digitChar = c := by
  have bounds := toNat_sub_lt digit
  have all : ((List.range 10).all fun value =>
      (value.digitChar == Char.ofNat (value + 48))) = true := by decide
  have same := eq_of_beq (List.all_eq_true.mp all (c.toNat - 48) (List.mem_range.mpr (by omega)))
  rw [same, Nat.sub_add_cancel bounds.1, Char.ofNat_toNat]

theorem decimal_concat {value digit : Nat} (small : digit < 10) (large : 0 < value) :
    decimal (value * 10 + digit) = decimal value ++ [digit.digitChar] := by
  have notLast : ¬value * 10 + digit < 10 := by omega
  have quotient : (value * 10 + digit) / 10 = value := by omega
  have rest : (value * 10 + digit) % 10 = digit := by omega
  rw [decimal, Nat.toDigits_eq_if (by decide), if_neg notLast, quotient, rest]
  rfl

theorem decimal_digit {digit : Nat} (small : digit < 10) : decimal digit = [digit.digitChar] := by
  rw [decimal, Nat.toDigits_eq_if (by decide), if_pos small]

/-- Digits without a zero in front are the number that they say, as it is normally written. -/
theorem digits_decimal (ascii : ∀ c ∈ part, '0' ≤ c ∧ c ≤ '9') :
    ∃ value, Kotlin.digits unicode part = some value ∧ value < 10 ^ part.length ∧
      (part ≠ [] → (part = decimal value ↔ part = ['0'] ∨ part.head? ≠ some '0')) := by
  induction part using List.reverseRecOn with
  | nil => exact ⟨0, rfl, Nat.one_pos, fun nonempty => absurd rfl nonempty⟩
  | append_singleton text c ih =>
      obtain ⟨value, known, bound, written⟩ :=
        ih fun other member => ascii other (List.mem_append_left _ member)
      have digit := ascii c (List.mem_append_right _ List.mem_cons_self)
      have bounds := toNat_sub_lt digit
      refine ⟨value * 10 + (c.toNat - 48), ?_, ?_, fun _ => ?_⟩
      · rw [digits_concat, known, digit_of_ascii digit]
        rfl
      · rw [List.length_append, List.length_singleton, Nat.pow_succ]
        omega
      · have small : c.toNat - 48 < 10 := by omega
        cases text with
        | nil =>
            obtain rfl : value = 0 := by
              have first : Kotlin.digits unicode [] = some 0 := rfl
              exact Option.some.inj (known.symm.trans first)
            rw [Nat.zero_mul, Nat.zero_add, decimal_digit small, digitChar_sub digit]
            refine ⟨fun _ => ?_, fun _ => rfl⟩
            by_cases zero : c = '0'
            · exact .inl (by rw [zero]; rfl)
            · exact .inr fun same => zero (Option.some.inj same)
        | cons first rest =>
            have iff_ := written (List.cons_ne_nil first rest)
            have longer : first :: rest ++ [c] ≠ ['0'] := by
              intro same
              have lengths := congrArg List.length same
              simp only [List.length_append, List.length_cons, List.length_nil] at lengths
              omega
            constructor
            · intro same
              right
              intro zero
              have large : 0 < value := by
                rw [Nat.pos_iff_ne_zero]
                rintro rfl
                rw [Nat.zero_mul, Nat.zero_add, decimal_digit small] at same
                have lengths := congrArg List.length same
                simp only [List.length_append, List.length_cons, List.length_nil] at lengths
                omega
              rw [decimal_concat small large, digitChar_sub digit] at same
              have front := List.append_cancel_right same
              rcases iff_.mp front with alone | other
              · rw [alone] at front
                have none_ : value = 0 := by
                  have read : Kotlin.digits unicode ['0'] = some 0 := by
                    rw [← List.nil_append ['0'], digits_concat,
                      digit_of_ascii (by decide : '0' ≤ '0' ∧ '0' ≤ '9')]
                    rfl
                  rw [alone] at known
                  exact Option.some.inj (known.symm.trans read)
                omega
              · exact other zero
            · rintro (alone | other)
              · exact absurd alone longer
              · have front := iff_.mpr (.inr other)
                have large : 0 < value := by
                  rw [Nat.pos_iff_ne_zero]
                  rintro rfl
                  rw [front] at other
                  exact other rfl
                rw [decimal_concat small large, digitChar_sub digit, ← front]

theorem decimal_head {value : Nat} (large : 0 < value) : (decimal value).head? ≠ some '0' := by
  induction value using Nat.strongRecOn with
  | ind value ih =>
      by_cases small : value < 10
      · rw [decimal_digit small]
        have all : ((List.range 10).all fun value =>
            value = 0 || value.digitChar != '0') = true := by
          decide
        have apart := List.all_eq_true.mp all value (List.mem_range.mpr small)
        rw [decide_eq_false (Nat.pos_iff_ne_zero.mp large), Bool.false_or, bne_iff_ne] at apart
        exact fun same => apart (Option.some.inj same)
      · have split : value = value / 10 * 10 + value % 10 := (Nat.div_add_mod' value 10).symm
        rw [split, decimal_concat (by omega) (by omega),
          List.head?_append_of_ne_nil _ (Text.decimal_ne_nil _)]
        exact ih (value / 10) (by omega) (by omega)

theorem octet_eq_some {value : Nat} (ascii : ∀ c ∈ part, '0' ≤ c ∧ c ≤ '9') (nonempty : part ≠ [])
    (read : octet unicode part = some value) :
    value < 256 ∧ (part = decimal value ↔ part = ['0'] ∨ part.head? ≠ some '0') := by
  obtain ⟨number, known, _, written⟩ := @digits_decimal unicode part ascii
  obtain ⟨integer, parsed, small⟩ := Option.bind_eq_some_iff.mp read
  have same : integer = number := by
    cases part with
    | nil => exact absurd rfl nonempty
    | cons first rest =>
        have bounds := toNat_sub_lt (ascii first List.mem_cons_self)
        unfold Kotlin.toIntOrNull at parsed
        dsimp only at parsed
        rw [if_neg (by omega), known] at parsed
        change (if number < 2 ^ 31 then some (number : Int) else none) = some integer at parsed
        split at parsed
        · exact (Option.some.inj parsed).symm
        · cases parsed
  split at small
  · cases small
  · rename_i inside
    have value_ := Option.some.inj small
    rw [same] at value_ inside
    rw [Int.toNat_natCast] at value_
    subst value_
    exact ⟨by omega, written nonempty⟩

end Octets

section Edges

variable {device : Device} {raw edge : List Char}

theorem dottedQuad_parts (quad : dottedQuad edge = true) :
    ∃ a b c d, edge.splitOn '.' = [a, b, c, d] ∧ edge = ['.'].intercalate [a, b, c, d] ∧
      ∀ part ∈ [a, b, c, d], part ≠ [] ∧ ∀ c ∈ part, '0' ≤ c ∧ c ≤ '9' := by
  unfold dottedQuad at quad
  dsimp only at quad
  rw [Bool.and_eq_true, decide_eq_true_iff, List.all_eq_true] at quad
  obtain ⟨four, each⟩ := quad
  have whole : ['.'].intercalate (edge.splitOn '.') = edge := List.intercalate_splitOn '.'
  match parts : edge.splitOn '.', four with
  | [a, b, c, d], _ =>
      rw [parts] at whole each
      refine ⟨a, b, c, d, rfl, whole.symm, fun part member => ?_⟩
      have checked := each part member
      rw [Bool.and_eq_true, Bool.and_eq_true, decide_eq_true_iff, List.all_eq_true] at checked
      refine ⟨fun empty => ?_, fun c inside => ?_⟩
      · rw [empty] at checked
        exact absurd checked.1.1 (by decide)
      · have digit := checked.2 c inside
        rw [Bool.and_eq_true, decide_eq_true_iff, decide_eq_true_iff] at digit
        exact digit

theorem ipv4ToLong_eq_some {unicode : Unicode} {a b c d : List Char} {numeric : Nat}
    (parts : edge.splitOn '.' = [a, b, c, d]) (read : ipv4ToLong unicode edge = some numeric) :
    ∃ first second third fourth, octet unicode a = some first ∧ octet unicode b = some second ∧
      octet unicode c = some third ∧ octet unicode d = some fourth ∧
      numeric = ((first * 256 + second) * 256 + third) * 256 + fourth := by
  unfold ipv4ToLong at read
  rw [parts] at read
  dsimp only at read
  have four : ¬[a, b, c, d].length ≠ 4 := not_not.mpr rfl
  rw [if_neg four] at read
  simp only [List.foldlM_cons, List.foldlM_nil, Option.bind_eq_bind, Option.bind_eq_some_iff,
    Option.map_eq_some_iff] at read
  obtain ⟨_, ⟨first, one, rfl⟩, _, ⟨second, two, rfl⟩, _, ⟨third, three, rfl⟩, _,
    ⟨fourth, four, rfl⟩, same⟩ := read
  refine ⟨first, second, third, fourth, one, two, three, four, ?_⟩
  rw [← Option.some.inj same, Nat.zero_mul, Nat.zero_add]

theorem splitOn_dotted {a b c d : Nat} :
    (['.'].intercalate [decimal a, decimal b, decimal c, decimal d]).splitOn '.' =
      [decimal a, decimal b, decimal c, decimal d] := by
  apply List.splitOn_intercalate
  · intro part member dot
    have free : ∀ value, '.' ∉ decimal value := Text.not_mem_decimal (by decide)
    simp only [List.mem_cons, List.not_mem_nil, or_false] at member
    rcases member with rfl | rfl | rfl | rfl <;> exact free _ dot
  · exact List.cons_ne_nil _ _

/-- The numbers of a canonical address have no zero in front. -/
theorem CanonicalEdge.noLeadingZero (canonical : CanonicalEdge edge) : NoLeadingZero edge := by
  obtain ⟨a, b, c, d, _, _, _, _, rfl, _⟩ := canonical
  intro part member
  rw [splitOn_dotted] at member
  have plain : ∀ value, decimal value = ['0'] ∨ (decimal value).head? ≠ some '0' := by
    intro value
    rcases Nat.eq_zero_or_pos value with rfl | large
    · exact .inl rfl
    · exact .inr (decimal_head large)
  simp only [List.mem_cons, List.not_mem_nil, or_false] at member
  rcases member with rfl | rfl | rfl | rfl <;> exact plain _

theorem readEdge_eq_some (read : readEdge device raw = some edge) :
    dottedQuad edge = true ∧ isCloudflareAddress device edge = true := by
  unfold readEdge at read
  dsimp only at read
  split at read
  · cases read
  · split at read
    · cases read
    · rename_i accepted
      rw [Bool.or_eq_true, not_or, Bool.not_eq_true', Bool.not_eq_true', Bool.not_eq_false,
        Bool.not_eq_false] at accepted
      rw [← Option.some.inj read]
      exact accepted

/-- An edge that is taken is canonical unless a number of it has a zero in front. -/
theorem canonical_iff (read : readEdge device raw = some edge) :
    CanonicalEdge edge ↔ NoLeadingZero edge := by
  refine ⟨CanonicalEdge.noLeadingZero, fun plain => ?_⟩
  obtain ⟨quad, cloudflare⟩ := readEdge_eq_some read
  obtain ⟨a, b, c, d, parts, whole, each⟩ := dottedQuad_parts quad
  have noColon : edge.contains ':' = false := by
    rw [List.contains_eq_mem, decide_eq_false_iff_not]
    intro colon
    rw [whole] at colon
    have apart : ∀ part ∈ [a, b, c, d], ':' ∉ part := fun part member inside =>
      absurd ((each part member).2 ':' inside) (by decide)
    have inside : ':' ∈ a ∨ ':' ∈ b ∨ ':' ∈ c ∨ ':' ∈ d := by simpa using colon
    rcases inside with one | two | three | four
    · exact apart a (by simp) one
    · exact apart b (by simp) two
    · exact apart c (by simp) three
    · exact apart d (by simp) four
  unfold isCloudflareAddress at cloudflare
  rw [noColon, if_neg Bool.false_ne_true] at cloudflare
  cases known : ipv4ToLong device.unicode edge with
  | none =>
      rw [known] at cloudflare
      cases cloudflare
  | some numeric =>
      rw [known] at cloudflare
      obtain ⟨first, second, third, fourth, one, two, three, four, rfl⟩ :=
        ipv4ToLong_eq_some parts known
      have written : ∀ part ∈ [a, b, c, d], ∀ value, octet device.unicode part = some value →
          value < 256 ∧ part = decimal value := by
        intro part member value octet_
        obtain ⟨small, iff_⟩ := octet_eq_some (each part member).2 (each part member).1 octet_
        exact ⟨small, iff_.mpr (plain part (by rw [parts]; exact member))⟩
      obtain ⟨small1, rfl⟩ := written a (by simp) first one
      obtain ⟨small2, rfl⟩ := written b (by simp) second two
      obtain ⟨small3, rfl⟩ := written c (by simp) third three
      obtain ⟨small4, rfl⟩ := written d (by simp) fourth four
      exact ⟨first, second, third, fourth, small1, small2, small3, small4, whole, cloudflare⟩

end Edges

end Limits

section Hosts

variable {device : Device} {raw host entry : List Char}

theorem plain_of_isHostname (name : isHostname host = true) : Plain host := by
  unfold isHostname at name
  simp only [Bool.and_eq_true] at name
  obtain ⟨⟨⟨⟨⟨⟨⟨⟨long, _⟩, _⟩, _⟩, _⟩, _⟩, _⟩, _⟩, letters⟩ := name
  refine ⟨fun empty => ?_, fun c member => ?_⟩
  · rw [empty] at long
    exact absurd long (by decide)
  · have letter := List.all_eq_true.mp letters c member
    simpa [or_assoc] using letter

theorem readHost_plain (read : readHost device raw = some host) : Plain host := by
  unfold readHost at read
  dsimp only at read
  split at read
  · rename_i name
    rw [← Option.some.inj read]
    exact plain_of_isHostname name
  · cases read

theorem readSanctioned_plain (read : readSanctioned device raw = some entry) :
    PlainOrWildcard entry := by
  unfold readSanctioned at read
  dsimp only at read
  generalize device.unicode.lowercase (trim raw) = value at read
  split at read
  · cases read
  · cases wildcard : "*.".toList.isPrefixOf value with
    | false =>
        rw [wildcard] at read
        simp only [Bool.false_eq_true, if_false, Bool.false_and] at read
        split at read
        · cases read
        · rename_i name
          rw [← Option.some.inj read]
          exact .inl (plain_of_isHostname (by simpa using name))
    | true =>
        rw [wildcard] at read
        simp only [if_true, Bool.true_and] at read
        split at read
        · cases read
        · rename_i name
          split at read
          · cases read
          · rename_i allowed
            rw [Bool.or_eq_true, not_or] at allowed
            refine .inr ⟨value.drop 2, (Option.some.inj read).symm,
              plain_of_isHostname (by simpa using name), fun denied => allowed.2 ?_⟩
            rw [List.contains_eq_mem]
            exact decide_eq_true denied

end Hosts

section Lists

variable {device : Device} {cap : Nat} {read : List Char → Option (List Char)}
  {array : Option (List Json)} {list : List (List Char)}

theorem scan_read {out : List (List Char)} {items : List Json}
    (before : ∀ value ∈ out, ∃ raw, read raw = some value) :
    ∀ value ∈ scan cap read out items, ∃ raw, read raw = some value := by
  induction items generalizing out with
  | nil => exact before
  | cons item rest ih =>
      unfold scan
      split
      · exact ih before
      · rename_i value taken
        have more : ∀ other ∈ (if value ∈ out then out else out ++ [value]),
            ∃ raw, read raw = some other := by
          intro other member
          split at member
          · exact before other member
          · rcases List.mem_append.mp member with old | new
            · exact before other old
            · rw [List.mem_singleton.mp new]
              exact ⟨_, taken⟩
        dsimp only
        by_cases full : cap ≤ (if value ∈ out then out else out ++ [value]).length
        · rw [if_pos full]
          exact more
        · rw [if_neg full]
          exact ih more

/-- What a list holds has been read. -/
theorem validate_read (valid : validate cap read array = some list) :
    ∀ value ∈ list, ∃ raw, read raw = some value := by
  obtain ⟨items, _, kept⟩ := Option.bind_eq_some_iff.mp valid
  dsimp only at kept
  split at kept
  · cases kept
  · rw [← Option.some.inj kept]
    exact scan_read fun _ member => absurd member List.not_mem_nil

/-- The lists that a body offers have passed their validations. -/
structure Passed (device : Device) (offered : Offered) : Prop where
  edges : ∀ list, offered.edges = some list → ∀ edge ∈ list, ∃ raw, readEdge device raw = some edge
  geoBlocked : ∀ list, offered.geoBlocked = some list → ∀ host ∈ list, Plain host
  sanctioned : ∀ list, offered.sanctioned = some list → ∀ entry ∈ list, PlainOrWildcard entry

theorem passed_of_offered {body : List Char} {o : Offered} (offer : offered device body = some o) :
    Passed device o := by
  obtain ⟨root, _, lists⟩ := Option.bind_eq_some_iff.mp offer
  dsimp only at lists
  split at lists
  · cases lists
  · cases lists
    refine ⟨fun list valid => validate_read valid, fun list valid host member => ?_,
      fun list valid entry member => ?_⟩
    · obtain ⟨raw, taken⟩ := validate_read valid host member
      exact readHost_plain taken
    · obtain ⟨raw, taken⟩ := validate_read valid entry member
      exact readSanctioned_plain taken

theorem limited_builtin : Limited builtin := by
  refine ⟨?_, ?_, fun _ member => absurd member List.not_mem_nil⟩
  · intro edge member
    simp only [builtin, texts, List.map_cons, List.map_nil, List.mem_cons, List.not_mem_nil,
      or_false] at member
    rcases member with rfl | rfl | rfl
    · exact ⟨104, 21, 70, 21, by decide, by decide, by decide, by decide, by decide, by decide⟩
    · exact ⟨104, 21, 33, 59, by decide, by decide, by decide, by decide, by decide, by decide⟩
    · exact ⟨188, 114, 97, 0, by decide, by decide, by decide, by decide, by decide, by decide⟩
  · have names : builtin.geoBlocked.all isHostname = true := by decide +kernel
    exact fun host member => plain_of_isHostname (List.all_eq_true.mp names host member)

end Lists

section Runs

variable {device : Device} {s : State}

/-- The lists in force are those that have passed last, and every element is within the limits. -/
structure Lawful (view : Policy × Policy) : Prop where
  inForce : view.1 = view.2
  limited : Limited view.1

/-- What has passed of the lists that a body leaves out is what is built in. -/
structure LeavesOut (offered : Offered) (passed : Policy) : Prop where
  edges : offered.edges = none → passed.edges = builtin.edges
  geoBlocked : offered.geoBlocked = none → passed.geoBlocked = builtin.geoBlocked
  sanctioned : offered.sanctioned = none → passed.sanctioned = builtin.sanctioned

/-- The lists that a body offers are those that have passed before. -/
structure Repeats (offered : Offered) (passed : Policy) : Prop where
  edges : ∀ list, offered.edges = some list → list = passed.edges
  geoBlocked : ∀ list, offered.geoBlocked = some list → list = passed.geoBlocked
  sanctioned : ∀ list, offered.sanctioned = some list → list = passed.sanctioned

/-- What the cache file offers: nothing where there is none, or no list of it passes. -/
def fromFile (device : Device) (file : Option (List Char)) : Offered :=
  (file.bind (offered device)).getD { edges := none, geoBlocked := none, sanctioned := none }

/-- Each list that has passed stands in the cache file as it has passed last, or is built in. -/
structure Stands (offered : Offered) (passed : Policy) : Prop where
  edges : offered.edges.getD builtin.edges = passed.edges
  geoBlocked : offered.geoBlocked.getD builtin.geoBlocked = passed.geoBlocked
  sanctioned : offered.sanctioned.getD builtin.sanctioned = passed.sanctioned

/-- A body replaces the cache file, or brings nothing new; it has no edge with a zero in front of a
number, and while no lists are in memory it leaves out none that has passed; and the process is
not started anew while the file lacks one that has passed. -/
def Careful (device : Device) (s : State) : Event → Prop
  | .fetched body true => ∀ o, offered device body = some o →
      (s.cached = none → LeavesOut o s.passed) ∧
        ∀ list, o.edges = some list → ∀ edge ∈ list, NoLeadingZero edge
  | .fetched body false => ∀ o, offered device body = some o → Repeats o s.passed
  | .restart => Stands (fromFile device s.file) s.passed
  | _ => True

theorem merge_none_iff {o : Offered} {passed : Policy} :
    merge none o = merge (some passed) o ↔ LeavesOut o passed := by
  cases o with
  | mk edges geoBlocked sanctioned =>
      unfold merge
      dsimp only [Option.getD_none, Option.getD_some]
      rw [Policy.mk.injEq]
      constructor
      · rintro ⟨one, two, three⟩
        constructor
        · rintro rfl
          exact one.symm
        · rintro rfl
          exact two.symm
        · rintro rfl
          exact three.symm
      · rintro ⟨one, two, three⟩
        refine ⟨?_, ?_, ?_⟩
        · cases edges with
          | none => exact (one rfl).symm
          | some list => rfl
        · cases geoBlocked with
          | none => exact (two rfl).symm
          | some list => rfl
        · cases sanctioned with
          | none => exact (three rfl).symm
          | some list => rfl

theorem merge_repeats_iff {o : Offered} {passed : Policy} :
    passed = merge (some passed) o ↔ Repeats o passed := by
  cases o with
  | mk edges geoBlocked sanctioned =>
      cases passed with
      | mk first second third =>
          unfold merge
          dsimp only [Option.getD_some]
          rw [Policy.mk.injEq]
          constructor
          · rintro ⟨one, two, three⟩
            constructor
            · rintro list rfl
              exact one.symm
            · rintro list rfl
              exact two.symm
            · rintro list rfl
              exact three.symm
          · rintro ⟨one, two, three⟩
            refine ⟨?_, ?_, ?_⟩
            · cases edges with
              | none => rfl
              | some list => exact (one list rfl).symm
            · cases geoBlocked with
              | none => rfl
              | some list => exact (two list rfl).symm
            · cases sanctioned with
              | none => rfl
              | some list => exact (three list rfl).symm

/-- What is read anew is what the file offers, on top of what is built in. -/
theorem readCache_eq (device : Device) (file : Option (List Char)) :
    (readCache device file).getD builtin = merge none (fromFile device file) := by
  unfold readCache fromFile
  cases file with
  | none => rfl
  | some body =>
      change ((offered device body).map (merge none)).getD builtin =
        merge none (((offered device body)).getD _)
      cases offered device body with
      | none => rfl
      | some o => rfl

theorem stands_iff {file : Option (List Char)} {passed : Policy} :
    (readCache device file).getD builtin = passed ↔ Stands (fromFile device file) passed := by
  rw [readCache_eq]
  cases passed with
  | mk edges geoBlocked sanctioned =>
      unfold merge
      dsimp only [Option.getD_none]
      rw [Policy.mk.injEq]
      constructor
      · rintro ⟨one, two, three⟩
        exact ⟨one, two, three⟩
      · rintro ⟨one, two, three⟩
        exact ⟨one, two, three⟩

/-- Lists that have passed keep to the limits, but for the edges with a zero in front. -/
theorem limited_merge_iff {o : Offered} {passed : Policy} (valid : Passed device o)
    (limited : Limited passed) : Limited (merge (some passed) o) ↔
      ∀ list, o.edges = some list → ∀ edge ∈ list, NoLeadingZero edge := by
  constructor
  · intro merged list offer edge member
    have there : edge ∈ (merge (some passed) o).edges := by
      unfold merge
      rw [offer]
      exact member
    exact (merged.edges edge there).noLeadingZero
  · intro plain
    unfold merge
    dsimp only [Option.getD_some]
    refine ⟨?_, ?_, ?_⟩
    · intro edge member
      cases offer : o.edges with
      | none =>
          rw [offer] at member
          exact limited.edges edge member
      | some list =>
          rw [offer] at member
          obtain ⟨raw, read⟩ := valid.edges list offer edge member
          exact (canonical_iff read).mpr (plain list offer edge member)
    · intro host member
      cases offer : o.geoBlocked with
      | none =>
          rw [offer] at member
          exact limited.geoBlocked host member
      | some list =>
          rw [offer] at member
          exact valid.geoBlocked list offer host member
    · intro entry member
      cases offer : o.sanctioned with
      | none =>
          rw [offer] at member
          exact limited.sanctioned entry member
      | some list =>
          rw [offer] at member
          exact valid.sanctioned list offer entry member

section Fetched

variable {body : List Char} {o : Offered} {replaced : Bool}

theorem react_fetched_none (nothing : offered device body = none) :
    react device s (.fetched body replaced) = s := by
  simp only [react, refreshFrom, parse, nothing, Option.map_none, Option.getD_none]

theorem react_kept (offer : offered device body = some o) :
    react device s (.fetched body false) = { s with passed := merge (some s.passed) o } := by
  simp [react, refreshFrom, parse, offer]

theorem react_replaced (offer : offered device body = some o) :
    react device s (.fetched body true) = { s with
      file := some body
      cached := some (merge s.cached o)
      passed := merge (some s.passed) o } := by
  simp [react, refreshFrom, parse, offer]

end Fetched

/-- After lists as they should be, they are as they should be exactly after a careful step. -/
theorem lawful_react_iff (lawful : Lawful (policy device s, s.passed)) (event : Event) :
    Lawful (policy device (react device s event), (react device s event).passed) ↔
      Careful device s event := by
  have inForce : policy device s = s.passed := lawful.inForce
  have limited : Limited s.passed := inForce ▸ lawful.limited
  cases event with
  | failed => exact ⟨fun _ => trivial, fun _ => lawful⟩
  | read => exact ⟨fun _ => trivial, fun _ => lawful⟩
  | restart =>
      change Lawful ((readCache device s.file).getD builtin, s.passed) ↔ Stands _ _
      rw [← stands_iff]
      refine ⟨Lawful.inForce, fun same => ⟨same, ?_⟩⟩
      dsimp only
      rw [same]
      exact limited
  | fetched body replaced =>
      cases offer : offered device body with
      | none =>
          rw [react_fetched_none offer]
          refine ⟨fun _ => ?_, fun _ => lawful⟩
          cases replaced with
          | false =>
              intro o other
              rw [offer] at other
              cases other
          | true =>
              intro o other
              rw [offer] at other
              cases other
      | some o =>
          have valid := passed_of_offered offer
          have only : ∀ other, offered device body = some other → other = o := fun other same =>
            Option.some.inj (same.symm.trans offer)
          cases replaced with
          | false =>
              rw [react_kept offer]
              change Lawful (policy device s, merge (some s.passed) o) ↔
                ∀ o, offered device body = some o → Repeats o s.passed
              rw [inForce]
              constructor
              · intro after other same
                rw [only other same]
                exact merge_repeats_iff.mp after.inForce
              · intro repeats
                exact ⟨merge_repeats_iff.mpr (repeats o offer), limited⟩
          | true =>
              rw [react_replaced offer]
              change Lawful (merge s.cached o, merge (some s.passed) o) ↔
                ∀ o, offered device body = some o → (s.cached = none → LeavesOut o s.passed) ∧
                  ∀ list, o.edges = some list → ∀ edge ∈ list, NoLeadingZero edge
              have same : merge s.cached o = merge (some s.passed) o ↔
                  (s.cached = none → LeavesOut o s.passed) := by
                cases known : s.cached with
                | none =>
                    rw [merge_none_iff]
                    exact ⟨fun out _ => out, fun out => out rfl⟩
                | some current =>
                    have current_ : current = s.passed := by
                      rw [← inForce, policy, known]
                      rfl
                    rw [current_]
                    exact ⟨fun _ none_ => absurd none_ (Option.some_ne_none _), fun _ => rfl⟩
              constructor
              · intro after other again
                rw [only other again]
                refine ⟨same.mp after.inForce, (limited_merge_iff valid limited).mp ?_⟩
                have merged := after.limited
                rw [show merge s.cached o = merge (some s.passed) o from after.inForce] at merged
                exact merged
              · intro careful
                obtain ⟨out, plain⟩ := careful o offer
                have equal := same.mpr out
                refine ⟨equal, ?_⟩
                dsimp only
                rw [equal]
                exact (limited_merge_iff valid limited).mpr plain

theorem lawful_initial (device : Device) : Lawful (policy device .initial, State.initial.passed) :=
  ⟨rfl, limited_builtin⟩

/-- In every run, the lists in force are at every point those that have passed last and keep to
the limits exactly if every step is careful. -/
theorem inForce_iff {events : List Event} (run : Run (ofNext (next device)) .initial events s) :
    (Lawful (policy device s, s.passed) ∧ ∀ view ∈ s.views, Lawful view) ↔
      Run (Restrict (ofNext (next device)) (Careful device)) .initial events s := by
  apply run.iff_restrict
    (fun s => Lawful (policy device s, s.passed) ∧ ∀ view ∈ s.views, Lawful view)
    (fun _ => True) (fun _ _ _ _ _ => trivial) _
    ⟨lawful_initial device, fun _ member => absurd member List.not_mem_nil⟩ trivial
  intro source event target step _
  cases step
  change (Lawful (policy device (react device source event), (react device source event).passed) ∧
    ∀ view ∈ source.views ++ [(policy device source, source.passed)], Lawful view) ↔ _
  constructor
  · rintro ⟨after, all⟩
    have lawful := all _ (List.mem_append_right _ List.mem_cons_self)
    exact ⟨⟨lawful, fun view member => all view (List.mem_append_left _ member)⟩,
      (lawful_react_iff lawful event).mp after⟩
  · rintro ⟨⟨lawful, all⟩, careful⟩
    refine ⟨(lawful_react_iff lawful event).mpr careful, fun view member => ?_⟩
    rcases List.mem_append.mp member with old | new
    · exact all view old
    · rw [List.mem_singleton.mp new]
      exact lawful

end Runs

section Claim

/-- Three bodies are known: with two lists, with one of them alone, and with a zero in front. -/
def sampleDevice : Device where
  parseObject := fun body =>
    let hosts := ("geoblocked", Json.array [Json.str "example.com"])
    if body = ['b'] then some (Json.obj [("edges", Json.array [Json.str "104.16.0.1"]), hosts])
    else if body = ['e'] then some (Json.obj [("edges", Json.array [Json.str "104.16.0.2"])])
    else if body = ['z'] then
      some (Json.obj [("edges", Json.array [Json.str "104.16.0.01"]), hosts])
    else none
  unicode := Unicode.ascii
  cloudflareIpv6 := fun _ => false

/-- Both lists are fetched, then one of them, and the process is started anew. -/
def started : List Event := [.fetched ['b'] true, .fetched ['e'] true, .restart]

/-- One list is fetched after a start, before any list has been read. -/
def unread : List Event := [.fetched ['b'] true, .restart, .fetched ['e'] true]

def padded : List Event := [.fetched ['z'] true]

def refused : List Event := [.fetched ['b'] true, .read, .fetched ['e'] false]

/-- The lists in force, with those that have passed last. -/
def viewAfter (events : List Event) : Option (Policy × Policy) :=
  (execute (next sampleDevice) .initial events).map fun s => (policy sampleDevice s, s.passed)

def fetchedHosts : List (List Char) := texts ["example.com"]

theorem viewAfter_started : viewAfter started = some
    ({ builtin with edges := texts ["104.16.0.2"] },
      { builtin with edges := texts ["104.16.0.2"], geoBlocked := fetchedHosts }) := by
  decide +kernel

theorem viewAfter_unread : viewAfter unread = some
    ({ builtin with edges := texts ["104.16.0.2"] },
      { builtin with edges := texts ["104.16.0.2"], geoBlocked := fetchedHosts }) := by
  decide +kernel

theorem viewAfter_padded : viewAfter padded = some
    ({ builtin with edges := texts ["104.16.0.01"], geoBlocked := fetchedHosts },
      { builtin with edges := texts ["104.16.0.01"], geoBlocked := fetchedHosts }) := by
  decide +kernel

theorem viewAfter_refused : viewAfter refused = some
    ({ builtin with edges := texts ["104.16.0.1"], geoBlocked := fetchedHosts },
      { builtin with edges := texts ["104.16.0.2"], geoBlocked := fetchedHosts }) := by
  decide +kernel

theorem exists_of_viewAfter {events : List Event} {view : Policy × Policy}
    (seen : viewAfter events = some view) : ∃ s,
      Run (ofNext (next sampleDevice)) .initial events s ∧
        (policy sampleDevice s, s.passed) = view := by
  obtain ⟨s, executed, same⟩ := Option.map_eq_some_iff.mp seen
  exact ⟨s, run_of_execute executed, same⟩

theorem not_lawful_of_viewAfter {events : List Event} {view : Policy × Policy}
    (seen : viewAfter events = some view) (unlawful : ¬Lawful view) :
    ¬∀ s, Run (ofNext (next sampleDevice)) .initial events s →
      Lawful (policy sampleDevice s, s.passed) := by
  intro claimed
  obtain ⟨s, run, same⟩ := exists_of_viewAfter seen
  exact unlawful (same ▸ claimed s run)

/-- A list that has passed is lost by a start, by a fetch before it is read, and with a file that
is not replaced; and an edge is in force that is not as an address is written. -/
theorem displaced :
    (¬∀ s, Run (ofNext (next sampleDevice)) .initial started s →
      Lawful (policy sampleDevice s, s.passed)) ∧
    (¬∀ s, Run (ofNext (next sampleDevice)) .initial unread s →
      Lawful (policy sampleDevice s, s.passed)) ∧
    (¬∀ s, Run (ofNext (next sampleDevice)) .initial refused s →
      Lawful (policy sampleDevice s, s.passed)) ∧
    ¬∀ s, Run (ofNext (next sampleDevice)) .initial padded s →
      Lawful (policy sampleDevice s, s.passed) := by
  refine ⟨not_lawful_of_viewAfter viewAfter_started ?_, not_lawful_of_viewAfter viewAfter_unread ?_,
    not_lawful_of_viewAfter viewAfter_refused ?_, not_lawful_of_viewAfter viewAfter_padded ?_⟩
  · intro lawful
    exact absurd (congrArg Policy.geoBlocked lawful.inForce) (by decide +kernel)
  · intro lawful
    exact absurd (congrArg Policy.geoBlocked lawful.inForce) (by decide +kernel)
  · intro lawful
    exact absurd (congrArg Policy.edges lawful.inForce) (by decide +kernel)
  · intro lawful
    have plain := (lawful.limited.edges "104.16.0.01".toList List.mem_cons_self).noLeadingZero
    rcases plain "01".toList (by decide +kernel) with alone | headed
    · exact absurd alone (by decide)
    · exact headed rfl

theorem inForce_iff_fetched : ∃ s, Run (ofNext (next sampleDevice)) .initial started s ∧
    ((Lawful (policy sampleDevice s, s.passed) ∧ ∀ view ∈ s.views, Lawful view) ↔
      Run (Restrict (ofNext (next sampleDevice)) (Careful sampleDevice)) .initial started s) := by
  obtain ⟨s, run, _⟩ := exists_of_viewAfter viewAfter_started
  exact ⟨s, run, inForce_iff run⟩

end Claim

end MolidoVpn.Shard.RemotePolicy
