import MolidoVpn.Socks.IpText

/-!
What `Display` writes of an address, the parser of the standard library reads back.
-/

namespace MolidoVpn.IpText

open Text (decimal)

section Numbers

variable {radix : Nat}

theorem valueOf_concat (digits : List Char) (c : Char) :
    valueOf radix (digits ++ [c]) = valueOf radix digits * radix + (toDigit radix c).getD 0 := by
  rw [valueOf, List.foldl_append]
  rfl

/-- The digits of a number in a radix whose digits the parser knows. -/
theorem valueOf_toDigits (large : 1 < radix)
    (known : ∀ digit < radix, toDigit radix digit.digitChar = some digit) (value : Nat) :
    valueOf radix (Nat.toDigits radix value) = value := by
  induction value using Nat.strongRecOn with
  | ind value ih =>
      rw [Nat.toDigits_eq_if large]
      by_cases below : value < radix
      · rw [if_pos below, ← List.nil_append [_], valueOf_concat, known value below]
        exact (congrArg (· + value) (Nat.zero_mul radix)).trans (Nat.zero_add value)
      · have last := Nat.mod_lt value (by omega : radix > 0)
        rw [if_neg below, valueOf_concat, ih _ (Nat.div_lt_self (by omega) large),
          known _ last, Option.getD_some]
        exact Nat.div_add_mod' value radix

theorem toDigits_head_zero (large : 1 < radix)
    (known : ∀ digit < radix, toDigit radix digit.digitChar = some digit) {value : Nat}
    (zero : (Nat.toDigits radix value).head? = some '0') : value = 0 := by
  induction value using Nat.strongRecOn with
  | ind value ih =>
      rw [Nat.toDigits_eq_if large] at zero
      by_cases below : value < radix
      · rw [if_pos below, List.head?_cons, Option.some_inj] at zero
        have same := known value below
        have zeroDigit : toDigit radix '0' = some 0 := known 0 (by omega)
        rw [zero, zeroDigit] at same
        exact (Option.some_inj.mp same).symm
      · rw [if_neg below, List.head?_append_of_ne_nil _ Nat.toDigits_ne_nil] at zero
        have none_left := ih _ (Nat.div_lt_self (by omega) large) zero
        have some_left := Nat.div_pos (Nat.le_of_not_lt below) (by omega)
        omega

/-- Nothing that the reader of digits would take as well. -/
def Stops (radix : Nat) (rest : List Char) : Prop :=
  ∀ c, rest.head? = some c → isDigitOf radix c = false

theorem stops_nil (radix : Nat) : Stops radix [] := by
  intro c first
  cases first

theorem takeWhile_of_stops {rest : List Char} (stops : Stops radix rest) :
    rest.takeWhile (isDigitOf radix) = [] ∧ rest.dropWhile (isDigitOf radix) = rest := by
  cases rest with
  | nil => exact ⟨rfl, rfl⟩
  | cons c rest =>
      have other := stops c rfl
      constructor
      · rw [List.takeWhile_cons_of_neg (by rw [other]; exact Bool.false_ne_true)]
      · rw [List.dropWhile_cons_of_neg (by rw [other]; exact Bool.false_ne_true)]

theorem readNumber_of_stops {rest : List Char} (stops : Stops radix rest)
    (maxDigits bound : Nat) (allowZeroPrefix : Bool) :
    readNumber radix maxDigits bound allowZeroPrefix rest = none := by
  rw [readNumber, (takeWhile_of_stops stops).1]
  exact if_pos (Or.inl rfl)

theorem readNumber_toDigits (large : 1 < radix)
    (known : ∀ digit < radix, toDigit radix digit.digitChar = some digit)
    {maxDigits bound value : Nat} (allowZeroPrefix : Bool) (small : value < bound)
    (fits : (Nat.toDigits radix value).length ≤ maxDigits) {rest : List Char}
    (stops : Stops radix rest) :
    readNumber radix maxDigits bound allowZeroPrefix (Nat.toDigits radix value ++ rest) =
      some (value, rest) := by
  have digits : ∀ c ∈ Nat.toDigits radix value, isDigitOf radix c = true :=
    toDigits_isDigitOf large (fun digit below => by rw [isDigitOf, known digit below]; rfl) value
  have taken : (Nat.toDigits radix value ++ rest).takeWhile (isDigitOf radix) =
      Nat.toDigits radix value := by
    rw [List.takeWhile_append_of_pos digits, (takeWhile_of_stops stops).1, List.append_nil]
  have dropped : (Nat.toDigits radix value ++ rest).dropWhile (isDigitOf radix) = rest := by
    rw [List.dropWhile_append_of_pos digits, (takeWhile_of_stops stops).2]
  have bounded : ¬(Nat.toDigits radix value = [] ∨
      (Nat.toDigits radix value).length > maxDigits ∨ bound ≤ value) := by
    rintro (empty | long | big)
    · exact Nat.toDigits_ne_nil empty
    · omega
    · omega
  have plain : ¬(allowZeroPrefix = false ∧
      (Nat.toDigits radix value ++ rest).head? = some '0' ∧
        (Nat.toDigits radix value).length > 1) := by
    rintro ⟨-, zero, long⟩
    rw [List.head?_append_of_ne_nil _ Nat.toDigits_ne_nil] at zero
    have isZero := toDigits_head_zero large known zero
    rw [isZero, Nat.toDigits_zero, List.length_singleton] at long
    omega
  rw [readNumber, taken, dropped, valueOf_toDigits large known]
  exact (if_neg bounded).trans (if_neg plain)

end Numbers

section Ipv4

private theorem known_decimal : ∀ digit < 10, toDigit 10 digit.digitChar = some digit := by decide

theorem readNumber_decimal (byte : UInt8) {rest : List Char} (stops : Stops 10 rest) :
    readNumber 10 3 256 false (decimal byte.toNat ++ rest) = some (byte.toNat, rest) := by
  have small := byte.toNat_lt
  refine readNumber_toDigits (by decide) known_decimal false small ?_ stops
  rw [Nat.length_toDigits_le_iff (by decide) (by decide)]
  omega

theorem stops_dot (rest : List Char) : Stops 10 ('.' :: rest) := by
  intro c first
  cases first
  rfl

theorem readOctet_succ (index : Nat) (byte : UInt8) {rest : List Char} (stops : Stops 10 rest) :
    readOctet (index + 1) ('.' :: (decimal byte.toNat ++ rest)) = some (byte.toNat, rest) := by
  rw [readOctet, readSeparator, if_pos (Nat.succ_pos index), readGivenChar, if_pos rfl,
    Option.bind_some, readNumber_decimal byte stops]

theorem readIpv4Addr_displayIpv4 (ip : Ipv4Addr) {rest : List Char} (stops : Stops 10 rest) :
    readIpv4Addr (displayIpv4 ip ++ rest) = some (ip, rest) := by
  have first : readOctet 0 (decimal ip.a.toNat ++ ('.' :: (decimal ip.b.toNat ++
      '.' :: (decimal ip.c.toNat ++ '.' :: (decimal ip.d.toNat ++ rest))))) = _ :=
    readNumber_decimal ip.a (stops_dot _)
  rw [readIpv4Addr, displayIpv4]
  simp only [List.append_assoc, List.cons_append, first, Option.bind_eq_bind, Option.bind_some,
    readOctet_succ _ _ (stops_dot _), readOctet_succ _ _ stops, UInt8.ofNat_toNat]
  rfl

theorem readIpv4Addr_of_stops {s : List Char} (stops : Stops 10 s) : readIpv4Addr s = none := by
  rw [readIpv4Addr, readOctet, readSeparator, if_neg (Nat.lt_irrefl 0),
    readNumber_of_stops stops]
  rfl

/-- Without a dot there is no second octet. -/
theorem readIpv4Addr_of_no_dot {s : List Char} (noDot : '.' ∉ s) : readIpv4Addr s = none := by
  rw [readIpv4Addr, readOctet, readSeparator, if_neg (Nat.lt_irrefl 0)]
  cases number : readNumber 10 3 256 false s with
  | none => rfl
  | some found =>
      have left : '.' ∉ found.2 := by
        rw [readNumber] at number
        split at number
        · cases number
        · split at number
          · cases number
          · rw [← Option.some_inj.mp number]
            exact fun dot => noDot ((List.dropWhile_sublist _).subset dot)
      have noSeparator : readOctet 1 found.2 = none := by
        rw [readOctet, readSeparator, if_pos Nat.one_pos]
        cases rest : found.2 with
        | nil => rfl
        | cons c tail =>
            rw [rest] at left
            rw [readGivenChar, if_neg fun dot : c = '.' => left (dot ▸ List.mem_cons_self)]
            rfl
      simp only [Option.bind_eq_bind, Option.bind_some, noSeparator, Option.bind_none]

end Ipv4

section Groups

private theorem known_hexadecimal : ∀ digit < 16, toDigit 16 digit.digitChar = some digit := by
  decide

theorem readNumber_hex {segment : Nat} (small : segment < 65536) {rest : List Char}
    (stops : Stops 16 rest) :
    readNumber 16 4 65536 true (hex segment ++ rest) = some (segment, rest) := by
  refine readNumber_toDigits (by decide) known_hexadecimal true small ?_ stops
  rw [Nat.length_toDigits_le_iff (by decide) (by decide)]
  exact small

/-- What may follow the groups of an address as far as they are written out. -/
def Ended (rest : List Char) : Prop := rest = [] ∨ ∃ more, rest = ':' :: ':' :: more

theorem stops_colon (rest : List Char) : Stops 16 (':' :: rest) := by
  intro c first
  cases first
  rfl

theorem Ended.stops {rest : List Char} (ended : Ended rest) : Stops 16 rest := by
  rcases ended with rfl | ⟨more, rfl⟩
  · exact stops_nil 16
  · exact stops_colon _

theorem Ended.readGroup {rest : List Char} (ended : Ended rest) (index : Nat) :
    readGroup index rest = none := by
  rw [IpText.readGroup, readSeparator]
  split
  · rcases ended with rfl | ⟨more, rfl⟩
    · rfl
    · rw [readGivenChar, if_pos rfl, Option.bind_some, readNumber_of_stops (stops_colon more)]
  · exact readNumber_of_stops ended.stops _ _ _

theorem readEmbedded_of_no_dot {s : List Char} (noDot : '.' ∉ s) (index left : Nat) :
    readEmbedded index left s = none := by
  rw [readEmbedded, readSeparator]
  split
  · split
    · cases s with
      | nil => rfl
      | cons c tail =>
          rw [readGivenChar]
          split
          · exact readIpv4Addr_of_no_dot fun dot => noDot (List.mem_cons_of_mem c dot)
          · rfl
    · exact readIpv4Addr_of_no_dot noDot
  · rfl

/-- Segments with a colon before each. -/
def colons (groups : List Nat) : List Char := groups.flatMap fun segment => ':' :: hex segment

theorem hex_no_dot (segment : Nat) : '.' ∉ hex segment := by
  intro dot
  have digit := toDigits_isDigitOf (by decide) (by decide) segment '.' dot
  exact absurd digit (by decide)

theorem colons_no_dot (groups : List Nat) : '.' ∉ colons groups := by
  intro dot
  obtain ⟨segment, -, there⟩ := List.mem_flatMap.mp dot
  rcases List.mem_cons.mp there with colon | there
  · cases colon
  · exact hex_no_dot segment there

theorem readGroups_ended {rest : List Char} (ended : Ended rest) (noDot : '.' ∉ rest)
    (index left : Nat) : readGroups index left rest = ⟨[], false, rest⟩ := by
  cases left with
  | zero => rfl
  | succ left => rw [readGroups, readEmbedded_of_no_dot noDot, ended.readGroup]

theorem readGroups_colons {groups : List Nat} {rest : List Char} (ended : Ended rest)
    (noDot : '.' ∉ rest) (small : ∀ segment ∈ groups, segment < 65536) (index : Nat) {left : Nat}
    (fits : groups.length ≤ left) :
    readGroups (index + 1) left (colons groups ++ rest) = ⟨groups, false, rest⟩ := by
  induction groups generalizing index left with
  | nil => exact readGroups_ended ended noDot _ _
  | cons segment groups ih =>
      cases left with
      | zero => exact absurd fits (Nat.not_succ_le_zero _)
      | succ left =>
          have noDots : '.' ∉ colons (segment :: groups) ++ rest := fun dot =>
            (List.mem_append.mp dot).elim (colons_no_dot _) noDot
          have stops : Stops 16 (colons groups ++ rest) := by
            cases groups with
            | nil => exact ended.stops
            | cons _ _ => exact stops_colon _
          have group : readGroup (index + 1) (colons (segment :: groups) ++ rest) =
              some (segment, colons groups ++ rest) := by
            rw [readGroup, readSeparator, if_pos (Nat.succ_pos index), colons,
              List.flatMap_cons, List.cons_append, List.cons_append, List.append_assoc,
              readGivenChar, if_pos rfl, Option.bind_some]
            exact readNumber_hex (small segment List.mem_cons_self) stops
          rw [readGroups, readEmbedded_of_no_dot noDots, group]
          dsimp only
          rw [ih (fun other member => small other (List.mem_cons_of_mem segment member)) _
            (Nat.le_of_succ_le_succ fits)]

/-- The groups that are written out are read back, up to a double colon or the end. -/
theorem readGroups_fmtSubslice {groups : List Nat} {rest : List Char} (ended : Ended rest)
    (noDot : '.' ∉ rest) (small : ∀ segment ∈ groups, segment < 65536) {left : Nat}
    (fits : groups.length ≤ left) :
    readGroups 0 left (fmtSubslice groups ++ rest) = ⟨groups, false, rest⟩ := by
  cases groups with
  | nil => exact readGroups_ended ended noDot 0 left
  | cons first tail =>
      cases left with
      | zero => exact absurd fits (Nat.not_succ_le_zero _)
      | succ left =>
          have stops : Stops 16 (colons tail ++ rest) := by
            cases tail with
            | nil => exact ended.stops
            | cons _ _ => exact stops_colon _
          have text : fmtSubslice (first :: tail) ++ rest = hex first ++ (colons tail ++ rest) :=
            List.append_assoc _ _ _
          have noDots : '.' ∉ hex first ++ (colons tail ++ rest) := by
            simp only [List.mem_append, not_or]
            exact ⟨hex_no_dot first, colons_no_dot tail, noDot⟩
          have group : readGroup 0 (hex first ++ (colons tail ++ rest)) =
              some (first, colons tail ++ rest) :=
            readNumber_hex (small first List.mem_cons_self) stops
          rw [text, readGroups, readEmbedded_of_no_dot noDots, group]
          dsimp only
          rw [readGroups_colons ended noDot
            (fun other member => small other (List.mem_cons_of_mem first member)) 0
            (Nat.le_of_succ_le_succ fits)]

end Groups

section Zeros

/-- All segments of the span are there, and zero. -/
def ZeroSpan (segments : List Nat) (span : Span) : Prop :=
  ∀ index, span.start ≤ index → index < span.start + span.len → segments[index]? = some 0

theorem zeroSpan_empty (segments : List Nat) (start : Nat) : ZeroSpan segments ⟨start, 0⟩ :=
  fun _ from_ below => absurd below (Nat.not_lt_of_le from_)

theorem zeroRun_zeroSpan (rest before : List Nat) {longest current : Span}
    (found : ZeroSpan (before ++ rest) longest) (open_ : ZeroSpan (before ++ rest) current)
    (here : 0 < current.len → current.start + current.len = before.length) :
    ZeroSpan (before ++ rest) (zeroRun before.length longest current rest) := by
  induction rest generalizing before longest current with
  | nil => exact found
  | cons segment rest ih =>
      have next : before ++ segment :: rest = before ++ [segment] ++ rest :=
        List.append_cons before segment rest
      have length : (before ++ [segment]).length = before.length + 1 := List.length_append
      rw [zeroRun]
      split
      · rename_i zero
        rw [next, ← length]
        have start : (if current.len = 0 then before.length else current.start) +
            current.len = before.length := by
          split
          · omega
          · exact here (by omega)
        have longer : ZeroSpan (before ++ [segment] ++ rest)
            ⟨if current.len = 0 then before.length else current.start, current.len + 1⟩ := by
          intro index from_ below
          rw [← next]
          by_cases last : index = before.length
          · rw [last, List.getElem?_append_right (Nat.le_refl _), Nat.sub_self, zero]
            rfl
          · dsimp only at from_ below
            split at from_
            · omega
            · rename_i some_
              rw [if_neg some_] at below start
              exact open_ index from_ (by omega)
        generalize (if current.len = 0 then before.length else current.start) = first at *
        refine ih (before ++ [segment]) ?_ longer ?_
        · split
          · exact longer
          · exact next ▸ found
        · intro _
          rw [length, ← start]
          rfl
      · rw [next, ← length]
        exact ih (before ++ [segment]) (next ▸ found) (zeroSpan_empty _ 0)
          fun some_ => absurd some_ (Nat.lt_irrefl 0)

theorem ZeroSpan.bound {segments : List Nat} {span : Span} (zeros : ZeroSpan segments span)
    (some_ : 0 < span.len) : span.start + span.len ≤ segments.length := by
  have last := zeros (span.start + span.len - 1) (by omega) (by omega)
  obtain ⟨below, -⟩ := List.getElem?_eq_some_iff.mp last
  omega

/-- What the double colon leaves out. -/
theorem ZeroSpan.fill {segments : List Nat} {span : Span} (zeros : ZeroSpan segments span) :
    segments.take span.start ++ List.replicate span.len 0 ++
      segments.drop (span.start + span.len) = segments := by
  have middle : (segments.drop span.start).take span.len = List.replicate span.len 0 := by
    rw [List.eq_replicate_iff]
    constructor
    · rw [List.length_take, List.length_drop]
      rcases Nat.eq_zero_or_pos span.len with none_ | some_
      · omega
      · have := zeros.bound some_
        omega
    · intro segment member
      obtain ⟨index, below, rfl⟩ := List.mem_iff_getElem.mp member
      rw [List.length_take] at below
      have zero := zeros (span.start + index) (Nat.le_add_right _ _) (by omega)
      rw [List.getElem_take, List.getElem_drop]
      exact (List.getElem?_eq_some_iff.mp zero).2
  rw [← middle, List.append_assoc, ← List.drop_drop, List.take_append_drop,
    List.take_append_drop]

end Zeros

section RoundTrip

theorem segments_length (ip : Ipv6Addr) : (segments ip).length = 8 := by
  rw [segments, List.length_map, List.length_range]

theorem segments_small (ip : Ipv6Addr) : ∀ segment ∈ segments ip, segment < 65536 := by
  intro segment member
  obtain ⟨index, -, rfl⟩ := List.mem_map.mp member
  have high := (ip.octets.getD (2 * index) 0).toNat_lt
  have low := (ip.octets.getD (2 * index + 1) 0).toNat_lt
  omega

theorem ofGroups_segments (ip : Ipv6Addr) : ofGroups (segments ip) = ip := by
  obtain ⟨octets, length⟩ := ip
  rw [ofGroups, Ipv6Addr.mk.injEq]
  apply List.ext_getElem
  · rw [List.length_map, List.length_range, length]
  · intro index below inside
    have segment : (segments ⟨octets, length⟩).getD (index / 2) 0 =
        (octets.getD (2 * (index / 2)) 0).toNat * 256 +
          (octets.getD (2 * (index / 2) + 1) 0).toNat := by
      rw [segments, List.getD_eq_getElem?_getD, List.getElem?_map,
        List.getElem?_range (by omega)]
      rfl
    have low := (octets.getD (2 * (index / 2) + 1) 0).toNat_lt
    rw [List.getElem_map, List.getElem_range, segment]
    dsimp only
    split
    · rename_i even
      have place : 2 * (index / 2) = index := by omega
      have high : ((octets.getD (2 * (index / 2)) 0).toNat * 256 +
          (octets.getD (2 * (index / 2) + 1) 0).toNat) / 256 = (octets.getD index 0).toNat := by
        rw [place] at low ⊢
        omega
      rw [high, UInt8.ofNat_toNat, List.getD_eq_getElem?_getD,
        List.getElem?_eq_getElem inside, Option.getD_some]
    · rename_i odd
      have place : 2 * (index / 2) + 1 = index := by omega
      have rest : ((octets.getD (2 * (index / 2)) 0).toNat * 256 +
          (octets.getD (2 * (index / 2) + 1) 0).toNat) % 256 = (octets.getD index 0).toNat := by
        rw [place] at low ⊢
        omega
      rw [rest, UInt8.ofNat_toNat, List.getD_eq_getElem?_getD,
        List.getElem?_eq_getElem inside, Option.getD_some]

theorem fmtSubslice_no_dot (groups : List Nat) : '.' ∉ fmtSubslice groups := by
  cases groups with
  | nil => exact List.not_mem_nil
  | cons first tail =>
      intro dot
      exact (List.mem_append.mp dot).elim (hex_no_dot first) (colons_no_dot tail)

/-- The two sides of a double colon. -/
theorem readIpv6Addr_sides {before after : List Nat} (short : before.length + after.length < 8)
    (smallBefore : ∀ segment ∈ before, segment < 65536)
    (smallAfter : ∀ segment ∈ after, segment < 65536) :
    readIpv6Addr (fmtSubslice before ++ "::".toList ++ fmtSubslice after) =
      some (ofGroups (before ++ List.replicate (8 - before.length - after.length) 0 ++ after),
        []) := by
  have noDot : '.' ∉ ':' :: ':' :: fmtSubslice after := by
    simp only [List.mem_cons, not_or]
    exact ⟨by decide, by decide, fmtSubslice_no_dot after⟩
  have head : readGroups 0 8 (fmtSubslice before ++ "::".toList ++ fmtSubslice after) =
      ⟨before, false, ':' :: ':' :: fmtSubslice after⟩ := by
    rw [List.append_assoc]
    exact readGroups_fmtSubslice (Or.inr ⟨_, rfl⟩) noDot smallBefore (by omega)
  have tail : readGroups 0 (8 - (before.length + 1)) (fmtSubslice after) = ⟨after, false, []⟩ := by
    rw [← List.append_nil (fmtSubslice after)]
    exact readGroups_fmtSubslice (Or.inl rfl) List.not_mem_nil smallAfter (by omega)
  have notAll : before.length ≠ 8 := by omega
  rw [readIpv6Addr, head]
  dsimp only
  rw [if_neg notAll, if_neg Bool.false_ne_true, readGivenChar, if_pos rfl, Option.bind_some,
    readGivenChar, if_pos rfl]
  dsimp only
  rw [tail]

theorem readIpv6Addr_full {groups : List Nat} (all : groups.length = 8)
    (small : ∀ segment ∈ groups, segment < 65536) :
    readIpv6Addr (fmtSubslice groups) = some (ofGroups groups, []) := by
  have head : readGroups 0 8 (fmtSubslice groups) = ⟨groups, false, []⟩ := by
    rw [← List.append_nil (fmtSubslice groups)]
    exact readGroups_fmtSubslice (Or.inl rfl) List.not_mem_nil small (by omega)
  rw [readIpv6Addr, head]
  exact if_pos all

theorem segments_mapped {ip : Ipv6Addr} {v4 : Ipv4Addr} (mapped : toIpv4Mapped ip = some v4) :
    segments ip = List.replicate 5 0 ++ 0xffff :: groupsOf v4 := by
  rw [toIpv4Mapped] at mapped
  split at mapped
  · rename_i fixed
    have known : ∀ index < 12, ip.octets.getD index 0 =
        (List.replicate 10 0 ++ [0xff, 0xff] : List UInt8).getD index 0 := by
      intro index below
      rw [← fixed, List.getD_eq_getElem?_getD, List.getD_eq_getElem?_getD,
        List.getElem?_take_of_lt below]
    have first : (List.range 6).map (fun index =>
        (ip.octets.getD (2 * index) 0).toNat * 256 +
          (ip.octets.getD (2 * index + 1) 0).toNat) = List.replicate 5 0 ++ [0xffff] := by
      rw [List.map_congr_left (fun index member => by
        have below := List.mem_range.mp member
        rw [known _ (by omega), known _ (by omega)])]
      decide
    rw [← Option.some_inj.mp mapped, segments, show 8 = 6 + 1 + 1 from rfl, List.range_succ,
      List.range_succ, List.map_append, List.map_append, first, List.append_assoc,
      List.append_assoc]
    rfl
  · cases mapped

/-- An address that embeds one of the other family is read back through it. -/
theorem readIpv6Addr_mapped {ip : Ipv6Addr} {v4 : Ipv4Addr} (mapped : toIpv4Mapped ip = some v4) :
    readIpv6Addr ("::ffff:".toList ++ displayIpv4 v4) = some (ip, []) := by
  have text : "::ffff:".toList ++ displayIpv4 v4 =
      ':' :: ':' :: (hex 0xffff ++ ':' :: displayIpv4 v4) := rfl
  have colonStops : Stops 10 (':' :: ':' :: (hex 0xffff ++ ':' :: displayIpv4 v4)) := by
    intro c first
    cases first
    rfl
  have letterStops : Stops 10 (hex 0xffff ++ ':' :: displayIpv4 v4) := by
    intro c first
    cases first
    rfl
  have head : readGroups 0 8 (':' :: ':' :: (hex 0xffff ++ ':' :: displayIpv4 v4)) =
      ⟨[], false, ':' :: ':' :: (hex 0xffff ++ ':' :: displayIpv4 v4)⟩ := by
    rw [readGroups, readEmbedded, if_pos (by decide), readSeparator,
      if_neg (Nat.lt_irrefl 0), readIpv4Addr_of_stops colonStops,
      Ended.readGroup (Or.inr ⟨_, rfl⟩)]
  have embedded : readEmbedded 1 5 (':' :: displayIpv4 v4) = some (v4, []) := by
    have read := readIpv4Addr_displayIpv4 v4 (stops_nil 10)
    rw [List.append_nil] at read
    rw [readEmbedded, if_pos (by decide), readSeparator, if_pos Nat.one_pos, readGivenChar,
      if_pos rfl, Option.bind_some, read]
  have tail : readGroups 0 7 (hex 0xffff ++ ':' :: displayIpv4 v4) =
      ⟨0xffff :: groupsOf v4, true, []⟩ := by
    have group : readGroup 0 (hex 0xffff ++ ':' :: displayIpv4 v4) =
        some (0xffff, ':' :: displayIpv4 v4) := by
      rw [readGroup, readSeparator, if_neg (Nat.lt_irrefl 0)]
      exact readNumber_hex (by decide) (stops_colon _)
    rw [readGroups, readEmbedded, if_pos (by decide), readSeparator,
      if_neg (Nat.lt_irrefl 0), readIpv4Addr_of_stops letterStops, group]
    dsimp only
    rw [readGroups, embedded]
  rw [text, readIpv6Addr, head]
  dsimp only
  rw [if_neg (by decide), if_neg Bool.false_ne_true, readGivenChar, if_pos rfl,
    Option.bind_some, readGivenChar, if_pos rfl]
  dsimp only [List.length_nil]
  rw [tail]
  have groups := segments_mapped mapped
  rw [← ofGroups_segments ip, groups]
  rfl

theorem readIpv6Addr_displayIpv6 (ip : Ipv6Addr) :
    readIpv6Addr (displayIpv6 ip) = some (ip, []) := by
  rw [displayIpv6]
  cases mapped : toIpv4Mapped ip with
  | some v4 => exact readIpv6Addr_mapped mapped
  | none =>
      have zeros : ZeroSpan (segments ip) (zeroRun 0 ⟨0, 0⟩ ⟨0, 0⟩ (segments ip)) :=
        zeroRun_zeroSpan (segments ip) [] (zeroSpan_empty _ 0) (zeroSpan_empty _ 0)
          fun some_ => absurd some_ (Nat.lt_irrefl 0)
      have length := segments_length ip
      dsimp only
      split
      · rename_i several
        have bound := zeros.bound (by omega)
        have filled := zeros.fill
        generalize zeroRun 0 ⟨0, 0⟩ ⟨0, 0⟩ (segments ip) = span at *
        have before : ((segments ip).take span.start).length = span.start := by
          rw [List.length_take]
          omega
        have after : ((segments ip).drop (span.start + span.len)).length =
            8 - (span.start + span.len) := by
          rw [List.length_drop, length]
        have left_out : 8 - span.start - (8 - (span.start + span.len)) = span.len := by omega
        rw [readIpv6Addr_sides (by omega)
          (fun segment member => segments_small ip segment (List.mem_of_mem_take member))
          (fun segment member => segments_small ip segment (List.mem_of_mem_drop member)),
          before, after, left_out, filled, ofGroups_segments]
      · rw [readIpv6Addr_full length (segments_small ip), ofGroups_segments]

/-- The text of an address of the larger family is not taken for one of the smaller. -/
theorem readIpv4Addr_displayIpv6 (ip : Ipv6Addr) : readIpv4Addr (displayIpv6 ip) = none := by
  rw [displayIpv6]
  cases toIpv4Mapped ip with
  | some v4 =>
      apply readIpv4Addr_of_stops
      intro c first
      cases first
      rfl
  | none =>
      apply readIpv4Addr_of_no_dot
      dsimp only
      split
      · simp only [List.mem_append, not_or]
        exact ⟨⟨fmtSubslice_no_dot _, by decide⟩, fmtSubslice_no_dot _⟩
      · exact fmtSubslice_no_dot _

theorem parseIpAddr_display (ip : IpAddr) : parseIpAddr (display ip) = some ip := by
  rw [parseIpAddr, readIpAddr]
  cases ip with
  | v4 ip =>
      have read := readIpv4Addr_displayIpv4 ip (stops_nil 10)
      rw [List.append_nil] at read
      rw [display, read]
  | v6 ip =>
      rw [display, readIpv4Addr_displayIpv6, readIpv6Addr_displayIpv6]
      rfl

end RoundTrip

end MolidoVpn.IpText
