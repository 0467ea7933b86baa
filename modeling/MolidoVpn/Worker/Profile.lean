import MolidoVpn.Worker.Singbox

/-!
`singboxProfile`: the profile of sing-box for a list of lines. Its loop passes a line that is
converted to nothing, and is left by the exception of a user name whose escapes do not decode.
-/

namespace MolidoVpn.Worker

open JavaScript (decodeURIComponent)

section Loop

variable (parseUrl : UrlParser)

/-- The piece behind the first number sign, decoded, or the name of the app. -/
def profileName (line : List Char) : List Char :=
  orText ((decodeURIComponent ((line.splitOn '#')[1]?.getD [])).getD []) "MolidoVPN".toList

def profileTag (line : List Char) (number : Nat) : List Char :=
  profileName line ++ " [".toList ++ Text.decimal number ++ [']']

/-- The loop, which is left as soon as there are sixty. -/
def collect : List Outbound → List (List Char) → Except UriError (List Outbound)
  | outbounds, [] => .ok outbounds
  | outbounds, line :: rest =>
      match singboxOutbound parseUrl line (profileTag line (outbounds.length + 1)) with
      | .error thrown => .error thrown
      | .ok found =>
          let outbounds := outbounds ++ found.toList
          if 60 ≤ outbounds.length then .ok outbounds else collect outbounds rest

end Loop

section Profile

inductive ProfileOutbound where
  | selector (tag : List Char) (outbounds : List (List Char)) (first : List Char)
  | urltest (tag : List Char) (outbounds : List (List Char)) (url interval : List Char)
      (tolerance : Nat) (idleTimeout : List Char)
  | proxy (outbound : Outbound)
  | direct (tag : List Char)

structure DnsServer where
  tag : List Char
  type : List Char
  server : Option (List Char)
  detour : Option (List Char)

/-- What stands in a profile, but for the tunnel that it comes in by. -/
structure Profile where
  dnsServers : List DnsServer
  dnsFinal : List Char
  outbounds : List ProfileOutbound
  privateOutbound : List Char
  final : List Char
  resolver : List Char

def ProfileOutbound.tag : ProfileOutbound → List Char
  | .selector tag _ _ => tag
  | .urltest tag _ _ _ _ _ => tag
  | .proxy outbound => outbound.tag
  | .direct tag => tag

/-- The outbounds that one names. -/
def ProfileOutbound.members : ProfileOutbound → List (List Char)
  | .selector _ outbounds first => first :: outbounds
  | .urltest _ outbounds _ _ _ _ => outbounds
  | .proxy _ => []
  | .direct _ => []

def ProfileOutbound.converted : ProfileOutbound → Option Outbound
  | .proxy outbound => some outbound
  | _ => none

def autoTag : List Char := "\u267b\ufe0f Auto".toList

def profileOf (outbounds : List Outbound) : Profile :=
  let tags := outbounds.map Outbound.tag
  { dnsServers :=
      [⟨"remote".toList, "https".toList, some "1.1.1.1".toList, some "MolidoVPN".toList⟩,
        ⟨"local".toList, "local".toList, none, none⟩]
    dnsFinal := "remote".toList
    outbounds :=
      .selector "MolidoVPN".toList (autoTag :: tags) autoTag ::
        .urltest autoTag tags "https://www.gstatic.com/generate_204".toList "5m".toList 80
          "30m".toList ::
        (outbounds.map .proxy ++ [.direct "direct".toList])
    privateOutbound := "direct".toList
    final := "MolidoVPN".toList
    resolver := "local".toList }

def singboxProfile (parseUrl : UrlParser) (lines : List (List Char)) : Except UriError Profile :=
  (collect parseUrl [] lines).map profileOf

end Profile

section Lines

variable (parseUrl : UrlParser)

/-- The line is no URL, or its user name decodes. -/
def readable (line : List Char) : Bool :=
  match parseUrl (coreOf line) with
  | none => true
  | some u => (decodeURIComponent u.username).isSome

def convertible (line : List Char) : Bool :=
  match singboxOutbound parseUrl line [] with
  | .ok (some _) => true
  | _ => false

/-- The outbound is what the line is converted to with its number in its tag. -/
def Converts (numbered : List Char × Nat) (outbound : Outbound) : Prop :=
  singboxOutbound parseUrl numbered.1 (profileTag numbered.1 numbered.2) = .ok (some outbound)

/-- The proxies are the first sixty lines that can be converted, numbered in their tags; no two
outbounds share a tag, and what is named is there. -/
structure SoundProfile (lines : List (List Char)) (profile : Profile) : Prop where
  conversions : List.Forall₂ (Converts parseUrl)
    (((lines.filter (convertible parseUrl)).take 60).zipIdx 1)
    (profile.outbounds.filterMap ProfileOutbound.converted)
  distinct : (profile.outbounds.map ProfileOutbound.tag).Nodup
  outboundsDefined : ∀ outbound ∈ profile.outbounds, ∀ tag ∈ outbound.members,
    tag ∈ profile.outbounds.map ProfileOutbound.tag
  routeDefined : ∀ tag ∈ [profile.privateOutbound, profile.final] ++
    profile.dnsServers.filterMap DnsServer.detour,
    tag ∈ profile.outbounds.map ProfileOutbound.tag

end Lines

section Conversion

variable {parseUrl : UrlParser} {line tag : List Char} {o : Outbound}

private theorem streamOutbound_tag (u : Url) (tag user : List Char) :
    streamOutbound u tag user =
      (streamOutbound u [] user).map fun o => { o with tag := tag } := by
  rw [streamOutbound, streamOutbound]
  cases streamTls u with
  | none => rfl
  | some tls =>
      cases streamTransport u with
      | none => rfl
      | some transport => rfl

/-- The tag is put on, and decides nothing. -/
theorem singboxOutbound_tag (parseUrl : UrlParser) (line tag : List Char) :
    singboxOutbound parseUrl line tag =
      (singboxOutbound parseUrl line []).map (Option.map fun o => { o with tag := tag }) := by
  rw [singboxOutbound, singboxOutbound]
  cases parseUrl (coreOf line) with
  | none => rfl
  | some u =>
      change convert u tag = (convert u []).map _
      rw [convert, convert]
      cases decodeURIComponent u.username with
      | none => rfl
      | some user =>
          rw [Except.map]
          apply congrArg Except.ok
          split
          · rfl
          · split
            · rfl
            · split
              · rfl
              · exact streamOutbound_tag u tag user

theorem tag_of_converted (converted : singboxOutbound parseUrl line tag = .ok (some o)) :
    o.tag = tag := by
  rw [singboxOutbound_tag] at converted
  cases plain : singboxOutbound parseUrl line [] with
  | error thrown =>
      rw [plain] at converted
      cases converted
  | ok found =>
      rw [plain] at converted
      obtain ⟨_, -, same⟩ := Option.map_eq_some_iff.mp (Except.ok.inj converted)
      rw [← same]

/-- What the conversion of a line is: an exception, nothing, or an outbound. -/
theorem singboxOutbound_cases (parseUrl : UrlParser) (line tag : List Char) :
    (readable parseUrl line = false ∧ convertible parseUrl line = false ∧
        singboxOutbound parseUrl line tag = .error .malformed) ∨
      (readable parseUrl line = true ∧ convertible parseUrl line = false ∧
        singboxOutbound parseUrl line tag = .ok none) ∨
      (readable parseUrl line = true ∧ convertible parseUrl line = true ∧
        ∃ o, singboxOutbound parseUrl line tag = .ok (some o)) := by
  rw [singboxOutbound_tag]
  cases parsed : parseUrl (coreOf line) with
  | none =>
      have nothing : singboxOutbound parseUrl line [] = .ok none := by rw [singboxOutbound, parsed]
      exact .inr (.inl
        ⟨by rw [readable, parsed], by rw [convertible, nothing], by rw [nothing]; rfl⟩)
  | some u =>
      have same : singboxOutbound parseUrl line [] = convert u [] := by rw [singboxOutbound, parsed]
      cases decoded : decodeURIComponent u.username with
      | none =>
          have thrown : singboxOutbound parseUrl line [] = .error .malformed := by
            rw [same, convert, decoded]
          refine .inl ⟨?_, by rw [convertible, thrown], by rw [thrown]; rfl⟩
          rw [readable, parsed]
          change (decodeURIComponent u.username).isSome = false
          rw [decoded]
          rfl
      | some user =>
          have reads : readable parseUrl line = true := by
            rw [readable, parsed]
            change (decodeURIComponent u.username).isSome = true
            rw [decoded]
            rfl
          obtain ⟨found, made⟩ : ∃ found, singboxOutbound parseUrl line [] = .ok found := by
            rw [same, convert, decoded]
            exact ⟨_, rfl⟩
          cases found with
          | none => exact .inr (.inl ⟨reads, by rw [convertible, made], by rw [made]; rfl⟩)
          | some o => exact .inr (.inr ⟨reads, by rw [convertible, made], _, by rw [made]; rfl⟩)

end Conversion

section Run

variable {parseUrl : UrlParser} {outbounds found : List Outbound} {lines : List (List Char)}

/-- One line of the loop. -/
theorem collect_cons (outbounds : List Outbound) (line : List Char) (rest : List (List Char)) :
    (readable parseUrl line = false ∧
        collect parseUrl outbounds (line :: rest) = .error .malformed) ∨
      (readable parseUrl line = true ∧ convertible parseUrl line = false ∧
        collect parseUrl outbounds (line :: rest) =
          if 60 ≤ outbounds.length then .ok outbounds else collect parseUrl outbounds rest) ∨
      (readable parseUrl line = true ∧ convertible parseUrl line = true ∧
        ∃ o, singboxOutbound parseUrl line (profileTag line (outbounds.length + 1)) =
            .ok (some o) ∧
          collect parseUrl outbounds (line :: rest) =
            if 60 ≤ outbounds.length + 1 then .ok (outbounds ++ [o])
            else collect parseUrl (outbounds ++ [o]) rest) := by
  have step : collect parseUrl outbounds (line :: rest) =
      match singboxOutbound parseUrl line (profileTag line (outbounds.length + 1)) with
      | .error thrown => .error thrown
      | .ok found =>
          if 60 ≤ (outbounds ++ found.toList).length then .ok (outbounds ++ found.toList)
          else collect parseUrl (outbounds ++ found.toList) rest := by rw [collect]
  rcases singboxOutbound_cases parseUrl line (profileTag line (outbounds.length + 1)) with
    ⟨reads, -, made⟩ | ⟨reads, converts, made⟩ | ⟨reads, converts, o, made⟩
  · rw [made] at step
    exact .inl ⟨reads, step⟩
  · rw [made] at step
    simp only [Option.toList_none, List.append_nil] at step
    exact .inr (.inl ⟨reads, converts, step⟩)
  · rw [made] at step
    simp only [Option.toList_some, List.length_append, List.length_singleton] at step
    exact .inr (.inr ⟨reads, converts, o, made, step⟩)

/-- What the loop has found it has made of the lines that can be converted, in order. -/
theorem collect_found (room : outbounds.length < 60)
    (collected : collect parseUrl outbounds lines = .ok found) :
    ∃ more, found = outbounds ++ more ∧
      List.Forall₂ (Converts parseUrl)
        (((lines.filter (convertible parseUrl)).take (60 - outbounds.length)).zipIdx
          (outbounds.length + 1)) more := by
  induction lines generalizing outbounds with
  | nil =>
      rw [collect, Except.ok.injEq] at collected
      refine ⟨[], by rw [← collected, List.append_nil], ?_⟩
      rw [List.filter_nil, List.take_nil]
      exact .nil
  | cons line rest ih =>
      rcases collect_cons outbounds line rest with ⟨-, step⟩ | ⟨-, converts, step⟩ |
        ⟨-, converts, o, made, step⟩
      · rw [step] at collected
        cases collected
      · rw [step, if_neg (Nat.not_le.mpr room)] at collected
        rw [List.filter_cons_of_neg (by rw [converts]; exact Bool.false_ne_true)]
        exact ih room collected
      · obtain ⟨left, places⟩ : ∃ left, 60 - outbounds.length = left + 1 :=
          ⟨60 - outbounds.length - 1, by omega⟩
        rw [List.filter_cons_of_pos converts, places, List.take_succ_cons, List.zipIdx_cons]
        rw [step] at collected
        split at collected
        · rename_i full
          have none_ : left = 0 := by omega
          refine ⟨[o], (Except.ok.inj collected).symm, .cons made ?_⟩
          rw [none_, List.take_zero]
          exact .nil
        · rename_i free
          have length : (outbounds ++ [o]).length = outbounds.length + 1 :=
            List.length_append
          obtain ⟨more, whole, others⟩ := ih (by omega) collected
          rw [length, show 60 - (outbounds.length + 1) = left by omega] at others
          refine ⟨o :: more, ?_, .cons made others⟩
          rw [whole, List.append_assoc]
          rfl

/-- The lines that the loop comes to before it is left. -/
def Readable (parseUrl : UrlParser) (taken : Nat) (lines : List (List Char)) : Prop :=
  ∀ before line after, lines = before ++ line :: after →
    taken + before.countP (convertible parseUrl) < 60 → readable parseUrl line = true

private theorem readable_cons {taken : Nat} (room : taken < 60) (line : List Char)
    (rest : List (List Char)) :
    Readable parseUrl taken (line :: rest) ↔ readable parseUrl line = true ∧
      Readable parseUrl (taken + if convertible parseUrl line then 1 else 0) rest := by
  constructor
  · intro all
    refine ⟨all [] line rest rfl room, fun before other after cut few => ?_⟩
    apply all (line :: before) other after (by rw [cut]; rfl)
    rw [List.countP_cons]
    omega
  · rintro ⟨reads, others⟩ before other after cut few
    cases before with
    | nil =>
        cases cut
        exact reads
    | cons first before =>
        cases cut
        rw [List.countP_cons] at few
        exact others before other after rfl (by omega)

/-- The loop ends without an exception exactly where every line that it comes to can be read. -/
theorem collect_ok_iff (room : outbounds.length < 60) :
    (∃ found, collect parseUrl outbounds lines = .ok found) ↔
      Readable parseUrl outbounds.length lines := by
  induction lines generalizing outbounds with
  | nil =>
      refine iff_of_true ⟨outbounds, rfl⟩ fun before line after cut _ => ?_
      exact absurd cut.symm (List.append_ne_nil_of_right_ne_nil _ (List.cons_ne_nil _ _))
  | cons line rest ih =>
      rw [readable_cons room]
      rcases collect_cons outbounds line rest with ⟨reads, step⟩ | ⟨reads, converts, step⟩ |
        ⟨reads, converts, o, -, step⟩
      · rw [step, reads]
        exact iff_of_false (fun ok => by obtain ⟨_, thrown⟩ := ok; cases thrown) fun both =>
          Bool.false_ne_true both.1
      · rw [step, if_neg (Nat.not_le.mpr room), reads, converts, ih room]
        exact ⟨fun others => ⟨rfl, others⟩, And.right⟩
      · rw [step, reads, converts, if_pos rfl]
        split
        · rename_i full
          refine iff_of_true ⟨_, rfl⟩ ⟨rfl, fun before line after _ few => ?_⟩
          omega
        · rename_i free
          have length : (outbounds ++ [o]).length = outbounds.length + 1 :=
            List.length_append
          rw [ih (by omega), length]
          exact ⟨fun others => ⟨rfl, others⟩, And.right⟩

end Run

section Tags

private theorem profileTag_eq (line : List Char) (number : Nat) :
    profileTag line number =
      (profileName line ++ [' ']) ++ '[' :: (Text.decimal number ++ [']']) := by
  rw [profileTag, List.append_assoc, List.append_assoc, List.append_assoc]
  rfl

/-- The number in brackets ends a tag, whatever the name. -/
theorem profileTag_number {line other : List Char} {one two : Nat}
    (same : profileTag line one = profileTag other two) : one = two := by
  have clear (number : Nat) : '[' ∉ Text.decimal number ++ [']'] := by
    intro member
    rcases List.mem_append.mp member with digit | bracket
    · exact Text.not_mem_decimal rfl number digit
    · exact absurd bracket (by decide)
  have split := congrArg (Text.rsplitOnce '[') same
  rw [profileTag_eq, profileTag_eq, Text.rsplitOnce_last _ (clear one),
    Text.rsplitOnce_last _ (clear two), Option.some.injEq, Prod.mk.injEq] at split
  exact Text.decimal_inj (List.append_cancel_right split.2)

private theorem profileTag_last (line : List Char) (number : Nat) :
    (profileTag line number).getLast? = some ']' := List.getLast?_concat

variable {parseUrl : UrlParser} {numbered : List (List Char × Nat)} {found : List Outbound}

private theorem tags_eq
    (made : List.Forall₂ (Converts parseUrl) numbered found) :
    found.map Outbound.tag = numbered.map fun numbered => profileTag numbered.1 numbered.2 := by
  induction made with
  | nil => rfl
  | cons first _ ih => rw [List.map_cons, List.map_cons, ih, tag_of_converted first]

private theorem nodup_tags (lines : List (List Char)) (start : Nat) :
    ((lines.zipIdx start).map fun numbered => profileTag numbered.1 numbered.2).Nodup := by
  have numbers : ((lines.zipIdx start).map Prod.snd).Nodup := by
    rw [List.zipIdx_map_snd]
    exact List.nodup_range'
  rw [List.Nodup, List.pairwise_map] at numbers ⊢
  exact numbers.imp fun different same => different (profileTag_number same)

end Tags

/-- Of the groups none is tagged like a proxy. -/
theorem sound_profileOf {parseUrl : UrlParser} {lines : List (List Char)} {found : List Outbound}
    (made : List.Forall₂ (Converts parseUrl)
      (((lines.filter (convertible parseUrl)).take 60).zipIdx 1) found) :
    SoundProfile parseUrl lines (profileOf found) := by
  have proxies : (profileOf found).outbounds.filterMap ProfileOutbound.converted = found := by
    change (found.map ProfileOutbound.proxy ++ [ProfileOutbound.direct _]).filterMap
      ProfileOutbound.converted = _
    rw [List.filterMap_append, List.filterMap_map]
    exact (List.append_nil _).trans List.filterMap_some
  have tags : (profileOf found).outbounds.map ProfileOutbound.tag =
      "MolidoVPN".toList :: autoTag :: (found.map Outbound.tag ++ ["direct".toList]) := by
    change _ :: _ :: (found.map ProfileOutbound.proxy ++ [ProfileOutbound.direct _]).map
      ProfileOutbound.tag = _
    rw [List.map_append, List.map_map]
    rfl
  have bracketed : ∀ tag ∈ found.map Outbound.tag, tag.getLast? = some ']' := by
    rw [tags_eq made]
    intro tag member
    obtain ⟨_, -, rfl⟩ := List.mem_map.mp member
    exact profileTag_last _ _
  have free {tag : List Char} (other : tag.getLast? ≠ some ']') : tag ∉ found.map Outbound.tag :=
    fun member => other (bracketed tag member)
  refine ⟨by rw [proxies]; exact made, ?_, ?_, ?_⟩
  all_goals rw [tags]
  · have proxies : (found.map Outbound.tag ++ ["direct".toList]).Nodup := by
      rw [List.nodup_append_comm, List.singleton_append, List.nodup_cons, tags_eq made]
      refine ⟨?_, nodup_tags _ 1⟩
      rw [← tags_eq made]
      exact free (by decide)
    rw [List.nodup_cons, List.nodup_cons, List.mem_cons, List.mem_append, List.mem_append]
    refine ⟨?_, ?_, proxies⟩
    · rintro (same | member | same)
      · exact absurd same (by decide)
      · exact free (by decide) member
      · exact absurd same (by decide)
    · rintro (member | same)
      · exact free (by decide) member
      · exact absurd same (by decide)
  · have tagged {tag : List Char} (member : tag ∈ found.map Outbound.tag) :
        tag ∈ "MolidoVPN".toList :: autoTag :: (found.map Outbound.tag ++ ["direct".toList]) :=
      List.mem_cons_of_mem _ (List.mem_cons_of_mem _ (List.mem_append_left _ member))
    have auto : autoTag ∈
        "MolidoVPN".toList :: autoTag :: (found.map Outbound.tag ++ ["direct".toList]) :=
      List.mem_cons_of_mem _ List.mem_cons_self
    intro outbound member tag named
    rcases List.mem_cons.mp member with rfl | member
    · rcases List.mem_cons.mp named with rfl | named
      · exact auto
      · rcases List.mem_cons.mp named with rfl | named
        · exact auto
        · exact tagged named
    · rcases List.mem_cons.mp member with rfl | member
      · exact tagged named
      · rcases List.mem_append.mp member with proxy | direct
        · obtain ⟨_, -, rfl⟩ := List.mem_map.mp proxy
          exact absurd named List.not_mem_nil
        · rw [List.mem_singleton.mp direct] at named
          exact absurd named List.not_mem_nil
  · intro tag named
    have one : tag = "direct".toList ∨ tag = "MolidoVPN".toList := by
      change tag ∈ ["direct".toList, "MolidoVPN".toList, "MolidoVPN".toList] at named
      simp only [List.mem_cons, List.not_mem_nil, or_false, or_self] at named
      exact named
    rcases one with rfl | rfl
    · exact List.mem_cons_of_mem _ (List.mem_cons_of_mem _ (List.mem_append_right _
        List.mem_cons_self))
    · exact List.mem_cons_self

/-- A profile is made as it should be exactly where the loop comes to no line that is a URL with a
user name whose escapes do not decode. -/
theorem singboxProfile_iff (parseUrl : UrlParser) (lines : List (List Char)) :
    (∃ profile, singboxProfile parseUrl lines = .ok profile ∧ SoundProfile parseUrl lines profile) ↔
      Readable parseUrl 0 lines := by
  have room : ([] : List Outbound).length < 60 := by decide
  refine Iff.trans ?_ (collect_ok_iff room)
  constructor
  · rintro ⟨profile, made, -⟩
    cases collected : collect parseUrl [] lines with
    | error thrown =>
        rw [singboxProfile, collected] at made
        cases made
    | ok found => exact ⟨found, rfl⟩
  · rintro ⟨found, collected⟩
    obtain ⟨more, whole, made⟩ := collect_found room collected
    rw [List.nil_append] at whole
    rw [← whole] at made
    exact ⟨profileOf found, by rw [singboxProfile, collected]; rfl, sound_profileOf made⟩

/-- A user name with an escape that does not decode, and a line that can be converted. -/
def escapedParser : UrlParser := fun text =>
  if text = "vless://%zz@a.example:443".toList then
    some ⟨"vless:".toList, "%zz".toList, [], "a.example".toList, "443".toList, []⟩
  else if text = "vless://b831381d@b.example:443".toList then
    some ⟨"vless:".toList, "b831381d".toList, [], "b.example".toList, "443".toList, []⟩
  else none

/-- The one line takes the whole profile down. -/
theorem singboxProfile_escaped :
    convertible escapedParser "vless://b831381d@b.example:443".toList = true ∧
      ∀ profile, singboxProfile escapedParser
        ["vless://%zz@a.example:443".toList, "vless://b831381d@b.example:443".toList] ≠
          .ok profile := by
  have thrown : collect escapedParser []
      ["vless://%zz@a.example:443".toList, "vless://b831381d@b.example:443".toList] =
        .error .malformed := by decide +kernel
  refine ⟨by decide +kernel, fun profile made => ?_⟩
  rw [singboxProfile, thrown] at made
  cases made

end MolidoVpn.Worker
