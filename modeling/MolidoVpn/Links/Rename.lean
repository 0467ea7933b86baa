import MolidoVpn.Links.Parsers
import MolidoVpn.Links.Vmess

/-!
`parse_uri` and `rename_uri` of `parsers.py`. Most links have their name behind the first `#`, which
no parser looks at.
-/

namespace MolidoVpn.Links.Rename

open Python (Floats Value WellFormed dumps getItem? setItem texts)
open Vmess (Builtins contents parseVmess word)

section Split

/-- A network location, with `hostname` and `port`. -/
structure Location where
  userInfo : List Char
  host : List Char
  port : Option Nat

def isSchemeChar (c : Char) : Bool := c.isAlphanum || "+-.".toList.contains c

/-- The scheme in small letters, and what is behind its colon. -/
def schemeOf (url : List Char) : List Char × List Char :=
  match Text.splitAround [':'] url with
  | some (before, after) =>
      if before.head?.any Char.isAlpha && before.all isSchemeChar then
        (before.map Char.toLower, after)
      else ([], url)
  | none => ([], url)

/-- What is behind two slashes, up to the path, the query or the fragment. -/
def netlocOf (rest : List Char) : List Char × List Char :=
  if startsWith "//" rest then
    ((rest.drop 2).takeWhile fun c => c != '/' && c != '?' && c != '#',
      (rest.drop 2).dropWhile fun c => c != '/' && c != '?' && c != '#')
  else ([], rest)

/-- `urlparse` without the path. How a network location is taken apart is left open. -/
def urlparse (location : List Char → Option Location) (url : List Char) : Option Url :=
  let url := (url.dropWhile fun c => c.toNat ≤ 0x20).filter fun c =>
    c != '\t' && c != '\r' && c != '\n'
  let (scheme, rest) := schemeOf url
  let (netloc, rest) := netlocOf rest
  let (_, query) := (Text.splitAround ['?'] (rest.takeWhile (· != '#'))).getD ([], [])
  (location netloc).map fun p => ⟨scheme, p.userInfo, p.host, p.port, query⟩

end Split

section Source

variable (platform : Platform) (location : List Char → Option Location)

/-- The platform with `urllib.parse` and `binascii` of Python. -/
def python : Platform :=
  { platform with
    split := urlparse location
    strip := Python.strip
    b64decode := Python.a2bBase64 }

variable {floats : Floats} (builtins : Builtins floats)

/-- What `parse_uri` gives. -/
inductive Outbound (floats : Floats) where
  | vmess (outbound : Value floats)
  | url (outbound : Json)

def parseUri (uri : List Char) : Option (Outbound floats) :=
  if startsWith "vmess://" uri then (parseVmess builtins uri).map .vmess
  else (Parsers.parseUri (python platform location) uri).map .url

/-- A `vmess` link around a JSON text. -/
def linkOf (text : List Char) : List Char :=
  "vmess://".toList ++ Base64.encode (Utf8.encode text)

variable (floats)

/-- Nothing where it raises. -/
def renameUri (uri name : List Char) : Option (List Char) :=
  if startsWith "vmess://" uri then
    (contents uri : Option (Value floats)).bind fun d =>
      match d with
      | .dict members =>
          (dumps (.dict (setItem members (word "ps") (.str (Python.str name))))).map linkOf
      | _ => none
  else some (uri.takeWhile (· != '#') ++ '#' :: UrlEncoded.quote name)

/-- The name that a link carries. -/
def nameOf (uri : List Char) : Option Python.Str :=
  if startsWith "vmess://" uri then
    (contents uri : Option (Value floats)).bind fun d =>
      match d with
      | .dict members => (getItem? members (word "ps")).bind Vmess.asText
      | _ => none
  else (Text.splitAround ['#'] uri).map fun (_, fragment) => Python.str (UrlEncoded.lenient fragment)

/-- Behind a name of its own, the object of a link has no surrogate alone in a string. -/
def Renamable (uri : List Char) : Prop :=
  startsWith "vmess://" uri = true → ∀ d, (contents uri : Option (Value floats)) = some (.dict d) →
    ∀ member ∈ d, member.1 ≠ word "ps" → ∀ text ∈ member.1 :: texts member.2, WellFormed text

end Source

section Fragment

variable {platform : Platform} {location : List Char → Option Location}
  {base : List Char} {tail : List Char}

theorem takeWhile_base (clear : '#' ∉ base) : (base ++ '#' :: tail).takeWhile (· != '#') = base := by
  have solid : ∀ c ∈ base, (c != '#') = true :=
    fun c there => bne_iff_ne.mpr fun same => clear (same ▸ there)
  rw [List.takeWhile_append_of_pos solid, List.takeWhile_cons_of_neg (by decide), List.append_nil]

theorem startsWith_base {start : String} (clear : '#' ∉ start.toList) :
    startsWith start (base ++ '#' :: tail) = startsWith start base := by
  rw [startsWith, startsWith, Bool.eq_iff_iff, List.isPrefixOf_iff_prefix,
    List.isPrefixOf_iff_prefix]
  constructor
  · exact Text.prefix_of_prefix_append_cons clear
  · exact fun front => front.trans (List.prefix_append base _)

theorem schemeOf_base (clear : '#' ∉ base) :
    schemeOf (base ++ '#' :: tail) = ((schemeOf base).1, (schemeOf base).2 ++ '#' :: tail) ∧
      '#' ∉ (schemeOf base).2 := by
  unfold schemeOf
  cases split : Text.splitAround [':'] base with
  | some parts =>
      obtain ⟨before, after⟩ := parts
      have inside : '#' ∉ after := by
        rw [Text.splitAround_eq_append split] at clear
        exact fun there => clear (List.mem_append_right _ (List.mem_cons_of_mem _ there))
      rw [Text.splitAround_append_right split]
      dsimp only
      split
      · exact ⟨rfl, inside⟩
      · exact ⟨rfl, clear⟩
  | none =>
      refine ⟨?_, clear⟩
      dsimp only
      rw [Text.splitAround_append_cons split (by decide)]
      cases Text.splitAround [':'] tail with
      | none => rfl
      | some parts =>
          obtain ⟨before, after⟩ := parts
          have other : (base ++ '#' :: before).all isSchemeChar = false := by
            rw [List.all_append, List.all_cons, show isSchemeChar '#' = false from by decide,
              Bool.false_and, Bool.and_false]
          rw [Option.map_some]
          dsimp only
          rw [other, Bool.and_false, if_neg Bool.false_ne_true]

theorem netlocOf_base (clear : '#' ∉ base) :
    netlocOf (base ++ '#' :: tail) = ((netlocOf base).1, (netlocOf base).2 ++ '#' :: tail) ∧
      '#' ∉ (netlocOf base).2 := by
  unfold netlocOf
  rw [startsWith_base (by decide)]
  split
  · rename_i slashes
    have long : 2 ≤ base.length :=
      (List.isPrefixOf_iff_prefix.mp slashes).length_le
    have inside : '#' ∉ base.drop 2 := fun there => clear (List.drop_subset 2 base there)
    rw [List.drop_append_of_le_length long, Text.dropWhile_append_cons (by decide)]
    constructor
    · rw [List.takeWhile_append]
      split
      · rw [List.takeWhile_cons_of_neg (by decide), List.append_nil]
        rename_i all
        rw [(List.takeWhile_prefix _).eq_of_length all]
      · rfl
    · exact fun there => inside ((List.dropWhile_suffix _).subset there)
  · exact ⟨rfl, clear⟩

theorem urlparse_base (clear : '#' ∉ base) :
    urlparse location (base ++ '#' :: tail) = urlparse location base := by
  have dropped : ((base ++ '#' :: tail).dropWhile fun c => decide (c.toNat ≤ 0x20)) =
      (base.dropWhile fun c => decide (c.toNat ≤ 0x20)) ++ '#' :: tail :=
    Text.dropWhile_append_cons (by decide) base tail
  have inside {p q : Char → Bool} : '#' ∉ (base.dropWhile p).filter q :=
    fun there => clear ((List.dropWhile_suffix p).subset (List.mem_filter.mp there).1)
  have whole {base : List Char} (clear : '#' ∉ base) : base.takeWhile (· != '#') = base := by
    rw [List.takeWhile_eq_self_iff]
    exact fun c there => bne_iff_ne.mpr fun same => clear (same ▸ there)
  unfold urlparse
  dsimp only
  rw [dropped, List.filter_append, List.filter_cons_of_pos (by decide)]
  obtain ⟨scheme, rest⟩ := schemeOf_base inside
  rw [scheme]
  dsimp only
  obtain ⟨netloc, rest⟩ := netlocOf_base rest
  rw [netloc]
  dsimp only
  rw [takeWhile_base rest, whole rest]

/-- What is replaced lies on one side of the mark. -/
theorem replaceFirst_base (clear : '#' ∉ base) {old new : String} (inOld : '#' ∉ old.toList)
    (inNew : '#' ∉ new.toList) :
    ∃ other, replaceFirst old new (base ++ '#' :: tail) = replaceFirst old new base ++ '#' :: other ∧
      '#' ∉ replaceFirst old new base := by
  unfold replaceFirst
  cases split : Text.splitAround old.toList base with
  | some parts =>
      obtain ⟨before, after⟩ := parts
      use tail
      rw [Text.splitAround_append_right split]
      rw [Text.splitAround_eq_append split, List.mem_append, List.mem_append, not_or, not_or] at clear
      constructor
      · exact (List.append_assoc _ _ _).symm
      · rw [List.mem_append, List.mem_append, not_or, not_or]
        exact ⟨⟨clear.1, inNew⟩, clear.2.2⟩
  | none =>
      rw [Text.splitAround_append_cons split inOld]
      cases Text.splitAround old.toList tail with
      | none => exact ⟨tail, rfl, clear⟩
      | some parts =>
          obtain ⟨before, after⟩ := parts
          use before ++ new.toList ++ after
          rw [Option.map_some]
          dsimp only
          rw [List.append_assoc, List.append_assoc, List.append_assoc]
          exact ⟨rfl, clear⟩

theorem commonUrl_base (clear : '#' ∉ base) :
    Parsers.commonUrl (python platform location) (base ++ '#' :: tail) =
      Parsers.commonUrl (python platform location) base := by
  have split : (python platform location).split (base ++ '#' :: tail) =
      (python platform location).split base := urlparse_base clear
  rw [Parsers.commonUrl, split]
  rfl

theorem commonUrl_replaceFirst_base (clear : '#' ∉ base) {old new : String}
    (inOld : '#' ∉ old.toList) (inNew : '#' ∉ new.toList) :
    Parsers.commonUrl (python platform location) (replaceFirst old new (base ++ '#' :: tail)) =
      Parsers.commonUrl (python platform location) (replaceFirst old new base) := by
  obtain ⟨other, replaced, inside⟩ := replaceFirst_base clear inOld inNew
  rw [replaced, commonUrl_base inside]

theorem ssBody_base (clear : '#' ∉ base) (ss : startsWith "ss://" base = true) :
    ssBody (base ++ '#' :: tail) = ssBody base := by
  have long : "ss://".length ≤ base.length := (List.isPrefixOf_iff_prefix.mp ss).length_le
  have inside : '#' ∉ base.drop "ss://".length := fun there => clear (List.drop_subset _ base there)
  have cut : Text.splitAround ['#'] (base.drop "ss://".length ++ '#' :: tail) =
      some (base.drop "ss://".length, tail) := Text.splitAround_first inside tail
  unfold ssBody
  dsimp only
  rw [List.drop_append_of_le_length long, cut, Kotlin.splitAround_eq_none inside]
  rfl

/-- No parser of a URL looks at the fragment. -/
theorem parseUri_base (clear : '#' ∉ base) (other : startsWith "vmess://" base = false) :
    Parsers.parseUri (python platform location) (base ++ '#' :: tail) =
      Parsers.parseUri (python platform location) base := by
  have starts {start : String} (clear : '#' ∉ start.toList) :
      startsWith start (base ++ '#' :: tail) = startsWith start base := startsWith_base clear
  unfold Parsers.parseUri
  rw [starts (by decide), starts (by decide), starts (by decide), starts (by decide),
    starts (by decide), starts (by decide), starts (by decide), starts (by decide),
    starts (by decide), starts (by decide), starts (by decide), starts (by decide), other,
    if_neg Bool.false_ne_true, if_neg Bool.false_ne_true]
  have ss (is : startsWith "ss://" base = true) :
      Parsers.parseSs (python platform location) (base ++ '#' :: tail) =
        Parsers.parseSs (python platform location) base := by
    rw [Parsers.parseSs, ssBody_base clear is]
    rfl
  have anytls : Parsers.parseAnytls (python platform location) (base ++ '#' :: tail) =
      Parsers.parseAnytls (python platform location) base := by
    rw [Parsers.parseAnytls, commonUrl_base clear]
    rfl
  have tuic : Parsers.parseTuic (python platform location) (base ++ '#' :: tail) =
      Parsers.parseTuic (python platform location) base := by
    rw [Parsers.parseTuic, commonUrl_base clear]
    rfl
  have vlessTrojan : Parsers.parseVlessTrojan (python platform location) (base ++ '#' :: tail) =
      Parsers.parseVlessTrojan (python platform location) base := by
    rw [Parsers.parseVlessTrojan, commonUrl_base clear]
    rfl
  have wireguard : Parsers.parseWireguard (python platform location) (base ++ '#' :: tail) =
      Parsers.parseWireguard (python platform location) base := by
    rw [Parsers.parseWireguard, commonUrl_replaceFirst_base clear (by decide) (by decide)]
    rfl
  have socks : Parsers.parseSocks (python platform location) (base ++ '#' :: tail) =
      Parsers.parseSocks (python platform location) base := by
    rw [Parsers.parseSocks, commonUrl_replaceFirst_base clear (by decide) (by decide)]
    rfl
  have hysteria2 : Parsers.parseHysteria2 (python platform location) (base ++ '#' :: tail) =
      Parsers.parseHysteria2 (python platform location) base := by
    rw [Parsers.parseHysteria2, commonUrl_replaceFirst_base clear (by decide) (by decide)]
    rfl
  rw [anytls, wireguard, socks, vlessTrojan, hysteria2, tuic]
  by_cases is : startsWith "ss://" base = true
  · rw [ss is]
  · rw [if_neg is, if_neg is]

/-- A link is what stands before its first mark, or has the mark and more behind that. -/
theorem eq_base_or (uri : List Char) :
    '#' ∉ uri.takeWhile (· != '#') ∧
      (uri = uri.takeWhile (· != '#') ∨ ∃ tail, uri = uri.takeWhile (· != '#') ++ '#' :: tail) := by
  have parts : uri.takeWhile (· != '#') ++ uri.dropWhile (· != '#') = uri :=
    List.takeWhile_append_dropWhile
  constructor
  · intro there
    exact absurd (List.mem_takeWhile_imp there) (by decide)
  · cases rest : uri.dropWhile (· != '#') with
    | nil =>
        rw [rest, List.append_nil] at parts
        exact Or.inl parts.symm
    | cons c tail =>
        have mark : ¬(c != '#') = true := by
          have first := List.head_dropWhile_not (· != '#')
            (show uri.dropWhile (· != '#') ≠ [] by rw [rest]; exact List.cons_ne_nil c tail)
          simp only [rest, List.head_cons] at first
          rw [first]
          exact Bool.false_ne_true
        rw [bne_iff_ne, not_not] at mark
        rw [rest, mark] at parts
        exact Or.inr ⟨tail, parts.symm⟩

end Fragment

section Url

variable (platform : Platform) (location : List Char → Option Location) {floats : Floats}
  (builtins : Builtins floats) {uri : List Char}

theorem parseUri_url {base : List Char} (clear : '#' ∉ base)
    (also : uri = base ∨ ∃ tail, uri = base ++ '#' :: tail)
    (other : startsWith "vmess://" base = false) :
    startsWith "vmess://" uri = false ∧
      parseUri platform location builtins uri =
        (Parsers.parseUri (python platform location) base).map .url := by
  have front : startsWith "vmess://" uri = false := by
    rcases also with rfl | ⟨tail, rfl⟩
    · exact other
    · rw [startsWith_base (by decide)]
      exact other
  have same : Parsers.parseUri (python platform location) uri =
      Parsers.parseUri (python platform location) base := by
    rcases also with rfl | ⟨tail, rfl⟩
    · rfl
    · exact parseUri_base clear other
  rw [parseUri, front, if_neg Bool.false_ne_true, same]
  exact ⟨rfl, rfl⟩

/-- A link that is no `vmess` link is parsed the same with any name. -/
theorem renameUri_url (other : startsWith "vmess://" uri = false) (name : List Char) :
    ∃ renamed, renameUri floats uri name = some renamed ∧
      parseUri platform location builtins renamed = parseUri platform location builtins uri ∧
      nameOf floats renamed = some (Python.str name) := by
  obtain ⟨clear, parts⟩ := eq_base_or uri
  have base : startsWith "vmess://" (uri.takeWhile (· != '#')) = false := by
    rcases parts with whole | ⟨tail, whole⟩
    · rw [← whole]
      exact other
    · rw [← other]
      conv_rhs => rw [whole]
      exact (startsWith_base (by decide)).symm
  have before := parseUri_url platform location builtins clear parts base
  have after := parseUri_url platform location builtins clear (Or.inr ⟨UrlEncoded.quote name, rfl⟩) base
  use uri.takeWhile (· != '#') ++ '#' :: UrlEncoded.quote name
  refine ⟨?_, after.2.trans before.2.symm, ?_⟩
  · rw [renameUri, other, if_neg Bool.false_ne_true]
  · have cut : Text.splitAround ['#'] (uri.takeWhile (· != '#') ++ '#' :: UrlEncoded.quote name) =
        some (uri.takeWhile (· != '#'), UrlEncoded.quote name) := Text.splitAround_first clear _
    have front := after.1
    rw [nameOf, front, if_neg Bool.false_ne_true, cut, Option.map_some]
    dsimp only
    rw [UrlEncoded.lenient_quote]

end Url

section Vmess

variable {platform : Platform} {location : List Char → Option Location} {floats : Floats}
  {builtins : Builtins floats} {uri name : List Char}
  {members : List (Python.Str × Value floats)}

theorem startsWith_linkOf (text : List Char) : startsWith "vmess://" (linkOf text) = true :=
  List.isPrefixOf_iff_prefix.mpr (List.prefix_append _ _)

theorem contents_linkOf (text : List Char) :
    (contents (linkOf text) : Option (Value floats)) = Python.loads text := by
  have decoded : Extract.b64decode (Base64.encode (Utf8.encode text)) = some text := by
    rw [Extract.b64decode_spelling List.mem_cons_self, JavaScript.strictUtf8_encode]
  have behind : (linkOf text).drop "vmess://".length = Base64.encode (Utf8.encode text) :=
    List.drop_left' rfl
  rw [contents, behind, decoded, Option.bind_some]

theorem isSome_dumps_setName_iff :
    (dumps (.dict (setItem members (word "ps") (.str (Python.str name))))).isSome = true ↔
      ∀ member ∈ members, member.1 ≠ word "ps" →
        ∀ text ∈ member.1 :: texts member.2, WellFormed text := by
  rw [Python.isSome_dumps_iff, texts]
  constructor
  · intro whole member there other text inside
    apply whole
    rw [Python.mem_textsOfMembers]
    exact ⟨member, Python.mem_setItem_iff.mpr (Or.inr ⟨there, other⟩), List.mem_cons.mp inside⟩
  · intro whole text inside
    obtain ⟨member, there, part⟩ := Python.mem_textsOfMembers.mp inside
    rcases Python.mem_setItem_iff.mp there with rfl | ⟨before, other⟩
    · rcases part with rfl | named
      · exact Python.wellFormed_str _
      · rw [texts, List.mem_singleton] at named
        rw [named]
        exact Python.wellFormed_str name
    · exact whole member before other text (List.mem_cons.mpr part)

theorem renameUri_vmess (vmess : startsWith "vmess://" uri = true)
    (read : contents uri = some (.dict members)) :
    (∃ renamed, renameUri floats uri name = some renamed ∧
      parseUri platform location builtins renamed = parseUri platform location builtins uri ∧
      nameOf floats renamed = some (Python.str name)) ↔
    (renameUri floats uri name).isSome = true := by
  constructor
  · rintro ⟨renamed, given, -⟩
    rw [given]
    rfl
  · intro given
    obtain ⟨renamed, given⟩ := Option.isSome_iff_exists.mp given
    refine ⟨renamed, given, ?_⟩
    rw [renameUri, if_pos vmess, read, Option.bind_some, Option.map_eq_some_iff] at given
    obtain ⟨text, writes, rfl⟩ := given
    have distinct : Python.Distinct
        (.dict (setItem members (word "ps") (.str (Python.str name))) : Value floats) := by
      rw [contents, Option.bind_eq_some_iff] at read
      obtain ⟨decoded, -, read⟩ := read
      exact Python.distinct_setItem (Python.distinct_loads read) trivial
    have front := startsWith_linkOf text
    have back := (contents_linkOf text).trans (Python.loads_dumps distinct writes)
    constructor
    · rw [parseUri, parseUri, if_pos front, if_pos vmess, parseVmess, parseVmess, back, read,
        Option.bind_some, Option.bind_some]
      dsimp only
      rw [Vmess.outboundOf_setName]
    · rw [nameOf, if_pos front, back, Option.bind_some]
      dsimp only
      rw [Python.getItem?_setItem_self]
      rfl

/-- An accepted `vmess` link holds an object. -/
theorem contents_of_accepted (vmess : startsWith "vmess://" uri = true)
    (accepted : (parseUri platform location builtins uri).isSome = true) :
    ∃ members, (contents uri : Option (Value floats)) = some (.dict members) := by
  rw [parseUri, if_pos vmess, Option.isSome_map, parseVmess] at accepted
  obtain ⟨outbound, parsed⟩ := Option.isSome_iff_exists.mp accepted
  obtain ⟨d, read, parsed⟩ := Option.bind_eq_some_iff.mp parsed
  cases d with
  | dict members => exact ⟨members, read⟩
  | _ => cases parsed

theorem isSome_renameUri_iff (accepted : (parseUri platform location builtins uri).isSome = true) :
    (renameUri floats uri name).isSome = true ↔ Renamable floats uri := by
  by_cases vmess : startsWith "vmess://" uri = true
  · obtain ⟨members, read⟩ := contents_of_accepted vmess accepted
    rw [renameUri, if_pos vmess, read, Option.bind_some]
    dsimp only
    rw [Option.isSome_map, isSome_dumps_setName_iff, Renamable]
    constructor
    · intro whole _vmess d same
      rw [read] at same
      cases same
      exact whole
    · exact fun whole => whole vmess members read
  · rw [renameUri, if_neg vmess]
    exact ⟨fun _ yes => absurd yes vmess, fun _ => rfl⟩

end Vmess

section Publish

variable {platform : Platform} {location : List Char → Option Location} {floats : Floats}
  {builtins : Builtins floats}

private theorem isSome_mapM_iff {α β : Type} (f : α → Option β) (items : List α) :
    (items.mapM f).isSome = true ↔ ∀ item ∈ items, (f item).isSome = true := by
  induction items with
  | nil => exact ⟨fun _ _ there => absurd there List.not_mem_nil, fun _ => rfl⟩
  | cons first rest ih =>
      rw [List.mapM_cons, List.forall_mem_cons, ← ih]
      cases f first with
      | none => simp
      | some value => cases rest.mapM f <;> simp

/-- Renaming an accepted link keeps what it is parsed to and gives it the name, exactly when no
string of a `vmess` object is left with a surrogate that is alone; and so for all accepted links of
a list. -/
theorem renameUri_iff (platform : Platform) (location : List Char → Option Location)
    {floats : Floats} (builtins : Builtins floats) :
    (∀ uri outbound, parseUri platform location builtins uri = some outbound → ∀ name,
      ((∃ renamed, renameUri floats uri name = some renamed ∧
        parseUri platform location builtins renamed = some outbound ∧
        nameOf floats renamed = some (Python.str name)) ↔ Renamable floats uri)) ∧
    ∀ nodes : List (List Char × List Char),
      (∀ node ∈ nodes, (parseUri platform location builtins node.1).isSome = true) →
      ((nodes.mapM fun node => renameUri floats node.1 node.2).isSome = true ↔
        ∀ node ∈ nodes, Renamable floats node.1) := by
  constructor
  · intro uri outbound parsed name
    have accepted : (parseUri platform location builtins uri).isSome = true := by
      rw [parsed]
      rfl
    rw [← parsed, ← isSome_renameUri_iff accepted]
    by_cases vmess : startsWith "vmess://" uri = true
    · obtain ⟨members, read⟩ := contents_of_accepted vmess accepted
      exact renameUri_vmess vmess read
    · have renamed := renameUri_url platform location builtins (Bool.not_eq_true _ ▸ vmess) name
      constructor
      · rintro ⟨renamed, given, -⟩
        rw [given]
        rfl
      · exact fun _ => renamed
  · intro nodes accepted
    rw [isSome_mapM_iff]
    exact forall₂_congr fun node there => isSome_renameUri_iff (accepted node there)

/-- The floats of a text that has only one of them. -/
def oneHalf : Floats where
  Finite := Unit
  read text := if text = "0.5".toList then some () else none
  repr _ := "0.5".toList
  isFloat_repr _ := ⟨false, ['0'], ['.', '5'], [], by decide, Or.inl rfl,
    Or.inr ⟨['5'], rfl, List.cons_ne_nil _ _, by simp⟩, Or.inl rfl, List.cons_ne_nil _ _⟩
  read_repr _ := rfl

/-- Enough for objects of plain texts and numbers. -/
def plainBuiltins : Builtins oneHalf where
  lower := List.map fun c => match c with | .char c => .char c.toLower | other => other
  isDigit text := text != [] && text.all fun c => c.char?.any Char.isDigit
  int value := match value with | .int value => some value | .float _ => some 0 | _ => none
  str _ := []
  nonzero _ := true

def plainPlatform : Platform where
  split _ := none
  lower := id
  lower_small _ _ := rfl
  eq_nil_of_lower _ := id
  json _ := none
  strip := id
  b64decode _ := none
  int _ := none
  isDigit _ := false
  str _ := []
  nonzero _ := true
  trim := id
  base64Decode _ := none
  tryParse _ := none
  interpolated _ := []
  portList _ := none

/-- A user, a host and a port without brackets. -/
def plainLocation (netloc : List Char) : Option Location :=
  let (userInfo, endpoint) := (Text.rsplitOnce '@' netloc).getD ([], netloc)
  let (host, port) := (Text.splitAround [':'] endpoint).getD (endpoint, [])
  some ⟨userInfo, host.map Char.toLower, (Text.parseU16 port).map UInt16.toNat⟩

def anytlsLink : List Char := "anytls://pw@a.com:443#old".toList

def halfObject : List Char := "\x7b\"add\":\"h\",\"port\":443,\"id\":\"u\",\"aid\":0.5\x7d".toList

/-- An object that is accepted, in a link. -/
theorem isSome_parseUri_linkOf {text : List Char}
    (accepted : (match (Python.loads text : Option (Value floats)) with
      | some (.dict d) => (Vmess.outboundOf builtins d).isSome
      | _ => false) = true) :
    (parseUri platform location builtins (linkOf text)).isSome = true := by
  rw [parseUri, if_pos (startsWith_linkOf text), Option.isSome_map, parseVmess, contents_linkOf]
  split at accepted
  · rename_i d read
    rw [read]
    exact accepted
  · cases accepted

theorem renameUri_iff_half :
    (∃ outbound,
      parseUri plainPlatform plainLocation plainBuiltins (linkOf halfObject) = some outbound ∧
      ((∃ renamed, renameUri oneHalf (linkOf halfObject) "new".toList = some renamed ∧
        parseUri plainPlatform plainLocation plainBuiltins renamed = some outbound ∧
        nameOf oneHalf renamed = some (Python.str "new".toList)) ↔
        Renamable oneHalf (linkOf halfObject))) ∧
    (([(linkOf halfObject, "new".toList), (anytlsLink, "other".toList)].mapM fun node =>
        renameUri oneHalf node.1 node.2).isSome = true ↔
      ∀ node ∈ [(linkOf halfObject, "new".toList), (anytlsLink, "other".toList)],
        Renamable oneHalf node.1) := by
  have half : (parseUri plainPlatform plainLocation plainBuiltins (linkOf halfObject)).isSome =
      true := isSome_parseUri_linkOf (by decide +kernel)
  have anytls : (parseUri plainPlatform plainLocation plainBuiltins anytlsLink).isSome = true := by
    decide +kernel
  have renames := renameUri_iff plainPlatform plainLocation plainBuiltins
  constructor
  · obtain ⟨outbound, parsed⟩ := Option.isSome_iff_exists.mp half
    exact ⟨outbound, parsed, renames.1 (linkOf halfObject) outbound parsed "new".toList⟩
  · apply renames.2
    intro node there
    simp only [List.mem_cons, List.not_mem_nil, or_false] at there
    rcases there with rfl | rfl
    · exact half
    · exact anytls

def loneObject : List Char :=
  "\x7b\"add\":\"h\",\"port\":443,\"id\":\"u\",\"v\":\"\\ud800\"\x7d".toList

/-- The surrogate alone is accepted and cannot be written, and nothing of the list is. -/
theorem not_renameUri_lone :
    (parseUri plainPlatform plainLocation plainBuiltins (linkOf loneObject)).isSome = true ∧
    renameUri oneHalf (linkOf loneObject) "new".toList = none ∧
    ([(anytlsLink, "other".toList), (linkOf loneObject, "new".toList)].mapM fun node =>
      renameUri oneHalf node.1 node.2) = none := by
  have refused : renameUri oneHalf (linkOf loneObject) "new".toList = none := by
    rw [renameUri, if_pos (startsWith_linkOf _), contents_linkOf]
    decide +kernel
  refine ⟨isSome_parseUri_linkOf (by decide +kernel), refused, ?_⟩
  rw [List.mapM_cons, List.mapM_cons, refused]
  cases renameUri oneHalf anytlsLink "other".toList <;> rfl

end Publish

end MolidoVpn.Links.Rename
