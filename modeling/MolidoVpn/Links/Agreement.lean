import MolidoVpn.Links.Parsers
import MolidoVpn.Links.SingboxOutbound

/-!
When `parse_uri` and `parseOutbound`, which is a port of it, make the same of a share link.
-/

namespace MolidoVpn.Links

open Json (obj str)
open UrlEncoded (Settled settled_iff allPairs givenPairs items lenient lenient_of_strict strict
  values values_givenPairs)

variable {platform : Platform}

section Parameters

variable {query : List (List Char × Option (List Char))} {pairs : List (List Char × List Char)}

theorem given_of_decodes (decodes : allPairs query = some pairs) {key : String} (named : key ≠ "")
    (default : List Char) :
    Parsers.given (givenPairs query) key default =
      (((values pairs key.toList).filter fun value => value != []).head?).getD default := by
  have key_ : key.toList ≠ [] := fun empty => named (String.toList_eq_nil_iff.mp empty)
  rw [Parsers.given, Parsers.given?, values_givenPairs key_ decodes]

theorem given_eq_parameter_iff (decodes : allPairs query = some pairs) {key : String}
    (named : key ≠ "") (default : List Char) :
    Parsers.given (givenPairs query) key default = SingboxOutbound.parameter pairs key default ↔
      Settled (values pairs key.toList) default := by
  rw [given_of_decodes decodes named]
  exact settled_iff _ default

/-- No value that is given is blank, so `or` takes what is given. -/
theorem givenOr_eq_given (decodes : allPairs query = some pairs) {key : String} (named : key ≠ "")
    (default : List Char) :
    Parsers.givenOr (givenPairs query) key default =
      Parsers.given (givenPairs query) key default := by
  rw [Parsers.givenOr, given_of_decodes decodes named, given_of_decodes decodes named]
  cases first : ((values pairs key.toList).filter fun value => value != []).head? with
  | none => rfl
  | some value =>
      have solid := List.of_mem_filter (List.mem_of_head? first)
      rw [Option.getD_some, Option.getD_some, if_neg]
      exact fun blank => absurd (beq_iff_eq.mp blank) (bne_iff_ne.mp solid)

end Parameters

section Urls

structure Served (platform : Platform) (link : List Char) (url : Url) (port : Nat) : Prop where
  splits : platform.split link = some url
  listens : url.port = some port
  valid : validEndpoint url.host (some (port : Int)) = true

/-- What the parsers know of a link that has a host and a port. -/
def commonOf (url : Url) (port : Nat) : Parsers.Common :=
  ⟨url.scheme, url.host, port, lenient url.userInfo, givenPairs (items url.query)⟩

variable {link : List Char} {url : Url} {port : Nat}

theorem commonUrl_of_served (served : Served platform link url port) :
    Parsers.commonUrl platform link = some (commonOf url port) := by
  rw [Parsers.commonUrl, served.splits, Option.bind_some, served.listens, Option.bind_some,
    if_pos served.valid]
  rfl

theorem endpoint_of_served (served : Served platform link url port) (needUser : Bool) :
    SingboxOutbound.endpoint platform link needUser =
      (strict url.userInfo).bind fun user =>
        if needUser && user == [] then none else some ⟨url, port, user⟩ := by
  rw [SingboxOutbound.endpoint, served.splits, Option.bind_some, served.listens]
  simp only [Option.bind_some, served.valid, Bool.not_true, Bool.false_or]

theorem refused_of_not_served (unserved : ∀ url port, ¬Served platform link url port)
    (needUser : Bool) :
    Parsers.commonUrl platform link = none ∧
      SingboxOutbound.endpoint platform link needUser = none := by
  rw [Parsers.commonUrl, SingboxOutbound.endpoint]
  cases splits : platform.split link with
  | none => exact ⟨rfl, rfl⟩
  | some url =>
      rw [Option.bind_some, Option.bind_some]
      cases there : url.port with
      | none => simp only [Option.bind_none, Option.bind_fun_none, and_self]
      | some port =>
          have invalid : validEndpoint url.host (some (port : Int)) = false :=
            Bool.eq_false_iff.mpr fun valid => unserved url port ⟨splits, there, valid⟩
          simp only [Option.bind_some, invalid, Bool.false_eq_true, if_false, Bool.not_false,
            Bool.true_or, if_true, Option.bind_fun_none, and_self]

variable {accepts : List Char → Prop} {python : Parsers.Common → Option Json}
  {dart : SingboxOutbound.Endpoint → List (List Char × List Char) → Option Json} {needUser : Bool}

/-- What is not UTF-8 is refused by one of the two only, so its escapes must be read by both. -/
def Decoded (accepts : List Char → Prop)
    (alike : Url → Nat → List Char → List (List Char × List Char) → Prop)
    (platform : Platform) (link : List Char) : Prop :=
  ∀ url port, Served platform link url port → accepts (lenient url.userInfo) →
    ∃ user pairs, strict url.userInfo = some user ∧ allPairs (items url.query) = some pairs ∧
      alike url port user pairs

theorem bind_eq_of_decoded (needed : needUser = true → ¬accepts [])
    (pythonRefuses : ∀ p, ¬accepts p.user → python p = none)
    (dartRefuses : ∀ e pairs, (needUser && e.user == []) = false → ¬accepts e.user →
      dart e pairs = none)
    (decoded : Decoded accepts (fun url port user pairs =>
      python (commonOf url port) = dart ⟨url, port, user⟩ pairs) platform link) :
    (Parsers.commonUrl platform link).bind python =
      (SingboxOutbound.endpoint platform link needUser).bind fun e =>
        (SingboxOutbound.queryParameters e.url).bind (dart e) := by
  by_cases served : ∃ url port, Served platform link url port
  · obtain ⟨url, port, served⟩ := served
    rw [commonUrl_of_served served, endpoint_of_served served, Option.bind_some]
    by_cases accepted : accepts (lenient url.userInfo)
    · obtain ⟨user, pairs, userReads, queryReads, alike⟩ := decoded url port served accepted
      have given : (needUser && user == []) = false := by
        rw [Bool.and_eq_false_imp]
        intro need
        rw [lenient_of_strict userReads] at accepted
        exact beq_eq_false_iff_ne.mpr fun empty => needed need (empty ▸ accepted)
      rw [userReads, Option.bind_some, given, if_neg Bool.false_ne_true, Option.bind_some,
        SingboxOutbound.queryParameters, queryReads, Option.bind_some, alike]
    · rw [pythonRefuses (commonOf url port) accepted]
      cases userReads : strict url.userInfo with
      | none => rfl
      | some user =>
          rw [lenient_of_strict userReads] at accepted
          rw [Option.bind_some]
          split
          · rfl
          · rename_i given
            simp only [Option.bind_some,
              dartRefuses ⟨url, port, user⟩ _ (Bool.eq_false_iff.mpr given) accepted,
              Option.bind_fun_none]
  · have unserved url port : ¬Served platform link url port := fun is => served ⟨url, port, is⟩
    rw [(refused_of_not_served unserved needUser).1, (refused_of_not_served unserved needUser).2]
    rfl

/-- Where one accepts a link for its user alone, both must read its escapes. -/
theorem decoded_of_bind_eq (accepted : ∀ p, accepts p.user → python p ≠ none)
    (same : (Parsers.commonUrl platform link).bind python =
      (SingboxOutbound.endpoint platform link needUser).bind fun e =>
        (SingboxOutbound.queryParameters e.url).bind (dart e)) :
    Decoded accepts (fun url port user pairs =>
      python (commonOf url port) = dart ⟨url, port, user⟩ pairs) platform link := by
  intro url port served accepts_
  rw [commonUrl_of_served served, endpoint_of_served served, Option.bind_some] at same
  have takes := accepted (commonOf url port) accepts_
  cases userReads : strict url.userInfo with
  | none =>
      rw [userReads] at same
      exact absurd same takes
  | some user =>
      rw [userReads, Option.bind_some] at same
      split at same
      · exact absurd same takes
      · rw [Option.bind_some, SingboxOutbound.queryParameters] at same
        cases queryReads : allPairs (items url.query) with
        | none =>
            rw [queryReads] at same
            exact absurd same takes
        | some pairs =>
            rw [queryReads] at same
            exact ⟨user, pairs, rfl, rfl, same⟩

end Urls

section Sections

theorem truthy_string (text : List Char) :
    Parsers.truthy platform (.string text) = !(text == []) := rfl

theorem orElse_string (first second : List Char) :
    Parsers.orElse platform (.string first) (.string second) =
      .string (if first == [] then second else first) := by
  rw [Parsers.orElse, truthy_string]
  cases first <;> rfl

theorem alpnMembers_string (alpn : List Char) :
    Parsers.alpnMembers platform (.string alpn) =
      some (if alpn == [] then [] else [("alpn", commaSeparatedGiven alpn)]) := by
  rw [Parsers.alpnMembers, truthy_string]
  cases alpn <;> rfl

theorem utlsMembers_string (security fp : List Char) :
    Parsers.utlsMembers platform security (.string fp) =
      some (if fp != [] || security == "reality".toList then
        [("utls", obj [("enabled", .bool true),
          ("fingerprint", if utlsFingerprints.contains fp then .string fp else str "chrome")])]
      else []) := by
  rw [Parsers.utlsMembers, truthy_string, ← bne]
  split <;> rfl

/-- On texts the two TLS sections are the same. -/
theorem tls_string (security sni host alpn fp : List Char) (insecure : Bool)
    (pbk sid : List Char) :
    Parsers.tls platform security (.string sni) (.string host) (.string alpn) (.string fp) insecure
      pbk sid = SingboxOutbound.tls security sni host alpn fp insecure pbk sid := by
  rw [Parsers.tls, SingboxOutbound.tls, alpnMembers_string, utlsMembers_string, orElse_string]
  split
  · rfl
  · rw [Option.bind_some, Option.bind_some, Parsers.realityMembers]
    cases security == "reality".toList
    · rfl
    · cases pbk <;> rfl

/-- The number behind `?ed=` is read alike. -/
def EarlyAlike (platform : Platform) (path : List Char) : Prop :=
  ∀ before ed, Text.splitAround "?ed=".toList path = some (before, ed) →
    if platform.isDigit ed then
      platform.int (.string ed) = platform.tryParse ed ∧ platform.tryParse ed ≠ none
    else platform.tryParse ed = none

theorem wsPath_string {path : List Char} (alike : EarlyAlike platform path) :
    Parsers.wsPath platform (.string path) = some (SingboxOutbound.wsPath platform path) := by
  rw [Parsers.wsPath, SingboxOutbound.wsPath]
  cases around : Text.splitAround "?ed=".toList path with
  | none => rfl
  | some parts =>
      obtain ⟨before, ed⟩ := parts
      have reads := alike before ed around
      dsimp only
      rw [Parsers.early]
      split at reads
      · rename_i digits
        rw [if_pos digits, reads.1]
        cases parsed : platform.tryParse ed with
        | none => exact absurd parsed reads.2
        | some early => rfl
      · rename_i digits
        rw [if_neg digits, reads]
        rfl

theorem earlyAlike_slashed {path : List Char} (alike : EarlyAlike platform path) :
    EarlyAlike platform (if path == [] then "/".toList else path) := by
  split
  · intro before ed around
    cases around
  · exact alike

/-- The name of a transport as the two go by it. -/
def transportName (platform : Platform) (net : List Char) : List Char :=
  if net == [] then "tcp".toList else platform.lower net

theorem transportName_eq_lower (net : List Char) :
    platform.lower (if net == [] then "tcp".toList else net) = transportName platform net := by
  rw [transportName]
  split
  · exact platform.lower_small "tcp".toList (by decide)
  · rfl

theorem transportName_ne_nil (net : List Char) : (transportName platform net == []) = false := by
  rw [beq_eq_false_iff_ne, transportName]
  split
  · decide
  · rename_i given
    exact fun empty => given (beq_iff_eq.mpr (platform.eq_nil_of_lower net empty))

/-- On texts the two transports are the same, up to early data. -/
theorem transport_string {net path host serviceName : List Char}
    (alike : transportName platform net = "ws".toList → EarlyAlike platform path) :
    Parsers.transport platform (.string net) (.string path) (.string host) (.string serviceName) =
      SingboxOutbound.transport platform net path host serviceName := by
  rw [Parsers.transport, SingboxOutbound.transport, str, str, orElse_string, orElse_string,
    orElse_string, Parsers.texts, Option.bind_some, truthy_string, transportName_eq_lower]
  have named : (if net == [] then "tcp".toList else platform.lower net) =
      transportName platform net := rfl
  dsimp only
  rw [named, transportName_ne_nil, Bool.or_false]
  by_cases plain : (transportName platform net == "tcp".toList ||
      transportName platform net == "raw".toList) = true
  · rw [if_pos plain, if_pos plain]
  · rw [if_neg plain, if_neg plain]
    by_cases ws : (transportName platform net == "ws".toList) = true
    · rw [if_pos ws, if_pos ws,
        wsPath_string (earlyAlike_slashed (alike (beq_iff_eq.mp ws)))]
      cases host <;> rfl
    · rw [if_neg ws, if_neg ws]
      by_cases grpc : (transportName platform net == "grpc".toList) = true
      · rw [if_pos grpc, if_pos grpc]
      · rw [if_neg grpc, if_neg grpc]
        cases host <;> rfl

end Sections

section Shown

variable {url : Url} {port : Nat} {user : List Char} {pairs : List (List Char × List Char)}
  {accepts : List Char → Prop} {link : List Char}

theorem Decoded.mono {alike also : Url → Nat → List Char → List (List Char × List Char) → Prop}
    (decoded : Decoded accepts alike platform link)
    (implied : ∀ url port user pairs, strict url.userInfo = some user →
      allPairs (items url.query) = some pairs → accepts user →
        alike url port user pairs → also url port user pairs) :
    Decoded accepts also platform link := by
  intro url port served accepted
  obtain ⟨user, pairs, userReads, queryReads, is⟩ := decoded url port served accepted
  rw [lenient_of_strict userReads] at accepted
  exact ⟨user, pairs, userReads, queryReads,
    implied url port user pairs userReads queryReads accepted is⟩

variable {python : Parsers.Common → Option Json}
  {dart : SingboxOutbound.Endpoint → List (List Char × List Char) → Option Json} {needUser : Bool}
  {alike : Url → Nat → List Char → List (List Char × List Char) → Prop}

theorem bind_eq_iff_decoded (needed : needUser = true → ¬accepts [])
    (pythonRefuses : ∀ p, ¬accepts p.user → python p = none)
    (dartRefuses : ∀ e pairs, (needUser && e.user == []) = false → ¬accepts e.user →
      dart e pairs = none)
    (accepted : ∀ p, accepts p.user → python p ≠ none)
    (shown : ∀ url port user pairs, strict url.userInfo = some user →
      allPairs (items url.query) = some pairs → accepts user →
        (python (commonOf url port) = dart ⟨url, port, user⟩ pairs ↔ alike url port user pairs)) :
    (Parsers.commonUrl platform link).bind python =
        ((SingboxOutbound.endpoint platform link needUser).bind fun e =>
          (SingboxOutbound.queryParameters e.url).bind (dart e)) ↔
      Decoded accepts alike platform link := by
  constructor
  · intro same
    refine (decoded_of_bind_eq accepted same).mono ?_
    exact fun url port user pairs userReads queryReads accepted_ =>
      (shown url port user pairs userReads queryReads accepted_).mp
  · intro decoded
    refine bind_eq_of_decoded needed pythonRefuses dartRefuses (decoded.mono ?_)
    exact fun url port user pairs userReads queryReads accepted_ =>
      (shown url port user pairs userReads queryReads accepted_).mpr

/-- One of the switches is on by its first value exactly if one is by its last. -/
def Switched (pairs : List (List Char × List Char)) (keys : List String) : Prop :=
  (keys.any fun key =>
      isTrue ((((values pairs key.toList).filter fun value => value != []).head?).getD [])) =
    keys.any fun key => isTrue ((values pairs key.toList).getLast?.getD [])

def AnytlsAlike (url : Url) (_ : Nat) (_ : List Char) (pairs : List (List Char × List Char)) :
    Prop :=
  Settled (values pairs "sni".toList) url.host ∧ Switched pairs ["insecure", "allowInsecure"]

theorem obj_inj {first second : List (String × Json)} :
    obj first = obj second ↔ first = second := by
  rw [obj, obj, Json.object.injEq]
  constructor
  · intro same
    refine List.map_injective_iff.mpr ?_ same
    intro one other equal
    rw [Prod.mk.injEq] at equal
    exact Prod.ext (String.toList_inj.mp equal.1) equal.2
  · rintro rfl
    rfl

theorem switched_iff (decodes : allPairs (items url.query) = some pairs) {first second : String}
    (named : first ≠ "") (also : second ≠ "") :
    (isTrue (Parsers.given (givenPairs (items url.query)) first []) ||
        isTrue (Parsers.given (givenPairs (items url.query)) second [])) =
      (isTrue (SingboxOutbound.parameter pairs first []) ||
        isTrue (SingboxOutbound.parameter pairs second [])) ↔
    Switched pairs [first, second] := by
  rw [given_of_decodes decodes named, given_of_decodes decodes also, Switched]
  simp only [List.any_cons, List.any_nil, Bool.or_false]
  exact Iff.rfl

theorem anytlsOf_eq_iff (userReads : strict url.userInfo = some user)
    (queryReads : allPairs (items url.query) = some pairs) (accepted : user ≠ []) :
    Parsers.anytlsOf (commonOf url port) = SingboxOutbound.anytlsOf ⟨url, port, user⟩ pairs ↔
      AnytlsAlike url port user pairs := by
  have given : (user == []) = false := beq_eq_false_iff_ne.mpr accepted
  have sni := given_eq_parameter_iff queryReads (by decide : "sni" ≠ "") url.host
  have insecure := switched_iff queryReads (by decide : "insecure" ≠ "")
    (by decide : "allowInsecure" ≠ "")
  simp only [Parsers.anytlsOf, SingboxOutbound.anytlsOf, commonOf, lenient_of_strict userReads,
    given, Bool.false_eq_true, if_false, givenOr_eq_given queryReads (by decide : "sni" ≠ ""),
    Option.some.injEq, obj_inj, List.cons.injEq, Prod.mk.injEq, Json.string.injEq, Json.bool.injEq,
    true_and, and_true, sni, insecure, AnytlsAlike]

theorem anytls_alike_iff :
    Parsers.parseAnytls platform link = SingboxOutbound.anytls platform link ↔
      Decoded (· ≠ []) AnytlsAlike platform link := by
  refine bind_eq_iff_decoded (fun _ given => given rfl) ?_ ?_ ?_ ?_
  · intro p refused
    rw [Parsers.anytlsOf, not_not.mp refused]
    rfl
  · intro e pairs given refused
    rw [not_not.mp refused] at given
    cases given
  · intro p accepted
    rw [Parsers.anytlsOf, if_neg (fun empty => accepted (beq_iff_eq.mp empty))]
    exact Option.some_ne_none _
  · intro url port user pairs
    exact anytlsOf_eq_iff

def TuicAlike (url : Url) (_ : Nat) (_ : List Char) (pairs : List (List Char × List Char)) :
    Prop :=
  Settled (values pairs "congestion_control".toList) "bbr".toList ∧
    Settled (values pairs "udp_relay_mode".toList) "native".toList ∧
    Settled (values pairs "sni".toList) url.host ∧
    Switched pairs ["allow_insecure", "insecure"] ∧
    commaSeparatedGiven
        ((((values pairs "alpn".toList).filter fun value => value != []).head?).getD
          "h3".toList) =
      commaSeparatedGiven ((values pairs "alpn".toList).getLast?.getD "h3".toList)

def HasPassword (user : List Char) : Prop :=
  ∃ uuid password, uuid ≠ [] ∧ password ≠ [] ∧
    Text.splitAround [':'] user = some (uuid, password)

theorem tuicOf_eq_iff (userReads : strict url.userInfo = some user)
    (queryReads : allPairs (items url.query) = some pairs) (accepted : HasPassword user) :
    Parsers.tuicOf (commonOf url port) = SingboxOutbound.tuicOf ⟨url, port, user⟩ pairs ↔
      TuicAlike url port user pairs := by
  obtain ⟨uuid, password, named, secret, around⟩ := accepted
  have given : (uuid == [] || password == []) = false := by
    rw [beq_eq_false_iff_ne.mpr named, beq_eq_false_iff_ne.mpr secret]
    rfl
  have congestion := given_eq_parameter_iff queryReads (by decide : "congestion_control" ≠ "")
    "bbr".toList
  have relay := given_eq_parameter_iff queryReads (by decide : "udp_relay_mode" ≠ "")
    "native".toList
  have sni := given_eq_parameter_iff queryReads (by decide : "sni" ≠ "") url.host
  have insecure := switched_iff queryReads (by decide : "allow_insecure" ≠ "")
    (by decide : "insecure" ≠ "")
  have alpn := given_of_decodes queryReads (by decide : "alpn" ≠ "") "h3".toList
  have alpn_ : SingboxOutbound.parameter pairs "alpn" "h3".toList =
    (values pairs "alpn".toList).getLast?.getD "h3".toList := rfl
  simp only [Parsers.tuicOf, SingboxOutbound.tuicOf, commonOf, lenient_of_strict userReads,
    aroundColon, around, Option.getD_some, given, Bool.false_eq_true, if_false,
    givenOr_eq_given queryReads (by decide : "sni" ≠ ""),
    givenOr_eq_given queryReads (by decide : "alpn" ≠ ""), alpn, alpn_,
    Option.some.injEq, obj_inj, List.cons.injEq, Prod.mk.injEq, Json.string.injEq, Json.bool.injEq,
    true_and, and_true, congestion, relay, sni, insecure, TuicAlike]

theorem tuic_alike_iff :
    Parsers.parseTuic platform link = SingboxOutbound.tuic platform link ↔
      Decoded HasPassword TuicAlike platform link := by
  refine bind_eq_iff_decoded nofun ?_ ?_ ?_ ?_
  · intro p refused
    rw [Parsers.tuicOf, aroundColon]
    cases around : Text.splitAround [':'] p.user with
    | none => exact if_pos (Bool.or_true _)
    | some parts =>
        refine if_pos ?_
        by_contra given
        rw [Bool.or_eq_true, not_or, beq_iff_eq, beq_iff_eq] at given
        exact refused ⟨parts.1, parts.2, given.1, given.2, around⟩
  · intro e pairs _ refused
    rw [SingboxOutbound.tuicOf]
    cases around : Text.splitAround [':'] e.user with
    | none => rfl
    | some parts =>
        refine if_pos ?_
        by_contra given
        rw [Bool.or_eq_true, not_or, beq_iff_eq, beq_iff_eq] at given
        exact refused ⟨parts.1, parts.2, given.1, given.2, around⟩
  · rintro p ⟨uuid, password, named, secret, around⟩
    rw [Parsers.tuicOf, aroundColon, around]
    refine ne_of_eq_of_ne (if_neg ?_) (Option.some_ne_none _)
    rw [Bool.or_eq_true, not_or, beq_iff_eq, beq_iff_eq]
    exact ⟨named, secret⟩
  · intro url port user pairs
    exact tuicOf_eq_iff

def Hysteria2Alike (platform : Platform) (url : Url) (_ : Nat) (_ : List Char)
    (pairs : List (List Char × List Char)) : Prop :=
  ["mport", "server_ports"].foldl (SingboxOutbound.hopRanges platform pairs) [] = [] ∧
    Settled (values pairs "sni".toList) url.host ∧ Switched pairs ["insecure"] ∧
    (Parsers.given (givenPairs (items url.query)) "obfs" [] = "salamander".toList ↔
      SingboxOutbound.parameter pairs "obfs" [] = "salamander".toList) ∧
    (SingboxOutbound.parameter pairs "obfs" [] = "salamander".toList →
      Settled (values pairs "obfs-password".toList) [])

theorem hysteria2Of_eq_iff (userReads : strict url.userInfo = some user)
    (queryReads : allPairs (items url.query) = some pairs) (accepted : user ≠ []) :
    Parsers.hysteria2Of (commonOf url port) =
        SingboxOutbound.hysteria2Of platform [] ⟨url, port, user⟩ pairs ↔
      Hysteria2Alike platform url port user pairs := by
  have given : (user == []) = false := beq_eq_false_iff_ne.mpr accepted
  have sni := given_eq_parameter_iff queryReads (by decide : "sni" ≠ "") url.host
  have secret := given_eq_parameter_iff queryReads (by decide : "obfs-password" ≠ "") []
  have insecure : isTrue (Parsers.given (givenPairs (items url.query)) "insecure" []) =
      isTrue (SingboxOutbound.parameter pairs "insecure" []) ↔ Switched pairs ["insecure"] := by
    rw [given_of_decodes queryReads (by decide : "insecure" ≠ ""), Switched]
    simp only [List.any_cons, List.any_nil, Bool.or_false]
    exact Iff.rfl
  simp only [Parsers.hysteria2Of, SingboxOutbound.hysteria2Of, commonOf, Hysteria2Alike,
    lenient_of_strict userReads, given, Bool.false_eq_true, if_false, beq_iff_eq,
    givenOr_eq_given queryReads (by decide : "sni" ≠ ""), Option.some.injEq, obj_inj]
  generalize ["mport", "server_ports"].foldl (SingboxOutbound.hopRanges platform pairs) [] = ranges
  cases ranges with
  | nil =>
      have none_ : SingboxOutbound.withOwnPort port [] = [] := rfl
      simp only [none_, if_true, List.cons_append, List.nil_append, List.cons.injEq,
        Prod.mk.injEq, Json.string.injEq, obj_inj, Json.bool.injEq, true_and, and_true, sni,
        insecure]
      rw [and_assoc]
      refine and_congr_right' (and_congr_right' ?_)
      by_cases python_ :
          Parsers.given (givenPairs (items url.query)) "obfs" [] = "salamander".toList
      · by_cases dart_ : SingboxOutbound.parameter pairs "obfs" [] = "salamander".toList
        · rw [if_pos python_, if_pos dart_, ← secret]
          simp only [List.cons.injEq, Prod.mk.injEq, obj_inj, Json.string.injEq, true_and, and_true,
            python_, dart_, forall_const]
        · rw [if_pos python_, if_neg dart_]
          exact iff_of_false (List.cons_ne_nil _ _) fun alike => dart_ (alike.1.mp python_)
      · by_cases dart_ : SingboxOutbound.parameter pairs "obfs" [] = "salamander".toList
        · rw [if_neg python_, if_pos dart_]
          exact iff_of_false (List.cons_ne_nil _ _).symm fun alike => python_ (alike.1.mpr dart_)
        · rw [if_neg python_, if_neg dart_]
          exact iff_of_true rfl ⟨iff_of_false python_ dart_, fun is => absurd is dart_⟩
  | cons first rest =>
      refine iff_of_false ?_ fun alike => List.cons_ne_nil _ _ alike.1
      have several : SingboxOutbound.withOwnPort port (first :: rest) ≠ [] := by
        rw [SingboxOutbound.withOwnPort]
        split <;> exact List.cons_ne_nil _ _
      rw [if_neg several]
      intro same
      have third := congrArg (fun members => members[2]?.map Prod.fst) same
      exact absurd (Option.some.inj third) (by decide : "server_port" ≠ "server_ports")

def SinglePort (platform : Platform) (link : List Char) : Prop :=
  SingboxOutbound.withoutPorts platform link = some (link, [])

theorem hysteria2_alike_iff
    (single : SinglePort platform (replaceFirst "hy2://" "hysteria2://" link)) :
    Parsers.parseHysteria2 platform link = SingboxOutbound.hysteria2 platform link ↔
      Decoded (· ≠ []) (Hysteria2Alike platform) platform
        (replaceFirst "hy2://" "hysteria2://" link) := by
  rw [Parsers.parseHysteria2, SingboxOutbound.hysteria2, single, Option.bind_some]
  refine bind_eq_iff_decoded (fun _ given => given rfl) ?_ ?_ ?_ ?_
  · intro p refused
    rw [Parsers.hysteria2Of, not_not.mp refused]
    rfl
  · intro e pairs given refused
    rw [not_not.mp refused] at given
    cases given
  · intro p accepted
    rw [Parsers.hysteria2Of, if_neg (fun empty => accepted (beq_iff_eq.mp empty))]
    exact Option.some_ne_none _
  · intro url port user pairs
    exact hysteria2Of_eq_iff

end Shown

section Unshown

variable {url : Url} {port : Nat} {user : List Char} {pairs : List (List Char × List Char)}
  {link : List Char}

/-- The kind of TLS that is asked for, if there is one. -/
def secured (security : List Char) : Option (List Char) :=
  if security != "tls".toList && security != "reality".toList then none else some security

theorem tls_of_secured {first second : List Char} (same : secured first = secured second)
    (sni host alpn fp : List Char) (insecure : Bool) (pbk sid : List Char) :
    SingboxOutbound.tls first sni host alpn fp insecure pbk sid =
      SingboxOutbound.tls second sni host alpn fp insecure pbk sid := by
  unfold secured at same
  split at same
  · rename_i one
    split at same
    · rename_i other
      rw [SingboxOutbound.tls, SingboxOutbound.tls, if_pos one, if_pos other]
    · cases same
  · split at same
    · cases same
    · rw [Option.some.inj same]

theorem transport_of_name {first second : List Char}
    (same : transportName platform first = transportName platform second)
    (path host serviceName : List Char) :
    SingboxOutbound.transport platform first path host serviceName =
      SingboxOutbound.transport platform second path host serviceName := by
  have one : (if first == [] then "tcp".toList else platform.lower first) =
    transportName platform first := rfl
  have other : (if second == [] then "tcp".toList else platform.lower second) =
    transportName platform second := rfl
  rw [SingboxOutbound.transport, SingboxOutbound.transport, one, other, same]

/-- Every parameter is read alike, whether it shows or not. -/
def VlessTrojanAlike (platform : Platform) (url : Url) (_ : Nat) (_ : List Char)
    (pairs : List (List Char × List Char)) : Prop :=
  let security := if url.scheme == "vless".toList then "none".toList else "tls".toList
  let query := givenPairs (items url.query)
  (∀ key ∈ ["flow", "headerType", "sni", "host", "alpn", "fp", "pbk", "sid", "path",
    "serviceName"], Settled (values pairs key.toList) []) ∧
    Switched pairs ["allowInsecure", "insecure"] ∧
    secured (Parsers.given query "security" security) =
      secured (SingboxOutbound.parameter pairs "security" security) ∧
    transportName platform (Parsers.given query "type" "tcp".toList) =
      transportName platform (SingboxOutbound.parameter pairs "type" "tcp".toList) ∧
    (transportName platform (SingboxOutbound.parameter pairs "type" "tcp".toList) = "ws".toList →
      EarlyAlike platform (SingboxOutbound.parameter pairs "path" []))

theorem vlessTrojanOf_eq (userReads : strict url.userInfo = some user)
    (queryReads : allPairs (items url.query) = some pairs) (given : (user == []) = false)
    (alike : VlessTrojanAlike platform url port user pairs) :
    Parsers.vlessTrojanOf platform (commonOf url port) =
      SingboxOutbound.vlessTrojanOf platform ⟨url, port, user⟩ pairs := by
  obtain ⟨settled, switched, security, named, early⟩ := alike
  have reads (key : String) (asked : key ∈ ["flow", "headerType", "sni", "host", "alpn", "fp",
      "pbk", "sid", "path", "serviceName"]) (present : key ≠ "") :
      Parsers.given (givenPairs (items url.query)) key [] =
        SingboxOutbound.parameter pairs key [] :=
    (given_eq_parameter_iff queryReads present []).mpr (settled key asked)
  have insecure := (switched_iff queryReads (by decide : "allowInsecure" ≠ "")
    (by decide : "insecure" ≠ "")).mpr switched
  simp only [Parsers.vlessTrojanOf, SingboxOutbound.vlessTrojanOf, commonOf,
    lenient_of_strict userReads, given, Bool.false_eq_true, if_false, orElse_string, tls_string,
    reads "flow" (by decide) (by decide), reads "headerType" (by decide) (by decide),
    reads "sni" (by decide) (by decide), reads "host" (by decide) (by decide),
    reads "alpn" (by decide) (by decide), reads "fp" (by decide) (by decide),
    reads "pbk" (by decide) (by decide), reads "sid" (by decide) (by decide),
    reads "path" (by decide) (by decide), reads "serviceName" (by decide) (by decide), insecure]
  rw [transport_string (named ▸ early), transport_of_name named, tls_of_secured security]

theorem vlessTrojan_alike
    (decoded : Decoded (· ≠ []) (VlessTrojanAlike platform) platform link) :
    Parsers.parseVlessTrojan platform link = SingboxOutbound.vlessTrojan platform link := by
  refine bind_eq_of_decoded (fun _ given => given rfl) ?_ ?_ (decoded.mono ?_)
  · intro p refused
    rw [Parsers.vlessTrojanOf, not_not.mp refused]
    rfl
  · intro e pairs given refused
    rw [not_not.mp refused] at given
    cases given
  · intro url port user pairs userReads queryReads accepted
    exact vlessTrojanOf_eq userReads queryReads (beq_eq_false_iff_ne.mpr accepted)

theorem withPrefix_eq (address : List Char) :
    Parsers.withPrefix address = SingboxOutbound.withPrefix address := by
  rw [Parsers.withPrefix, SingboxOutbound.withPrefix]
  split
  · rfl
  · split <;> rfl

theorem mapM_congr {α β : Type} {first second : α → Option β} {list : List α}
    (same : ∀ x ∈ list, first x = second x) : list.mapM first = list.mapM second := by
  induction list with
  | nil => rfl
  | cons head tail ih =>
      rw [List.mapM_cons, List.mapM_cons, same head List.mem_cons_self,
        ih fun x member => same x (List.mem_cons_of_mem _ member)]

/-- Keys, addresses and numbers are read alike. -/
structure WireguardAlike (platform : Platform) (url : Url) (port : Nat) (user : List Char)
    (pairs : List (List Char × List Char)) : Prop where
  peer : Parsers.givenOr (givenPairs (items url.query)) "publickey"
      (Parsers.givenOr (givenPairs (items url.query)) "public_key"
        (Parsers.givenOr (givenPairs (items url.query)) "peer_public_key" [])) =
    SingboxOutbound.parameter pairs "publickey" (SingboxOutbound.parameter pairs "public_key"
      (SingboxOutbound.parameter pairs "peer_public_key" []))
  addresses : Parsers.givenOr (givenPairs (items url.query)) "address"
      (Parsers.givenOr (givenPairs (items url.query)) "ip" []) =
    SingboxOutbound.parameter pairs "address" (SingboxOutbound.parameter pairs "ip" [])
  trimmed : ∀ part ∈ (SingboxOutbound.parameter pairs "address"
      (SingboxOutbound.parameter pairs "ip" [])).splitOn ',',
    platform.strip part = platform.trim part
  mtu : platform.int (.string
      (Parsers.givenOr (givenPairs (items url.query)) "mtu" "1280".toList)) =
    some ((platform.tryParse (SingboxOutbound.parameter pairs "mtu" [])).getD 1280)
  psk : Settled (values pairs "presharedkey".toList) []
  reserved : Settled (values pairs "reserved".toList) []
  numbers : ∀ part ∈ (SingboxOutbound.parameter pairs "reserved" []).splitOn ',',
    platform.int (.string part) = platform.tryParse part

theorem wireguardOf_eq (userReads : strict url.userInfo = some user)
    (queryReads : allPairs (items url.query) = some pairs) (given : (user == []) = false)
    (alike : WireguardAlike platform url port user pairs) :
    Parsers.wireguardOf platform (commonOf url port) =
      SingboxOutbound.wireguardOf platform ⟨url, port, user⟩ pairs := by
  have psk := (givenOr_eq_given queryReads (by decide : "presharedkey" ≠ "") []).trans
    ((given_eq_parameter_iff queryReads (by decide : "presharedkey" ≠ "") []).mpr alike.psk)
  have reserved := (givenOr_eq_given queryReads (by decide : "reserved" ≠ "") []).trans
    ((given_eq_parameter_iff queryReads (by decide : "reserved" ≠ "") []).mpr alike.reserved)
  have trimmed := List.map_congr_left alike.trimmed
  have numbers := mapM_congr alike.numbers
  have prefixes : Parsers.withPrefix = SingboxOutbound.withPrefix := funext withPrefix_eq
  have emptied (list : List (List Char)) :
      (list.map SingboxOutbound.withPrefix == []) = (list == []) := by
    cases list <;> rfl
  simp only [Parsers.wireguardOf, SingboxOutbound.wireguardOf, commonOf,
    lenient_of_strict userReads, given, alike.peer, alike.addresses, trimmed, alike.mtu, psk,
    reserved, numbers, Bool.false_or, Option.bind_some, prefixes, emptied]

theorem wireguard_alike
    (decoded : Decoded (· ≠ []) (WireguardAlike platform) platform
      (replaceFirst "wg://" "wireguard://" link)) :
    Parsers.parseWireguard platform link = SingboxOutbound.wireguard platform link := by
  refine bind_eq_of_decoded (fun _ given => given rfl) ?_ ?_ (decoded.mono ?_)
  · intro p refused
    rw [Parsers.wireguardOf, not_not.mp refused]
    rfl
  · intro e pairs given refused
    rw [not_not.mp refused] at given
    cases given
  · intro url port user pairs userReads queryReads accepted
    exact wireguardOf_eq userReads queryReads (beq_eq_false_iff_ne.mpr accepted)

/-- No user, or one who has a name before the colon, and is decoded alike where that is needed. -/
def SocksAlike (platform : Platform) (user : List Char) : Prop :=
  user = [] ∨
    (user.contains ':' = false →
      Parsers.b64decode platform user = SingboxOutbound.decodeBase64Loose platform user) ∧
    ∀ text, (if user.contains ':' then some user
        else SingboxOutbound.decodeBase64Loose platform user) = some text →
      ∃ username password, username ≠ [] ∧
        Text.splitAround [':'] text = some (username, password)

theorem socksOf_eq (userReads : strict url.userInfo = some user)
    (alike : SocksAlike platform user) :
    Parsers.socksOf platform (commonOf url port) =
      SingboxOutbound.socksOf platform ⟨url, port, user⟩ := by
  simp only [Parsers.socksOf, SingboxOutbound.socksOf, commonOf, lenient_of_strict userReads]
  rcases alike with rfl | ⟨decodes, named⟩
  · rfl
  · cases user with
    | nil => rfl
    | cons first rest =>
        have given : ((first :: rest) == []) = false := rfl
        have source : (if (first :: rest).contains ':' then some (first :: rest)
              else Parsers.b64decode platform (first :: rest)) =
            if (first :: rest).contains ':' then some (first :: rest)
              else SingboxOutbound.decodeBase64Loose platform (first :: rest) := by
          split
          · rfl
          · rename_i bare
            exact decodes (Bool.eq_false_iff.mpr bare)
        rw [given, if_neg Bool.false_ne_true, source, Bool.false_or]
        refine Option.map_congr fun text there => ?_
        obtain ⟨username, password, solid, around⟩ := named text there
        rw [aroundColon, around, Option.getD_some]
        dsimp only
        rw [if_neg (fun empty => solid (beq_iff_eq.mp empty))]

theorem socks_alike
    (decoded : ∀ url port, Served platform (replaceFirst "socks5://" "socks://" link) url port →
      ∃ user, strict url.userInfo = some user ∧ SocksAlike platform user) :
    Parsers.parseSocks platform link = SingboxOutbound.socks platform link := by
  rw [Parsers.parseSocks, SingboxOutbound.socks]
  by_cases served : ∃ url port, Served platform (replaceFirst "socks5://" "socks://" link) url port
  · obtain ⟨url, port, served⟩ := served
    obtain ⟨user, userReads, alike⟩ := decoded url port served
    rw [commonUrl_of_served served, endpoint_of_served served, Option.bind_some, userReads]
    exact socksOf_eq userReads alike
  · have unserved := refused_of_not_served
      (fun url port is => served ⟨url, port, is⟩ : ∀ url port, ¬Served platform _ url port) false
    rw [unserved.1, unserved.2]
    rfl

/-- What stands for method and password is read alike. -/
def SsAlike (platform : Platform) (link : List Char) : Prop :=
  ∀ body, ssBody link = some body →
    match Text.rsplitOnce '@' body with
    | some (userinfo, _) =>
        SingboxOutbound.decodeComponent userinfo = some (lenient userinfo) ∧
          ((lenient userinfo).contains ':' = false → Parsers.b64decode platform (lenient userinfo) =
            SingboxOutbound.decodeBase64Loose platform (lenient userinfo))
    | none => Parsers.b64decode platform body = SingboxOutbound.decodeBase64Loose platform body

theorem ssParts_eq (alike : SsAlike platform link) {body : List Char}
    (there : ssBody link = some body) :
    Parsers.ssParts platform body = SingboxOutbound.ssParts platform body := by
  have reads := alike body there
  rw [Parsers.ssParts, SingboxOutbound.ssParts]
  cases around : Text.rsplitOnce '@' body with
  | none =>
      rw [around] at reads
      dsimp only at reads ⊢
      rw [reads]
  | some parts =>
      rw [around] at reads
      dsimp only at reads ⊢
      rw [reads.1, Option.bind_some]
      split
      · rfl
      · rename_i bare
        rw [reads.2 (Bool.eq_false_iff.mpr bare)]

theorem ss_alike (alike : SsAlike platform link) :
    Parsers.parseSs platform link = SingboxOutbound.ss platform link := by
  rw [Parsers.parseSs, SingboxOutbound.ss]
  refine Option.bind_congr fun body there => ?_
  rw [ssParts_eq alike there]
  refine Option.bind_congr fun ⟨userinfo, hostport⟩ _ => ?_
  rcases around : Text.splitAround [':'] userinfo with _ | ⟨method, password⟩
  · simp only [aroundColon, around, Option.getD_none, beq_self_eq_true, Bool.or_true, Bool.true_or,
      if_true, Option.bind_fun_none]
  · simp only [aroundColon, around, Option.getD_some]

/-- The texts that `parseOutbound` makes of the fields are what `parse_uri` has there. -/
structure FieldsAlike (platform : Platform) (d : Json) : Prop where
  add : platform.strip (Parsers.strOf platform (Parsers.get d "add" (str ""))) =
    SingboxOutbound.field platform d "add"
  port : platform.int (Parsers.get d "port" .null) =
    platform.tryParse (SingboxOutbound.field platform d "port")
  id : Parsers.get d "id" .null = .string (SingboxOutbound.field platform d "id") ∨
    Parsers.truthy platform (Parsers.get d "id" .null) = false ∧
      SingboxOutbound.field platform d "id" = []
  type : hasHeader (platform.lower (Parsers.strOf platform (Parsers.get d "type" (str "none")))) =
    hasHeader (platform.lower (SingboxOutbound.field platform d "type"))
  scy : Parsers.orElse platform (Parsers.get d "scy" .null) (str "auto") =
    if SingboxOutbound.field platform d "scy" == [] then str "auto"
      else .string (SingboxOutbound.field platform d "scy")
  aid : platform.int (Parsers.orElse platform (Parsers.get d "aid" .null) (.int 0)) =
    some ((platform.tryParse (SingboxOutbound.field platform d "aid")).getD 0)
  tls : platform.lower (Parsers.strOf platform (Parsers.get d "tls" (str ""))) =
    platform.lower (SingboxOutbound.field platform d "tls")
  net : Parsers.get d "net" (str "tcp") =
    .string (if SingboxOutbound.field platform d "net" == [] then "tcp".toList
      else SingboxOutbound.field platform d "net")
  texts : ∀ key ∈ ["sni", "host", "alpn", "fp", "path"],
    Parsers.get d key (str "") = .string (SingboxOutbound.field platform d key)
  early : EarlyAlike platform (SingboxOutbound.field platform d "path")

def VmessAlike (platform : Platform) (link : List Char) : Prop :=
  Parsers.b64decode platform (link.drop "vmess://".length) =
      SingboxOutbound.decodeBase64Loose platform (link.drop "vmess://".length) ∧
    ∀ text members,
      SingboxOutbound.decodeBase64Loose platform (link.drop "vmess://".length) = some text →
        platform.json text = some (.object members) → FieldsAlike platform (.object members)

theorem vmess_alike (alike : VmessAlike platform link) :
    Parsers.parseVmess platform link = SingboxOutbound.vmess platform link := by
  obtain ⟨decodes, fields⟩ := alike
  rw [Parsers.parseVmess, SingboxOutbound.vmess, decodes]
  refine Option.bind_congr fun text there => ?_
  refine Option.bind_congr fun d read => ?_
  cases d with
  | object members =>
      have is := fields text members there read
      rcases is.id with id | ⟨falsy, blank⟩
      · simp only [is.add, is.port, id, is.type, is.scy, is.aid, is.tls, is.net,
          is.texts "sni" (by decide), is.texts "host" (by decide), is.texts "alpn" (by decide),
          is.texts "fp" (by decide), is.texts "path" (by decide), orElse_string, tls_string,
          truthy_string, Parsers.texts, transport_string (fun _ => is.early), Bool.not_not]
        cases platform.tryParse (SingboxOutbound.field platform (.object members) "port") with
        | none => simp only [Option.bind_none, ite_self]
        | some port => simp only [Option.bind_some, Option.some_beq_some]
      · simp only [falsy, blank, Bool.not_false, Bool.or_true, if_true, beq_self_eq_true,
          Option.bind_fun_none]
  | _ => rfl

end Unshown

section Links

/-- The schemes that both parsers know; `vless` and `trojan` are parsed alike. -/
inductive Scheme where
  | vmess
  | vlessTrojan
  | ss
  | hysteria2
  | tuic
  | anytls
  | wireguard
  | socks

/-- A share link of the scheme; one of `hysteria2` names a single port. -/
def Scheme.Of (platform : Platform) (link : List Char) : Scheme → Prop
  | vmess => startsWith "vmess://" link
  | vlessTrojan => startsWith "vless://" link ∨ startsWith "trojan://" link
  | ss => startsWith "ss://" link
  | hysteria2 => (startsWith "hysteria2://" link ∨ startsWith "hy2://" link) ∧
      SinglePort platform (replaceFirst "hy2://" "hysteria2://" link)
  | tuic => startsWith "tuic://" link
  | anytls => startsWith "anytls://" link
  | wireguard => startsWith "wireguard://" link ∨ startsWith "wg://" link
  | socks => startsWith "socks://" link ∨ startsWith "socks5://" link

/-- What the two read from a link is the same, for all that the scheme takes from it. -/
def Scheme.Alike (platform : Platform) (link : List Char) : Scheme → Prop
  | vmess => VmessAlike platform link
  | vlessTrojan => Decoded (· ≠ []) (VlessTrojanAlike platform) platform link
  | ss => SsAlike platform link
  | hysteria2 => Decoded (· ≠ []) (Hysteria2Alike platform) platform
      (replaceFirst "hy2://" "hysteria2://" link)
  | tuic => Decoded HasPassword TuicAlike platform link
  | anytls => Decoded (· ≠ []) AnytlsAlike platform link
  | wireguard => Decoded (· ≠ []) (WireguardAlike platform) platform
      (replaceFirst "wg://" "wireguard://" link)
  | socks => ∀ url port, Served platform (replaceFirst "socks5://" "socks://" link) url port →
      ∃ user, strict url.userInfo = some user ∧ SocksAlike platform user

/-- Whatever is read of a link of the scheme shows in its outbound. -/
def Scheme.Shows : Scheme → Prop
  | hysteria2 | tuic | anytls => True
  | _ => False

variable {platform : Platform} {link : List Char}

theorem startsWith_iff {start : String} :
    startsWith start link = true ↔ ∃ rest, link = start.toList ++ rest := by
  rw [startsWith, List.isPrefixOf_iff_prefix]
  exact exists_congr fun rest => eq_comm

/-- Which functions the two parsers call. -/
theorem Scheme.calls {scheme : Scheme} (of : scheme.Of platform link) :
    Parsers.parseUri platform link =
        (match scheme with
        | vmess => Parsers.parseVmess
        | vlessTrojan => Parsers.parseVlessTrojan
        | ss => Parsers.parseSs
        | hysteria2 => Parsers.parseHysteria2
        | tuic => Parsers.parseTuic
        | anytls => Parsers.parseAnytls
        | wireguard => Parsers.parseWireguard
        | socks => Parsers.parseSocks) platform link ∧
      SingboxOutbound.parseOutbound platform link =
        (match scheme with
        | vmess => SingboxOutbound.vmess
        | vlessTrojan => SingboxOutbound.vlessTrojan
        | ss => SingboxOutbound.ss
        | hysteria2 => SingboxOutbound.hysteria2
        | tuic => SingboxOutbound.tuic
        | anytls => SingboxOutbound.anytls
        | wireguard => SingboxOutbound.wireguard
        | socks => SingboxOutbound.socks) platform link := by
  cases scheme with
  | vmess =>
      obtain ⟨rest, rfl⟩ := startsWith_iff.mp of
      exact ⟨rfl, rfl⟩
  | vlessTrojan =>
      rcases of with of | of
      all_goals
        obtain ⟨rest, rfl⟩ := startsWith_iff.mp of
        exact ⟨rfl, rfl⟩
  | ss =>
      obtain ⟨rest, rfl⟩ := startsWith_iff.mp of
      exact ⟨rfl, rfl⟩
  | hysteria2 =>
      rcases of.1 with of | of
      all_goals
        obtain ⟨rest, rfl⟩ := startsWith_iff.mp of
        exact ⟨rfl, rfl⟩
  | tuic =>
      obtain ⟨rest, rfl⟩ := startsWith_iff.mp of
      exact ⟨rfl, rfl⟩
  | anytls =>
      obtain ⟨rest, rfl⟩ := startsWith_iff.mp of
      exact ⟨rfl, rfl⟩
  | wireguard =>
      rcases of with of | of
      all_goals
        obtain ⟨rest, rfl⟩ := startsWith_iff.mp of
        exact ⟨rfl, rfl⟩
  | socks =>
      rcases of with of | of
      all_goals
        obtain ⟨rest, rfl⟩ := startsWith_iff.mp of
        exact ⟨rfl, rfl⟩

end Links
section Samples

/-- The split of a link whose host has no brackets. -/
def plainSplit (link : List Char) : Option Url :=
  (Text.splitAround "://".toList link).bind fun (scheme, rest) =>
    let rest := ((Text.splitAround ['#'] rest).map Prod.fst).getD rest
    let (rest, query) := (Text.splitAround ['?'] rest).getD (rest, [])
    let authority := ((Text.splitAround ['/'] rest).map Prod.fst).getD rest
    let (userInfo, endpoint) := (Text.rsplitOnce '@' authority).getD ([], authority)
    let (host, port) := (Text.splitAround [':'] endpoint).getD (endpoint, [])
    some ⟨scheme, userInfo, host.map Char.toLower, SingboxOutbound.portNumber port, query⟩

theorem toLower_of_isLower {c : Char} (small : c.isLower = true) : c.toLower = c := by
  have low : 'a'.val ≤ c.val := decide_eq_true_iff.mp (Bool.and_eq_true_iff.mp small).1
  refine dif_neg ?_
  exact fun big => absurd (UInt32.le_trans low big.2) (by decide)

/-- Enough for links of plain characters, without Base64 or JSON. -/
def plainPlatform : Platform where
  split := plainSplit
  lower := List.map Char.toLower
  lower_small text small := by
    refine (List.map_congr_left fun c member => ?_).trans (List.map_id text)
    exact toLower_of_isLower (List.all_eq_true.mp small c member)
  eq_nil_of_lower _ := List.map_eq_nil_iff.mp
  json _ := none
  strip := Text.trim
  b64decode _ := none
  int value := (Parsers.texts value).bind fun text =>
    (SingboxOutbound.portNumber text).map Nat.cast
  isDigit text := text != [] && text.all Char.isDigit
  str _ := []
  nonzero _ := true
  trim := Text.jsTrim
  base64Decode _ := none
  tryParse text := (SingboxOutbound.portNumber text).map Nat.cast
  interpolated _ := []
  portList _ := none

/-- `sni` in the TLS section of an outbound. -/
def serverName (outbound : Option Json) : Option (List Char) :=
  ((outbound.bind (Json.opt · "tls")).bind (Json.opt · "server_name")).bind Parsers.texts

end Samples

end MolidoVpn.Links
