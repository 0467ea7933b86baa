import MolidoVpn.Socks.RuleText

/-!
Names in letters of either case. All matchers but the regular expressions look at a name without
its case; the decision of a rule set then depends on the case only where it is left to these.
-/

namespace MolidoVpn.Routing

open Lowercase (CaseTables SameButCase toLowercase)

def Matcher.plain : Matcher → Bool
  | .domainRegex _ => false
  | _ => true

section Hits

variable (tables : CaseTables) (rules : List Matcher) (name : List Char) (port : UInt16)

def plainHit : Bool :=
  rules.any fun rule =>
    rule.plain && rule.matches (toLowercase tables) (.domain name) port

def regexHit : Bool :=
  rules.any fun rule =>
    !rule.plain && rule.matches (toLowercase tables) (.domain name) port

end Hits

/-- What the plain rules leave to the regular expressions, these answer alike for both names. -/
def DecidedAlike (tables : CaseTables) (rules : RuleSet) (name other : List Char) (port : UInt16) :
    Prop :=
  plainHit tables rules.block name port = true ∨
    (regexHit tables rules.block name port = regexHit tables rules.block other port ∧
      (regexHit tables rules.block name port = true ∨
        plainHit tables rules.direct name port = true ∨
        regexHit tables rules.direct name port = regexHit tables rules.direct other port))

section Case

variable {tables : CaseTables} {rules : List Matcher} {name other : List Char} {port : UInt16}

theorem eqIgnoreAsciiCase_congr (same : SameButCase name other) (text : List Char) :
    eqIgnoreAsciiCase name text = eqIgnoreAsciiCase other text := by
  rw [eqIgnoreAsciiCase, eqIgnoreAsciiCase, same]

/-- Every matcher but a regular expression is blind to the case of the name. -/
theorem matches_sameButCase {rule : Matcher} (plain : rule.plain = true)
    (same : SameButCase name other) :
    rule.matches (toLowercase tables) (.domain name) port =
      rule.matches (toLowercase tables) (.domain other) port := by
  cases rule with
  | domainSuffix suffix => simp only [Matcher.matches, Lowercase.toLowercase_congr same]
  | domainFull full => exact eqIgnoreAsciiCase_congr same full
  | domainKeyword needle => simp only [Matcher.matches, Lowercase.toLowercase_congr same]
  | domainRegex isMatch => cases plain
  | net network => rfl
  | ports lo hi => rfl
  | isPrivate => exact eqIgnoreAsciiCase_congr same _

theorem plainHit_sameButCase (same : SameButCase name other) (rules : List Matcher)
    (port : UInt16) :
    plainHit tables rules name port = plainHit tables rules other port := by
  refine List.any_congr rfl fun rule => ?_
  cases plain : rule.plain with
  | false => rfl
  | true => rw [matches_sameButCase plain same]

theorem any_matches (rules : List Matcher) (name : List Char) (port : UInt16) :
    rules.any (Matcher.matches (toLowercase tables) (.domain name) port) =
      (plainHit tables rules name port || regexHit tables rules name port) := by
  induction rules with
  | nil => rfl
  | cons rule rules ih =>
      unfold plainHit regexHit at ih ⊢
      rw [List.any_cons, ih, List.any_cons, List.any_cons]
      cases rule.plain with
      | false =>
          rw [Bool.false_and, Bool.false_or, Bool.not_false, Bool.true_and]
          exact Bool.or_left_comm _ _ _
      | true =>
          rw [Bool.true_and, Bool.not_true, Bool.false_and, Bool.false_or]
          exact (Bool.or_assoc _ _ _).symm

/-- A decision, from what the two kinds of rules say. -/
theorem decide_domain (rules : RuleSet) (name : List Char) (port : UInt16) :
    rules.decide (toLowercase tables) (.domain name) port =
      if (plainHit tables rules.block name port || regexHit tables rules.block name port) = true
      then .block
      else if
        (plainHit tables rules.direct name port || regexHit tables rules.direct name port) = true
      then .direct
      else .proxy := by
  rw [RuleSet.decide, any_matches, any_matches]

end Case

/-- Names that differ in the case of letters only are routed alike exactly when the decision is
not left to regular expressions that tell them apart. -/
theorem routed_alike_iff (tables : CaseTables) (rules : RuleSet) (name other : List Char)
    (port : UInt16) (same : SameButCase name other) :
    rules.decide (toLowercase tables) (.domain name) port =
        rules.decide (toLowercase tables) (.domain other) port ↔
      DecidedAlike tables rules name other port := by
  rw [decide_domain, decide_domain, DecidedAlike, ← plainHit_sameButCase same rules.block,
    ← plainHit_sameButCase same rules.direct]
  cases plainHit tables rules.block name port <;>
    cases regexHit tables rules.block name port <;>
    cases regexHit tables rules.block other port <;>
    cases plainHit tables rules.direct name port <;>
    cases regexHit tables rules.direct name port <;>
    cases regexHit tables rules.direct other port <;> decide

def mixedRules : RuleSet :=
  RuleSet.parse literalCrates "full:ads.example,keyword:track".toList "corp.example".toList

theorem routed_alike_keyword :
    mixedRules.decide (toLowercase Lowercase.asciiTables) (.domain "my.Tracker".toList) 443 =
      mixedRules.decide (toLowercase Lowercase.asciiTables) (.domain "MY.tRACKer".toList) 443 :=
  (routed_alike_iff Lowercase.asciiTables mixedRules "my.Tracker".toList "MY.tRACKer".toList 443
    (by decide)).mpr (Or.inl (by decide +kernel))

/-- The rule blocks a name in small letters and lets the same name pass in capitals. -/
theorem regex_tells_case :
    ¬∀ (crates : Crates) (block direct name other : List Char) (port : UInt16),
      SameButCase name other →
      (RuleSet.parse crates block direct).decide (toLowercase crates.tables) (.domain name) port =
        (RuleSet.parse crates block direct).decide (toLowercase crates.tables) (.domain other)
          port := by
  intro claim
  have alike := claim literalCrates "regexp:ads".toList [] "ads.example".toList
    "ADS.example".toList 443 (by decide)
  revert alike
  decide +kernel

end MolidoVpn.Routing
