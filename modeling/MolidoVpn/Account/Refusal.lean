import MolidoVpn.Lib.Text

/-!
The account API over its two routes, and how a refused identity gets from a route
to the caller. Decoding a body and describing a rejection are parameters: they rest
on a JSON library.
-/

namespace MolidoVpn.Account

open Text (rsplitOnce trim)

/-- A wrapped error of a library is its text. -/
inductive AetherError where
  | io (text : List Char)
  | quic (text : List Char)
  | h3 (text : List Char)
  | tls (text : List Char)
  | ech (text : List Char)
  | masque (text : List Char)
  | noCleanEndpoint
  | capsule (text : List Char)
  | api (text : List Char)
  | identityRefused (text : List Char)
  | cancelled
  | other (text : List Char)
  deriving DecidableEq

def AetherError.display : AetherError → List Char
  | .io text => "io: ".toList ++ text
  | .quic text => "quic: ".toList ++ text
  | .h3 text => "h3: ".toList ++ text
  | .tls text => "tls: ".toList ++ text
  | .ech text => "ech: ".toList ++ text
  | .masque text => "masque: ".toList ++ text
  | .noCleanEndpoint => "prober: no clean endpoint found".toList
  | .capsule text => "capsule: ".toList ++ text
  | .api text => "api: ".toList ++ text
  | .identityRefused text => "identity refused: ".toList ++ text
  | .cancelled => "cancelled".toList
  | .other text => "other: ".toList ++ text

def AetherError.isIdentityRefused : AetherError → Bool
  | .identityRefused _ => true
  | _ => false

/-- What an answer says of the device, as far as it is used here. -/
structure AccountData where
  addressV4 : List Char
  addressV6 : List Char
  peerEndpointsV4 : List (List Char)
  organization : List Char
  httpProxy : List Char
  deriving DecidableEq

structure Identity where
  deviceId : List Char
  accessToken : List Char
  certPem : List UInt8
  keyPem : List UInt8
  certIssuedAt : UInt64
  ipv4 : List Char
  ipv6 : List Char
  wgPrivateKey : List UInt8
  wgPeerPublicKey : List UInt8
  clientId : List UInt8
  organization : List Char
  gatewayProxy : List Char
  assignedEndpoint : List Char
  refused : Bool
  deriving DecidableEq

abbrev Outcome := Except AetherError AccountData

def isSuccess (status : Nat) : Bool := 200 ≤ status && status < 300

def worthRetrying (status : Nat) : Bool :=
  status == 429 || status == 408 || (500 ≤ status && status < 600)

def refusesIdentity (status : Nat) : Bool := status == 401 || status == 404 || status == 410

def apiAttempts : Nat := 5

/-- What one attempt on the direct route comes to. -/
inductive Attempt where
  | notBuilt (error : List Char)
  | notSent (error : List Char)
  | answered (status : Nat) (body : Except (List Char) (List Char))

structure ApiResponse where
  status : Nat
  body : List Char
  route : List Char

section Routes

variable (decode : List Char → Except (List Char) AccountData)
  (describeRejection : Nat → List Char → List Char)

def sendWithRetryFrom (label : List Char) (attempts : Nat → Attempt) (attempt : Nat) :
    Nat → AetherError → Outcome
  | 0, lastError => .error lastError
  | remaining + 1, _ =>
      match attempts attempt with
      | .notBuilt error => .error (.api error)
      | .notSent error =>
          sendWithRetryFrom label attempts (attempt + 1) remaining
            (.api (label ++ ": ".toList ++ error))
      | .answered _ (.error error) => .error (.api (label ++ ": ".toList ++ error))
      | .answered status (.ok body) =>
          let rejection := label ++ ": ".toList ++ describeRejection status body
          if isSuccess status then
            (decode body).mapError fun error =>
              .api (label ++ " decode: ".toList ++ error ++ "; body=".toList ++ body)
          else if refusesIdentity status then .error (.identityRefused rejection)
          else if worthRetrying status then
            sendWithRetryFrom label attempts (attempt + 1) remaining (.api rejection)
          else .error (.api rejection)

def sendWithRetry (label : List Char) (attempts : Nat → Attempt) : Outcome :=
  sendWithRetryFrom decode describeRejection label attempts 0 apiAttempts
    (.api (label ++ ": no attempt was made".toList))

/-- `apifront::fetch` on what the exchanges with its candidates come to, in their order. -/
def fetchFrom (rejection : Option ApiResponse) (failure : Option AetherError) :
    List (Except AetherError ApiResponse) → Except AetherError ApiResponse
  | [] =>
      match rejection with
      | some response => .ok response
      | none => .error (failure.getD (.api "every camouflaged route failed".toList))
  | .ok response :: rest =>
      if isSuccess response.status then .ok response
      else if rejection.isNone || response.status != 403 then
        fetchFrom (some response) failure rest
      else fetchFrom rejection failure rest
  | .error error :: rest => fetchFrom rejection (some error) rest

def fallbackCall (label : List Char) (exchanges : List (Except AetherError ApiResponse)) :
    Outcome :=
  match fetchFrom none none exchanges with
  | .error error => .error error
  | .ok response =>
      let described := label ++ " over ".toList ++ response.route ++ ": ".toList ++
        describeRejection response.status response.body
      if isSuccess response.status then
        (decode response.body).mapError fun error =>
          .api (label ++ " decode over ".toList ++ response.route ++ ": ".toList ++ error ++
            "; body=".toList ++ response.body)
      else if refusesIdentity response.status then .error (.identityRefused described)
      else .error (.api described)

end Routes

/-- The device is gone, says this outcome. -/
def Refused : Outcome → Prop
  | .error error => error.isIdentityRefused = true
  | .ok _ => False

def Failed : Outcome → Prop
  | .error _ => True
  | .ok _ => False

/-- `enroll_key` on what its routes come to; the second is asked only when the first fails. -/
def enrollKey (direct camouflaged : Outcome) : Outcome :=
  match direct with
  | .ok account => .ok account
  | .error primary =>
      match camouflaged with
      | .ok account => .ok account
      | .error secondary =>
          let combined := "key enrollment: direct route -> ".toList ++ primary.display ++
            "; camouflaged route -> ".toList ++ secondary.display
          if primary.isIdentityRefused || secondary.isIdentityRefused then
            .error (.identityRefused combined)
          else .error (.api combined)

def fetchDevice (direct camouflaged : Outcome) : Outcome :=
  match direct with
  | .ok account => .ok account
  | .error _ => camouflaged

def endpointFrom (reg : AccountData) : List Char :=
  let raw := (reg.peerEndpointsV4.head?.map trim).getD []
  match rsplitOnce ':' raw with
  | some (host, _) => if host.isEmpty then raw else host
  | none => raw

/-- `refresh_profile` on what `fetch_device` comes to. -/
def refreshProfile (identity : Identity) : Outcome → Identity
  | .error (.identityRefused _) => { identity with refused := true }
  | .error _ => identity
  | .ok reg =>
      let ipv4 := trim reg.addressV4
      let ipv6 := trim reg.addressV6
      { identity with
        ipv4 := if ipv4.isEmpty then identity.ipv4 else ipv4
        ipv6 := if ipv6.isEmpty then identity.ipv6 else ipv6
        organization := trim reg.organization
        gatewayProxy := trim reg.httpProxy
        assignedEndpoint := endpointFrom reg
        refused := false }

section Routes

variable {decode : List Char → Except (List Char) AccountData}
  {describeRejection : Nat → List Char → List Char} {label : List Char}

/-- The attempt is followed by another one. -/
def Attempt.retried : Attempt → Bool
  | .notSent _ => true
  | .answered status (.ok _) => !isSuccess status && !refusesIdentity status && worthRetrying status
  | _ => false

def Attempt.refuses : Attempt → Bool
  | .answered status (.ok _) => refusesIdentity status
  | _ => false

theorem isSuccess_of_refusesIdentity {status : Nat} (refuses : refusesIdentity status = true) :
    isSuccess status = false := by
  simp only [refusesIdentity, Bool.or_eq_true, beq_iff_eq] at refuses
  simp only [isSuccess, Bool.and_eq_false_iff, decide_eq_false_iff_not]
  omega

private theorem refused_decoded {body : List Char} {other : List Char → AetherError}
    (plain : ∀ error, (other error).isIdentityRefused = false) :
    ¬ Refused ((decode body).mapError other) := by
  cases decode body with
  | ok account => exact id
  | error error =>
      change ¬ (other error).isIdentityRefused = true
      rw [plain error]
      exact Bool.false_ne_true

section Attempts

variable {attempts : Nat → Attempt} {attempt : Nat}

/-- An attempt that is not retried decides alone. -/
private theorem refusal_of_final (final : (attempts attempt).retried = false) (remaining : Nat) :
    (∃ count < remaining + 1, (∀ earlier < count, (attempts (attempt + earlier)).retried = true) ∧
      (attempts (attempt + count)).refuses = true) ↔ (attempts attempt).refuses = true := by
  constructor
  · rintro ⟨count, _, retried, refuses⟩
    cases count with
    | zero => exact refuses
    | succ count =>
        have first := retried 0 (Nat.succ_pos _)
        rw [Nat.add_zero, final] at first
        cases first
  · intro refuses
    exact ⟨0, Nat.succ_pos _, fun _ impossible => absurd impossible (Nat.not_lt_zero _), refuses⟩

/-- One that is retried leaves it to those behind it. -/
private theorem refusal_of_retried (retried : (attempts attempt).retried = true)
    (silent : (attempts attempt).refuses = false) (remaining : Nat) :
    (∃ count < remaining + 1, (∀ earlier < count, (attempts (attempt + earlier)).retried = true) ∧
      (attempts (attempt + count)).refuses = true) ↔
    ∃ count < remaining, (∀ earlier < count, (attempts (attempt + 1 + earlier)).retried = true) ∧
      (attempts (attempt + 1 + count)).refuses = true := by
  have place (count : Nat) : attempt + (count + 1) = attempt + 1 + count := by omega
  constructor
  · rintro ⟨count, within, before, refuses⟩
    cases count with
    | zero =>
        rw [Nat.add_zero, silent] at refuses
        cases refuses
    | succ count =>
        rw [place] at refuses
        refine ⟨count, by omega, ?_, refuses⟩
        intro earlier less
        rw [← place]
        exact before (earlier + 1) (by omega)
  · rintro ⟨count, within, before, refuses⟩
    rw [← place] at refuses
    refine ⟨count + 1, by omega, ?_, refuses⟩
    intro earlier less
    cases earlier with
    | zero => exact retried
    | succ earlier =>
        rw [place]
        exact before earlier (by omega)

end Attempts

/-- The attempts from here on: some are retried, and one that refuses ends them. -/
private theorem sendWithRetryFrom_refused_iff {attempts : Nat → Attempt} {remaining : Nat} :
    ∀ (attempt : Nat) (lastError : AetherError), lastError.isIdentityRefused = false →
      (Refused (sendWithRetryFrom decode describeRejection label attempts attempt remaining
          lastError) ↔
        ∃ count < remaining, (∀ earlier < count, (attempts (attempt + earlier)).retried = true) ∧
          (attempts (attempt + count)).refuses = true) := by
  induction remaining with
  | zero =>
      intro attempt lastError plain
      rw [sendWithRetryFrom, Refused, plain]
      simp only [Bool.false_eq_true, Nat.not_lt_zero, false_and, exists_false]
  | succ remaining ih =>
      intro attempt lastError _
      have decided (outcome : Outcome) (final : (attempts attempt).retried = false)
          (same : Refused outcome ↔ (attempts attempt).refuses = true) :=
        same.trans (refusal_of_final final remaining).symm
      have retries (error : AetherError) (plain : error.isIdentityRefused = false)
          (retried : (attempts attempt).retried = true)
          (silent : (attempts attempt).refuses = false) :=
        (ih (attempt + 1) error plain).trans (refusal_of_retried retried silent remaining).symm
      rw [sendWithRetryFrom]
      cases made : attempts attempt with
      | notBuilt error =>
          refine decided _ (by rw [made]; rfl) ?_
          rw [made]
          exact iff_of_false Bool.false_ne_true Bool.false_ne_true
      | notSent error => exact retries _ rfl (by rw [made]; rfl) (by rw [made]; rfl)
      | answered status answer =>
          cases answer with
          | error error =>
              refine decided _ (by rw [made]; rfl) ?_
              rw [made]
              exact iff_of_false Bool.false_ne_true Bool.false_ne_true
          | ok body =>
              simp only
              by_cases success : isSuccess status = true
              · rw [if_pos success]
                refine decided _ (by rw [made, Attempt.retried, success]; rfl) ?_
                rw [made]
                refine iff_of_false (refused_decoded fun _ => rfl) ?_
                intro refuses
                rw [isSuccess_of_refusesIdentity refuses] at success
                cases success
              · rw [if_neg success]
                by_cases refuses : refusesIdentity status = true
                · rw [if_pos refuses]
                  refine decided _ ?_ ?_
                  · rw [made, Attempt.retried, refuses, Bool.not_true, Bool.and_false,
                      Bool.false_and]
                  · rw [made]
                    exact iff_of_true rfl refuses
                · rw [if_neg refuses]
                  have silent : (attempts attempt).refuses = false := by
                    rw [made]
                    exact Bool.eq_false_iff.mpr refuses
                  by_cases worth : worthRetrying status = true
                  · rw [if_pos worth]
                    refine retries _ rfl ?_ silent
                    rw [made, Attempt.retried, worth, Bool.eq_false_iff.mpr success,
                      Bool.eq_false_iff.mpr refuses]
                    rfl
                  · rw [if_neg worth]
                    refine decided _ ?_ ?_
                    · rw [made, Attempt.retried, Bool.eq_false_iff.mpr worth, Bool.and_false]
                    · rw [silent]
                      exact iff_of_false Bool.false_ne_true Bool.false_ne_true

end Routes

/-- If a route hears that the device is gone and none succeeds, the operation says so. -/
def Reports (direct camouflaged result : Outcome) : Prop :=
  Refused direct ∨ Refused camouflaged → Failed direct → Failed camouflaged → Refused result

theorem enrollKey_reports (direct camouflaged : Outcome) :
    Reports direct camouflaged (enrollKey direct camouflaged) := by
  intro either directFailed camouflagedFailed
  cases direct with
  | ok account => exact directFailed.elim
  | error primary =>
      cases camouflaged with
      | ok account => exact camouflagedFailed.elim
      | error secondary =>
          have merged : (primary.isIdentityRefused || secondary.isIdentityRefused) = true :=
            Bool.or_eq_true_iff.mpr either
          rw [enrollKey, if_pos merged]
          rfl

theorem fetchDevice_reports_iff (direct camouflaged : Outcome) :
    Reports direct camouflaged (fetchDevice direct camouflaged) ↔
      ¬ (Refused direct ∧ Failed camouflaged ∧ ¬ Refused camouflaged) := by
  cases direct with
  | ok account =>
      refine iff_of_true ?_ ?_
      · intro _ directFailed
        exact directFailed.elim
      · rintro ⟨impossible, _⟩
        exact impossible
  | error primary =>
      constructor
      · rintro reports ⟨refused, failed, silent⟩
        exact silent (reports (Or.inl refused) trivial failed)
      · intro condition either _ failed
        by_contra silent
        rcases either with refused | refused
        · exact condition ⟨refused, failed, silent⟩
        · exact silent refused

theorem refreshProfile_refused (identity : Identity) {fetched : Outcome}
    (refused : Refused fetched) : (refreshProfile identity fetched).refused = true := by
  cases fetched with
  | ok account => exact refused.elim
  | error error =>
      cases error with
      | identityRefused reason => rfl
      | _ => cases refused

/-- Both operations report a refusal, and the profile is marked, exactly when the camouflaged
route does not fail for another reason after the direct one was refused. -/
theorem refusal_reported_iff (direct camouflaged : Outcome) :
    (Reports direct camouflaged (enrollKey direct camouflaged) ∧
      Reports direct camouflaged (fetchDevice direct camouflaged) ∧
      ∀ identity, Refused direct ∨ Refused camouflaged → Failed direct → Failed camouflaged →
        (refreshProfile identity (fetchDevice direct camouflaged)).refused = true) ↔
      ¬ (Refused direct ∧ Failed camouflaged ∧ ¬ Refused camouflaged) := by
  rw [← fetchDevice_reports_iff]
  constructor
  · rintro ⟨_, reports, _⟩
    exact reports
  · intro reports
    refine ⟨enrollKey_reports direct camouflaged, reports, ?_⟩
    intro identity either directFailed camouflagedFailed
    exact refreshProfile_refused identity (reports either directFailed camouflagedFailed)

/-- The direct route is told that the device is gone, and the camouflaged one that the network is
not welcome: the refusal is lost. -/
theorem refusal_lost_behind_forbidden :
    ¬ ∀ direct camouflaged : Outcome,
      Reports direct camouflaged (enrollKey direct camouflaged) ∧
      Reports direct camouflaged (fetchDevice direct camouflaged) ∧
      ∀ identity, Refused direct ∨ Refused camouflaged → Failed direct → Failed camouflaged →
        (refreshProfile identity (fetchDevice direct camouflaged)).refused = true := by
  intro always
  have gone := always
    (sendWithRetry (fun _ => .error []) (fun _ _ => []) "device refresh".toList
      fun _ => .answered 401 (.ok []))
    (fallbackCall (fun _ => .error []) (fun _ _ => []) "device refresh".toList
      [.ok ⟨403, [], []⟩])
  exact Bool.false_ne_true (gone.2.1 (Or.inl rfl) trivial trivial)

end MolidoVpn.Account
